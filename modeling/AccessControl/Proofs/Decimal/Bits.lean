/-
**Doubles and their bits.**

* `neg_ofBits` — turning the sign bit of a double that is a number negates it.
* `Binary` — the mantissas and exponents of doubles; `bits` — their bits without the sign.
* `Stands` — which double parts stand for; `stands_parts` — **a double is the one that its parts
  stand for**, so it is known from them alone.
-/

import Mathlib
import AccessControl.Decimal.Double

namespace AccessControl.Decimal

open Float.Model (Format)
open Float.Model.UnpackedFloat (Sign isNaNBits packedNaN pack_unpack unpack unpackMantissa
  unpackExponent unpackSign unpackMantissa_def unpackExponent_def unpackSign_def)

/-! ### Fields -/

theorem toNat_unpackMantissa (bits : UInt64) :
    (@unpackMantissa .binary64 bits.toBitVec).toNat = bits.toNat % hiddenBit := by
  rw [unpackMantissa_def, BitVec.extractLsb'_toNat]
  rfl

theorem toNat_unpackExponent (bits : UInt64) :
    (@unpackExponent .binary64 bits.toBitVec).toNat = bits.toNat / hiddenBit % 2048 := by
  rw [unpackExponent_def, BitVec.extractLsb'_toNat, Nat.shiftRight_eq_div_pow]
  rfl

theorem toNat_unpackSign (bits : UInt64) :
    (@unpackSign .binary64 bits.toBitVec).toNat = bits.toNat / (2048 * hiddenBit) % 2 := by
  rw [unpackSign_def, BitVec.extractLsb'_toNat, Nat.shiftRight_eq_div_pow]
  rfl

/-- Bits up to those of infinity are kept, beside any sign. -/
theorem toBits_ofBits {bits : UInt64}
    (number : bits.toNat % (2048 * hiddenBit) ≤ 2047 * hiddenBit) :
    (Float.ofBits bits).toBits = bits := by
  have different : ¬ @isNaNBits .binary64 bits.toBitVec = true := by
    unfold isNaNBits
    rw [decide_eq_true_eq, not_and, not_not]
    intro full
    have field : bits.toNat / hiddenBit % 2048 = 2047 := by
      rw [← toNat_unpackExponent, full]
      rfl
    have fraction : bits.toNat % hiddenBit = 0 := by
      unfold hiddenBit at *
      omega
    refine BitVec.eq_of_toNat_eq ?_
    rw [toNat_unpackMantissa, fraction]
    rfl
  exact UInt64.toBitVec_inj.mp ((pack_unpack _).trans (if_neg different))

/-- Bits that differ in the sign are unpacked as opposites. -/
theorem neg_unpack {one other : BitVec Format.binary64.numBits}
    (mantissa : unpackMantissa other = unpackMantissa one)
    (exponent : unpackExponent other = unpackExponent one)
    (sign : Sign.ofBitVec (unpackSign other) = -Sign.ofBitVec (unpackSign one)) :
    (unpack .binary64 one).neg = unpack .binary64 other := by
  unfold unpack
  simp only [mantissa, exponent, sign]
  split_ifs <;> rfl

variable {x : Float}

/-- **Turning the sign bit of a double above zero negates it.** -/
theorem neg_ofBits {bits turned : UInt64} (number : bits.toNat ≤ 2047 * hiddenBit)
    (sign : turned.toNat = bits.toNat + 2048 * hiddenBit) :
    -Float.ofBits bits = Float.ofBits turned := by
  unfold hiddenBit at number sign
  have kept : (Float.ofBits bits).toBits = bits := toBits_ofBits (by unfold hiddenBit; omega)
  have mantissa : @unpackMantissa .binary64 turned.toBitVec =
      @unpackMantissa .binary64 bits.toBitVec := by
    refine BitVec.eq_of_toNat_eq ?_
    rw [toNat_unpackMantissa, toNat_unpackMantissa, sign]
    unfold hiddenBit
    omega
  have exponent : @unpackExponent .binary64 turned.toBitVec =
      @unpackExponent .binary64 bits.toBitVec := by
    refine BitVec.eq_of_toNat_eq ?_
    rw [toNat_unpackExponent, toNat_unpackExponent, sign]
    unfold hiddenBit
    omega
  have positive : @unpackSign .binary64 bits.toBitVec = 0#1 := by
    refine BitVec.eq_of_toNat_eq ?_
    rw [toNat_unpackSign, BitVec.toNat_ofNat]
    unfold hiddenBit
    omega
  have negative : @unpackSign .binary64 turned.toBitVec = 1#1 := by
    refine BitVec.eq_of_toNat_eq ?_
    rw [toNat_unpackSign, BitVec.toNat_ofNat, sign]
    unfold hiddenBit
    omega
  have opposite := neg_unpack mantissa exponent (by rw [positive, negative]; rfl)
  show Float.ofModel (Float.Model.pack (unpack .binary64 (Float.ofBits bits).toBits.toBitVec).neg) =
    Float.ofModel (Float.Model.pack (unpack .binary64 turned.toBitVec))
  rw [kept, opposite]

/-! ### Parts -/

/-- The mantissas and exponents of doubles: 53 bits, all of them used above the least exponent. -/
structure Binary (mantissa : Nat) (exponent : Int) : Prop where
  short : mantissa < 2 * hiddenBit
  least : leastExponent ≤ exponent
  greatest : exponent ≤ 971
  normal : hiddenBit ≤ mantissa ∨ exponent = leastExponent

/-- The bits of `mantissa · 2 ^ exponent`. -/
def bits (mantissa : Nat) (exponent : Int) : Nat :=
  mantissa + (exponent - leastExponent).toNat * hiddenBit

theorem Binary.bits_lt {mantissa : Nat} {exponent : Int} (binary : Binary mantissa exponent) :
    bits mantissa exponent < 2047 * hiddenBit := by
  obtain ⟨short, least, greatest, -⟩ := binary
  unfold bits
  unfold hiddenBit leastExponent at *
  omega

/-- The double that parts stand for. -/
inductive Stands : Parts → Float → Prop where
  | nan : Stands .nan (0 / 0)
  | infinite (negative : Bool) : Stands (.infinite negative) (signed negative (1 / 0))
  | finite (negative : Bool) {mantissa : Nat} {exponent : Int} (binary : Binary mantissa exponent) :
      Stands (.finite negative mantissa exponent)
        (signed negative (Float.ofBits (UInt64.ofNat (bits mantissa exponent))))

/-- A double is known from its sign and the rest of its bits. -/
theorem signed_ofBits {negative : Bool} {rest : Nat} (number : rest ≤ 2047 * hiddenBit)
    (own : x.toBits.toNat = rest + if negative then 2048 * hiddenBit else 0) :
    signed negative (Float.ofBits (UInt64.ofNat rest)) = x := by
  have small : rest < UInt64.size := by
    unfold hiddenBit at number
    unfold UInt64.size
    omega
  have kept : (UInt64.ofNat rest).toNat = rest := UInt64.toNat_ofNat_of_lt' small
  cases negative with
  | true =>
    show -Float.ofBits _ = x
    rw [neg_ofBits (kept.symm ▸ number) (kept.symm ▸ own), Float.ofBits_toBits]
  | false =>
    have same : UInt64.ofNat rest = x.toBits := UInt64.toNat_inj.mp (kept.trans own.symm)
    show Float.ofBits _ = x
    rw [same, Float.ofBits_toBits]

theorem bits_fields {bits : Nat} (size : bits < 4096 * hiddenBit) :
    bits = bits / hiddenBit % 2048 * hiddenBit + bits % hiddenBit +
      if decide (2048 * hiddenBit ≤ bits) = true then 2048 * hiddenBit else 0 := by
  unfold hiddenBit at *
  split <;> rename_i sign <;> rw [decide_eq_true_eq] at sign <;> omega

/-- A full exponent field beside a fraction is no number, and there is one such double. -/
theorem eq_nan (full : x.toBits.toNat / hiddenBit % 2048 = 2047)
    (fraction : x.toBits.toNat % hiddenBit ≠ 0) : x = 0 / 0 := by
  have exponent : @unpackExponent .binary64 x.toBits.toBitVec = -1#11 := by
    refine BitVec.eq_of_toNat_eq ?_
    rw [toNat_unpackExponent, full]
    rfl
  have mantissa : @unpackMantissa .binary64 x.toBits.toBitVec ≠ 0#52 := fun zero => by
    rw [← toNat_unpackMantissa, zero] at fraction
    exact fraction rfl
  have packed := x.toModel.valid.eq_packedNaN exponent mantissa
  have same : packedNaN .binary64 = (0 / 0 : Float).toBits.toBitVec := by decide +kernel
  exact Float.toBits_inj.mp (UInt64.toBitVec_inj.mp (packed.trans same))

/-- **A double is the one that its parts stand for.** -/
theorem stands_parts (x : Float) : Stands (parts x) x := by
  have own := bits_fields x.toBits.toNat_lt
  have field_lt : x.toBits.toNat / hiddenBit % 2048 < 2048 := Nat.mod_lt _ (by decide)
  have fraction_lt : x.toBits.toNat % hiddenBit < hiddenBit := Nat.mod_lt _ (by decide)
  have noNumber := @eq_nan x
  unfold parts
  dsimp only
  generalize decide (2048 * hiddenBit ≤ x.toBits.toNat) = negative at own ⊢
  generalize x.toBits.toNat / hiddenBit % 2048 = field at *
  generalize x.toBits.toNat % hiddenBit = fraction at *
  have finite {mantissa : Nat} {exponent : Int} (binary : Binary mantissa exponent)
      (same : bits mantissa exponent = field * hiddenBit + fraction) :
      Stands (.finite negative mantissa exponent) x := by
    rw [← same] at own
    have known := signed_ofBits binary.bits_lt.le own
    exact known ▸ .finite negative binary
  split_ifs with full whole subnormal
  · have infinite : (1 / 0 : Float) = Float.ofBits (UInt64.ofNat (2047 * hiddenBit)) := by
      decide +kernel
    rw [full, whole, Nat.add_zero] at own
    have same := signed_ofBits (le_refl (2047 * hiddenBit)) own
    rw [← same, ← infinite]
    exact .infinite negative
  · exact noNumber full whole ▸ .nan
  · refine finite ⟨by omega, le_refl _, by decide, .inr rfl⟩ ?_
    rw [subnormal, bits, Int.sub_self, Int.toNat_zero]
    omega
  · refine finite ⟨by omega, by omega, ?_, .inl (by omega)⟩ ?_
    · unfold leastExponent
      omega
    · unfold bits hiddenBit
      omega

end AccessControl.Decimal

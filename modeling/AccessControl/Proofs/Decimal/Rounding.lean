/-
**The double nearest to a quotient.**

* `quotient` — a pair of natural numbers as a fraction; `quotient_scaled`.
* `Near`, `roundEven_eq` — what rounds to a whole number, a tie going to the even one.
* `RoundsTo` — the numbers that round to `mantissa · 2 ^ exponent`: up to half a step of the last
  bit on both sides, below a power of two a quarter of it, the ends exactly at an even mantissa.
* `Scale`, `nearest_of_scale` — the exponent at which a number is rounded to whole steps.
* `nearest_eq` — **a quotient is rounded to the double to which it rounds.**
-/

import AccessControl.Proofs.Decimal.Bits
import AccessControl.Proofs.Decimal.Digits

namespace AccessControl.Decimal

variable {numerator denominator : Nat}

/-! ### Quotients -/

def quotient (pair : Nat × Nat) : ℚ := pair.1 / pair.2

/-- Scaling multiplies with the power. -/
theorem quotient_scaled {base : Nat} (above : 0 < base) (numerator denominator : Nat)
    (exponent : Int) : quotient (scaled base numerator denominator exponent) =
      numerator / denominator * (base : ℚ) ^ exponent := by
  have positive : (0 : ℚ) < base := Nat.cast_pos.mpr above
  unfold quotient scaled
  split_ifs with upward
  · obtain ⟨power, rfl⟩ := Int.eq_ofNat_of_zero_le upward
    simp only [Int.toNat_natCast, Nat.pow_eq, Nat.cast_mul, Nat.cast_pow, zpow_natCast]
    ring
  · obtain ⟨power, rfl⟩ : ∃ power : Nat, exponent = -power := ⟨(-exponent).toNat, by omega⟩
    simp only [neg_neg, Int.toNat_natCast, Nat.pow_eq, Nat.cast_mul, Nat.cast_pow, zpow_neg,
      zpow_natCast]
    field_simp

theorem quotient_decimal (digits : Nat) (place : Int) :
    quotient (scaled 10 digits 1 place) = digits * 10 ^ place := by
  rw [quotient_scaled (by decide), Nat.cast_one, div_one, Nat.cast_ofNat]

theorem div_lt_iff_quotient_lt {pair : Nat × Nat} {whole : Nat} :
    pair.1 / pair.2 < whole ↔ quotient pair < whole := by
  have positive : 0 ≤ quotient pair := by unfold quotient; positivity
  rw [← Nat.floor_div_eq_div (K := ℚ), ← Nat.floor_lt positive]
  rfl

/-- The numbers that round to a whole one. -/
structure Near (whole : Nat) (number : ℚ) : Prop where
  low : whole - 1 / 2 ≤ number
  high : number ≤ whole + 1 / 2
  odd : whole % 2 = 1 → whole - 1 / 2 < number ∧ number < whole + 1 / 2

/-- The whole number at most half a denominator away, an even one at exactly half. -/
theorem roundEven_of_bounds {whole : Nat} (positive : 0 < denominator)
    (low : 2 * (whole * denominator) ≤ 2 * numerator + denominator)
    (high : 2 * numerator ≤ 2 * (whole * denominator) + denominator)
    (odd : whole % 2 = 1 → 2 * (whole * denominator) < 2 * numerator + denominator ∧
      2 * numerator < 2 * (whole * denominator) + denominator) :
    roundEven numerator denominator = whole := by
  have parts := Nat.div_add_mod' numerator denominator
  have rest := Nat.mod_lt numerator positive
  unfold roundEven
  dsimp only
  generalize numerator / denominator = below at *
  generalize numerator % denominator = left at *
  subst parts
  have least : below ≤ whole := by nlinarith
  have greatest : whole ≤ below + 1 := by nlinarith
  obtain rfl | rfl : whole = below ∨ whole = below + 1 := by omega
  · rw [if_neg]
    omega
  · rw [Nat.add_mul, Nat.one_mul] at odd low high
    rw [if_pos]
    omega

/-- **A quotient is rounded to the whole number that it rounds to.** -/
theorem roundEven_eq {whole : Nat} (positive : 0 < denominator)
    (near : Near whole (numerator / denominator)) : roundEven numerator denominator = whole := by
  have above : (0 : ℚ) < denominator := Nat.cast_pos.mpr positive
  obtain ⟨low, high, odd⟩ := near
  rw [le_div_iff₀ above] at low
  rw [div_le_iff₀ above] at high
  rw [lt_div_iff₀ above, div_lt_iff₀ above] at odd
  have low : (2 * (whole * denominator) : ℚ) ≤ 2 * numerator + denominator := by linarith
  have high : (2 * numerator : ℚ) ≤ 2 * (whole * denominator) + denominator := by linarith
  have odd : whole % 2 = 1 → (2 * (whole * denominator) : ℚ) < 2 * numerator + denominator ∧
      (2 * numerator : ℚ) < 2 * (whole * denominator) + denominator := fun own =>
    ⟨by linarith [(odd own).1], by linarith [(odd own).2]⟩
  exact roundEven_of_bounds positive (by exact_mod_cast low) (by exact_mod_cast high)
    (by exact_mod_cast odd)

/-! ### The double nearest to a quotient -/

/-- How far below a double the numbers reach that round to it, in steps of its last bit. -/
def gap (mantissa : Nat) (exponent : Int) : ℚ :=
  if mantissa = hiddenBit ∧ leastExponent < exponent then 1 / 4 else 1 / 2

/-- The numbers that round to a double above zero. -/
structure RoundsTo (mantissa : Nat) (exponent : Int) (number : ℚ) : Prop where
  low : (mantissa - gap mantissa exponent) * 2 ^ exponent ≤ number
  high : number ≤ (mantissa + 1 / 2) * 2 ^ exponent
  odd : mantissa % 2 = 1 → (mantissa - gap mantissa exponent) * 2 ^ exponent < number ∧
    number < (mantissa + 1 / 2) * 2 ^ exponent

theorem RoundsTo.of_inside {mantissa : Nat} {exponent : Int} {number : ℚ}
    (low : (mantissa - gap mantissa exponent) * 2 ^ exponent < number)
    (high : number < (mantissa + 1 / 2) * 2 ^ exponent) : RoundsTo mantissa exponent number :=
  ⟨low.le, high.le, fun _ => ⟨low, high⟩⟩

/-- The exponent at which a number is rounded: the one at which it has 53 bits, or the least. -/
structure Scale (number : ℚ) (exponent : Int) : Prop where
  least : leastExponent ≤ exponent
  short : number < 2 * hiddenBit * 2 ^ exponent
  normal : hiddenBit * 2 ^ exponent ≤ number ∨ exponent = leastExponent

/-- A number has one scale. Rounded at a greater exponent than another, it would be too short for
it. -/
theorem Scale.unique {number : ℚ} {one other : Int} (first : Scale number one)
    (second : Scale number other) : one = other := by
  have ordered {low high : Int} (short : Scale number low) (long : Scale number high) :
      high ≤ low := by
    by_contra less
    rw [not_le] at less
    have normal : hiddenBit * (2 : ℚ) ^ high ≤ number :=
      long.normal.resolve_right (by have := short.least; omega)
    have step : (2 : ℚ) * 2 ^ low ≤ 2 ^ high := by
      rw [← zpow_one_add₀ (by norm_num)]
      exact zpow_le_zpow_right₀ (by norm_num) (by omega)
    have bit : (0 : ℚ) < hiddenBit := by
      unfold hiddenBit
      norm_num
    nlinarith [short.short]
  exact le_antisymm (ordered second first) (ordered first second)

/-- A number of 53 bits above its exponent is rounded there, or at the least exponent. -/
theorem Scale.of_bits {number : ℚ} {exponent : Int} (low : hiddenBit * 2 ^ exponent ≤ number)
    (high : number < 2 * hiddenBit * 2 ^ exponent) :
    Scale number (max leastExponent exponent) := by
  have grows : (2 : ℚ) ^ exponent ≤ 2 ^ max leastExponent exponent :=
    zpow_le_zpow_right₀ (by norm_num) (le_max_right _ _)
  refine ⟨le_max_left _ _, high.trans_le (by gcongr), ?_⟩
  rcases le_total leastExponent exponent with ordered | ordered
  · rw [max_eq_right ordered]
    exact .inl low
  · exact .inr (max_eq_left ordered)

/-- The lengths of numerator and denominator tell the size of the quotient to two bits. -/
theorem quotient_bounds (positive : 0 < numerator) (divided : 0 < denominator) {guess : Int}
    (lengths : guess = (numerator.log2 : Int) - denominator.log2 - 53) :
    (hiddenBit : ℚ) * 2 ^ guess ≤ numerator / denominator ∧
      (numerator / denominator : ℚ) < 2 * hiddenBit * 2 ^ (guess + 1) := by
  have above : (0 : ℚ) < denominator := Nat.cast_pos.mpr divided
  have power (shift : Int) : (hiddenBit : ℚ) * 2 ^ shift = 2 ^ (52 + shift) := by
    rw [zpow_add₀ (by norm_num)]
    norm_num [hiddenBit]
  have double (shift : Int) : (2 : ℚ) * 2 ^ shift = 2 ^ (1 + shift) := by
    rw [zpow_one_add₀ (by norm_num)]
  have numeratorLow : (2 : ℚ) ^ (numerator.log2 : Int) ≤ numerator := by
    exact_mod_cast Nat.log2_self_le positive.ne'
  have numeratorHigh : (numerator : ℚ) < 2 ^ (numerator.log2 + 1 : Int) := by
    exact_mod_cast Nat.lt_log2_self
  have denominatorLow : (2 : ℚ) ^ (denominator.log2 : Int) ≤ denominator := by
    exact_mod_cast Nat.log2_self_le divided.ne'
  have denominatorHigh : (denominator : ℚ) < 2 ^ (denominator.log2 + 1 : Int) := by
    exact_mod_cast Nat.lt_log2_self
  constructor
  · rw [power, le_div_iff₀ above]
    calc (2 : ℚ) ^ (52 + guess) * denominator
        ≤ 2 ^ (52 + guess) * 2 ^ (denominator.log2 + 1 : Int) := by gcongr
      _ = 2 ^ (numerator.log2 : Int) := by
          rw [← zpow_add₀ (by norm_num)]
          congr 1
          omega
      _ ≤ numerator := numeratorLow
  · rw [mul_assoc, power, double, div_lt_iff₀ above]
    calc (numerator : ℚ) < 2 ^ (numerator.log2 + 1 : Int) := numeratorHigh
      _ = 2 ^ (1 + (52 + (guess + 1))) * 2 ^ (denominator.log2 : Int) := by
          rw [← zpow_add₀ (by norm_num)]
          congr 1
          omega
      _ ≤ 2 ^ (1 + (52 + (guess + 1))) * denominator := by gcongr

/-- **Rounding a quotient above zero**: at its scale, to a whole number of steps. -/
theorem nearest_at_scale (positive : 0 < numerator) (divided : 0 < denominator) :
    ∃ exponent, Scale (numerator / denominator) exponent ∧
      nearest numerator denominator = Float.ofBits (UInt64.ofNat (min
        (roundEven (scaled 2 numerator denominator (-exponent)).1
          (scaled 2 numerator denominator (-exponent)).2 +
            (exponent - leastExponent).toNat * hiddenBit) (2047 * hiddenBit))) := by
  let guess : Int := (numerator.log2 : Int) - denominator.log2 - 53
  let inner : Int :=
    if (scaled 2 numerator denominator (-guess)).1 / (scaled 2 numerator denominator (-guess)).2 <
      2 * hiddenBit then guess else guess + 1
  refine ⟨max leastExponent inner, ?_, ?_⟩
  · obtain ⟨low, high⟩ := quotient_bounds positive divided (rfl : guess = _)
    have up : (2 : ℚ) ^ (guess + 1) = 2 ^ guess * 2 := zpow_add_one₀ (by norm_num) guess
    have inside : hiddenBit * (2 : ℚ) ^ inner ≤ numerator / denominator ∧
        (numerator / denominator : ℚ) < 2 * hiddenBit * 2 ^ inner := by
      have halves := @div_lt_iff_quotient_lt (scaled 2 numerator denominator (-guess))
        (2 * hiddenBit)
      have step : (0 : ℚ) < 2 ^ guess := by positivity
      rw [quotient_scaled (by decide), zpow_neg, ← div_eq_mul_inv, Nat.cast_ofNat,
        div_lt_iff₀ step, Nat.cast_mul, Nat.cast_ofNat] at halves
      show hiddenBit * (2 : ℚ) ^ (ite _ _ _ : Int) ≤ _ ∧
        _ < 2 * hiddenBit * (2 : ℚ) ^ (ite _ _ _ : Int)
      split_ifs with short
      · exact ⟨low, halves.mp short⟩
      · rw [halves, not_lt] at short
        exact ⟨by rw [up]; linarith, high⟩
    exact .of_bits inside.1 inside.2
  · unfold nearest
    rw [if_neg positive.ne']

/-- At a known scale the bits are known from the whole number of steps. -/
theorem nearest_of_scale {exponent : Int} {steps : Nat} (positive : 0 < numerator)
    (divided : 0 < denominator) (scale : Scale (numerator / denominator) exponent)
    (near : Near steps (numerator / denominator * 2 ^ (-exponent))) :
    nearest numerator denominator = Float.ofBits (UInt64.ofNat
      (min (bits steps exponent) (2047 * hiddenBit))) := by
  obtain ⟨own, taken, rounded⟩ := nearest_at_scale positive divided
  obtain rfl := taken.unique scale
  have whole : roundEven (scaled 2 numerator denominator (-own)).1
      (scaled 2 numerator denominator (-own)).2 = steps := by
    refine roundEven_eq (scaled_denominator_pos (by decide) _ divided _) ?_
    show Near steps (quotient (scaled 2 numerator denominator (-own)))
    rw [quotient_scaled (by decide)]
    exact near
  rw [rounded, whole]
  rfl

variable {mantissa : Nat} {exponent : Int}

theorem gap_le (mantissa : Nat) (exponent : Int) : gap mantissa exponent ≤ 1 / 2 := by
  unfold gap
  split_ifs <;> norm_num

theorem gap_pos (mantissa : Nat) (exponent : Int) : 0 < gap mantissa exponent := by
  unfold gap
  split_ifs <;> norm_num

/-- What rounds to a double is above zero. -/
theorem RoundsTo.pos {number : ℚ} (positive : 0 < mantissa)
    (rounds : RoundsTo mantissa exponent number) : 0 < number := by
  have whole : (1 : ℚ) ≤ mantissa := by exact_mod_cast positive
  have less := gap_le mantissa exponent
  have above : (0 : ℚ) < mantissa - gap mantissa exponent := by linarith
  exact (by positivity : (0 : ℚ) < (mantissa - gap mantissa exponent) * 2 ^ exponent).trans_le
    rounds.low

section At

variable {number : ℚ} (binary : Binary mantissa exponent)
  (rounds : RoundsTo mantissa exponent number)

include binary rounds

/-- What rounds to a double and has its length is rounded to its mantissa. -/
theorem RoundsTo.at_exponent
    (reached : hiddenBit * (2 : ℚ) ^ exponent ≤ number ∨ exponent = leastExponent) :
    Scale number exponent ∧ Near mantissa (number * 2 ^ (-exponent)) := by
  have step : (0 : ℚ) < 2 ^ exponent := by positivity
  have half := gap_le mantissa exponent
  have short : (mantissa : ℚ) + 1 ≤ 2 * hiddenBit := by exact_mod_cast binary.short
  rw [zpow_neg, ← div_eq_mul_inv]
  refine ⟨⟨binary.least, by nlinarith [rounds.high], reached⟩,
    (le_div_iff₀ step).mpr (by nlinarith [rounds.low]), (div_le_iff₀ step).mpr rounds.high, ?_⟩
  intro own
  obtain ⟨low, high⟩ := rounds.odd own
  exact ⟨(lt_div_iff₀ step).mpr (by nlinarith), (div_lt_iff₀ step).mpr high⟩

/-- What rounds to a double and is shorter lies just below a power of two: it is rounded at the next
smaller exponent, up to that power. Its mantissa has all its bits and is less than half a step above
the power. -/
theorem RoundsTo.below_power (under : number < hiddenBit * 2 ^ exponent)
    (above : exponent ≠ leastExponent) :
    mantissa = hiddenBit ∧ Scale number (exponent - 1) ∧
      Near (2 * hiddenBit) (number * 2 ^ (-(exponent - 1))) := by
  have least := binary.least
  have low := rounds.low
  have half := gap_le mantissa exponent
  have step : (0 : ℚ) < 2 ^ exponent := by positivity
  have power : mantissa = hiddenBit := by
    have full : hiddenBit ≤ mantissa := binary.normal.resolve_right above
    have close : (mantissa : ℚ) - 1 / 2 < hiddenBit := by nlinarith
    have close : (mantissa : ℚ) < hiddenBit + 1 := by linarith
    have close : mantissa < hiddenBit + 1 := by exact_mod_cast close
    omega
  have quarter : gap mantissa exponent = 1 / 4 := if_pos ⟨power, by omega⟩
  have halved : (2 : ℚ) ^ exponent = 2 ^ (exponent - 1) * 2 := by
    rw [← zpow_add_one₀ (by norm_num), sub_add_cancel]
  have smaller : (0 : ℚ) < 2 ^ (exponent - 1) := by positivity
  have large : (1 : ℚ) ≤ hiddenBit := by
    unfold hiddenBit
    norm_num
  rw [quarter, power, halved] at low
  rw [halved] at under
  rw [zpow_neg, ← div_eq_mul_inv]
  refine ⟨power, ⟨by omega, by linarith, .inl (by nlinarith)⟩,
    (le_div_iff₀ smaller).mpr ?_, (div_le_iff₀ smaller).mpr ?_, fun own => by omega⟩
  · push_cast
    linarith
  · push_cast
    nlinarith

end At

/-- **A quotient is rounded to the double to which it rounds.** -/
theorem nearest_eq (divided : 0 < denominator) (binary : Binary mantissa exponent)
    (positive : 0 < mantissa) (rounds : RoundsTo mantissa exponent (numerator / denominator)) :
    nearest numerator denominator = Float.ofBits (UInt64.ofNat (bits mantissa exponent)) := by
  have counted : 0 < numerator := by
    have above := rounds.pos positive
    refine Nat.pos_of_ne_zero fun zero => ?_
    rw [zero, Nat.cast_zero, zero_div] at above
    exact lt_irrefl _ above
  by_cases reached : hiddenBit * (2 : ℚ) ^ exponent ≤ numerator / denominator ∨
      exponent = leastExponent
  · obtain ⟨scale, near⟩ := rounds.at_exponent binary reached
    rw [nearest_of_scale counted divided scale near, min_eq_left binary.bits_lt.le]
  · rw [not_or, not_le] at reached
    obtain ⟨power, scale, near⟩ := rounds.below_power binary reached.1 reached.2
    have least := binary.least
    have same : bits (2 * hiddenBit) (exponent - 1) = bits mantissa exponent := by
      rw [power]
      unfold bits hiddenBit
      omega
    rw [nearest_of_scale counted divided scale near, same, min_eq_left binary.bits_lt.le]

end AccessControl.Decimal

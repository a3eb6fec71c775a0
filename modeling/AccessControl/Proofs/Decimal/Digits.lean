/-
**Digits of numbers, and doubles in their fewest digits.**

* `all_toDigits`, `digitsValue_toDigits`, `head_toDigits` — the digits of a natural number are
  digits, they stand for it, and the first one is no zero unless the number is.
* `readInt_ofInt` — an integer within limits is read back from its text.
* `shortest_shown` — the fewest digits of a double that is not zero are a number above zero, or
  stand behind the point: written out, they never begin with two zeros.
-/

import AccessControl.Decimal.Numeral
import AccessControl.Decimal.Text

namespace AccessControl.Decimal

/-! ### Digits of natural numbers -/

theorem isDigit_eq (c : Char) : isDigit c = c.isDigit := rfl

theorem all_toDigits (n : Nat) : ∀ c ∈ Nat.toDigits 10 n, isDigit c = true := fun c member => by
  rw [isDigit_eq]
  exact Nat.isDigit_of_mem_toDigits (by decide) (by decide) member

theorem digitsValue_eq (digits : List Char) :
    digitsValue digits = Nat.ofDigitChars 10 digits 0 := by
  unfold digitsValue Nat.ofDigitChars digitValue
  simp only [Nat.mul_comm]

theorem digitsValue_toDigits (n : Nat) : digitsValue (Nat.toDigits 10 n) = n :=
  (digitsValue_eq _).trans Nat.ofDigitChars_ten_toDigits

/-- A number above zero does not begin with a zero. -/
theorem head_toDigits {n : Nat} (positive : 0 < n) : (Nat.toDigits 10 n).head? ≠ some '0' := by
  induction n using Nat.strongRecOn with
  | ind n ih =>
    by_cases small : n < 10
    · rw [Nat.toDigits_of_lt_base small, List.head?_cons, ne_eq, Option.some.injEq,
        Nat.digitChar_eq_zero]
      omega
    · have first := ih (n / 10) (by omega) (by omega)
      rw [Nat.toDigits_of_base_le (by decide) (by omega), List.head?_append]
      cases front : Nat.toDigits 10 (n / 10) with
      | nil => exact absurd front Nat.toDigits_ne_nil
      | cons digit rest =>
        rw [front] at first
        exact first

/-- A minus sign, or nothing. -/
def sign (negative : Bool) : List Char := if negative then ['-'] else []

theorem toList_withSign (negative : Bool) (text : String) :
    (withSign negative text).toList = sign negative ++ text.toList := by
  cases negative <;> simp [withSign, sign]

theorem toList_ofInt (n : Int) : (ofInt n).toList = sign (n < 0) ++ Nat.toDigits 10 n.natAbs := by
  cases n with
  | ofNat n => simp [ofInt, ofNat, sign]
  | negSucc n =>
    have below : Int.negSucc n < 0 := by omega
    simp [ofInt, ofNat, sign, below]

/-- Digits carry no sign. -/
theorem splitSign_digits {digits : List Char} (all : ∀ c ∈ digits, isDigit c = true)
    (begun : digits ≠ []) (rest : List Char) :
    splitSign (digits ++ rest) = (false, digits ++ rest) := by
  cases digits with
  | nil => exact absurd rfl begun
  | cons digit more =>
    have isOne := all digit List.mem_cons_self
    unfold splitSign
    split
    · rename_i same
      rw [(List.cons.inj same).1] at isOne
      cases isOne
    · rename_i same
      rw [(List.cons.inj same).1] at isOne
      cases isOne
    · rfl

/-- The sign of an integer stands in front of its digits. -/
theorem splitSign_ofInt (n : Int) (rest : List Char) :
    splitSign ((ofInt n).toList ++ rest) =
      (decide (n < 0), Nat.toDigits 10 n.natAbs ++ rest) := by
  rw [toList_ofInt, List.append_assoc]
  by_cases below : n < 0
  · simp only [sign, below, decide_true, if_true]
    rfl
  · simpa [sign, below] using splitSign_digits (all_toDigits _) Nat.toDigits_ne_nil rest

theorem signed_natAbs (n : Int) : (if n < 0 then -(n.natAbs : Int) else n.natAbs) = n := by
  split <;> omega

/-- **An integer is read back**, if it is within the limits. -/
theorem readInt_ofInt {low high n : Int} (above : low ≤ n) (below : n ≤ high) :
    readInt low high (ofInt n).toList = some n := by
  have signed := splitSign_ofInt n []
  rw [List.append_nil, List.append_nil] at signed
  have digits : readNat (Nat.toDigits 10 n.natAbs) = some n.natAbs := by
    have begun : (Nat.toDigits 10 n.natAbs).isEmpty = false :=
      List.isEmpty_eq_false_iff.mpr Nat.toDigits_ne_nil
    have all : (Nat.toDigits 10 n.natAbs).all isDigit = true :=
      List.all_eq_true.mpr (all_toDigits _)
    unfold readNat
    rw [begun, all, digitsValue_toDigits]
    rfl
  have any : readAnyInt (ofInt n).toList = some n := by
    unfold readAnyInt
    rw [signed]
    simp only [digits, decide_eq_true_eq]
    exact congrArg some (signed_natAbs n)
  unfold readInt
  rw [any]
  exact if_pos ⟨above, below⟩

/-! ### The fewest digits of a double -/

/-- Scaling leaves a denominator. -/
theorem scaled_denominator_pos {base : Nat} (above : 0 < base) (numerator : Nat) {denominator : Nat}
    (positive : 0 < denominator) (exponent : Int) :
    0 < (scaled base numerator denominator exponent).2 := by
  unfold scaled
  split
  · exact positive
  · exact Nat.mul_pos positive (Nat.pow_pos above)

theorem scaled_numerator_eq_zero {base : Nat} (above : 0 < base) (numerator denominator : Nat)
    (exponent : Int) : (scaled base numerator denominator exponent).1 = 0 ↔ numerator = 0 := by
  unfold scaled
  split
  · exact Nat.mul_eq_zero.trans (or_iff_left (Nat.ne_of_gt (Nat.pow_pos above)))
  · rfl

/-- Numbers that round to a double that is not zero are above zero. -/
theorem interval_low_pos {mantissa : Nat} (exponent : Int) (positive : 0 < mantissa) :
    0 < (interval mantissa exponent).low := by
  have unit : (scaled 2 1 4 exponent).1 ≠ 0 :=
    mt (scaled_numerator_eq_zero (by decide) 1 4 exponent).mp (by decide)
  unfold interval
  refine Nat.mul_pos ?_ (Nat.pos_of_ne_zero unit)
  split <;> omega

/-- Digits that are a number above zero, or stand behind the point. -/
def Shown (found : Nat × Int) : Prop := 0 < found.1 ∨ found.2 < 0

variable {i : Interval}

namespace Interval

/-- Zero does not round to it. -/
theorem contains_zero (above : 0 < i.low) (exponent : Int) :
    i.contains 0 exponent = false := by
  have denominator := @scaled_denominator_pos 10 (by decide) 0 _ Nat.one_pos exponent
  have numerator := (@scaled_numerator_eq_zero 10 (by decide) 0 1 exponent).mpr rfl
  have least := Nat.mul_pos above denominator
  unfold contains
  dsimp only
  rw [numerator, Nat.zero_mul]
  split
  · simp
    omega
  · simp

/-- A digit string that rounds to it is a number above zero. -/
theorem onGrid_pos (above : 0 < i.low) {tie : Tie} {exponent : Int} {digits : Nat}
    (hit : i.onGrid tie exponent = some digits) : 0 < digits := by
  have positive {number : Nat} (within : i.contains number exponent = true) : 0 < number := by
    refine Nat.pos_of_ne_zero fun zero => ?_
    rw [zero, contains_zero above] at within
    cases within
  unfold onGrid at hit
  dsimp only at hit
  split at hit
  · rename_i below _
    have either (upper : Bool) {number : Nat} (above : 0 < number) :
        0 < if upper then number + 1 else number := by
      cases upper <;> simp [above]
    exact Option.some.inj hit ▸ either _ (positive below)
  · rename_i below _
    exact Option.some.inj hit ▸ positive below
  · exact Option.some.inj hit ▸ Nat.succ_pos _
  · cases hit

/-- The first grid with a hit has a number above zero; behind the last grid there is the point. -/
theorem search_shown (above : 0 < i.low) (tie : Tie) (fuel count : Nat)
    (started : 0 < count) : Shown (i.search tie fuel count) := by
  induction fuel generalizing count with
  | zero =>
    unfold search Shown
    dsimp only
    by_cases whole : 0 < i.value / i.denominator
    · exact .inl whole
    · have behind : i.position ≤ 0 := by
        have length := @Nat.length_toDigits_pos 10 ((i.denominator - 1) / i.value)
        unfold position
        rw [if_neg whole]
        omega
      omega
  | succ fuel ih =>
    unfold search
    split
    · rename_i digits hit
      exact .inl (onGrid_pos above hit)
    · exact ih (count + 1) (by omega)

end Interval

theorem withoutZeros_shown (fuel : Nat) {digits : Nat} {exponent : Int}
    (shown : Shown (digits, exponent)) : Shown (withoutZeros fuel digits exponent) := by
  induction fuel generalizing digits exponent with
  | zero => exact shown
  | succ fuel ih =>
    unfold withoutZeros
    split
    · rename_i zeros
      exact ih (.inl (by omega))
    · exact shown

/-- **The fewest digits of a double that is not zero are a number above zero**, or stand behind the
point. -/
theorem shortest_shown (tie : Tie) {mantissa : Nat} (exponent : Int) (positive : 0 < mantissa) :
    Shown (shortest tie mantissa exponent) := by
  have above := interval_low_pos exponent positive
  exact withoutZeros_shown _ (Interval.search_shown above tie 17 1 (by decide))

end AccessControl.Decimal

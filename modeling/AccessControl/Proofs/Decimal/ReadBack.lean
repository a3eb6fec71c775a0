/-
**Doubles are read back from their text.**

* `Numeral.value`, `Numeral.toFloat_eq` — a numeral is read as the double to which its value rounds;
  the limits beyond which none is looked at do not cut one off.
* `readFloat_plain` — digits around a point are read as the number that they stand for.
* `readFloat_positional` — **a double that is written is read back as it was**: its fewest digits
  stand for a number that rounds to it.
-/

import AccessControl.Proofs.Decimal.Shortest
import AccessControl.Proofs.Json.Number

namespace AccessControl.Decimal

open Json (takeWhile_digits dropWhile_digits isDigit_zeros isDigit_append)

/-! ### Numerals and doubles -/

/-- The number that a numeral stands for. -/
def Numeral.value (numeral : Numeral) : ℚ := numeral.digits * 10 ^ numeral.exponent

variable {mantissa : Nat} {exponent : Int}

theorem limit_beyond : (2 : ℚ) ^ (1075 : Int) ≤ 10 ^ (400 : Int) := by
  have small : (2 : ℚ) ^ (215 : Int) ≤ 10 ^ (80 : Int) := by norm_num
  have fifth := zpow_le_zpow_left₀ (by decide : (0 : Int) ≤ 5) (by positivity) small
  rw [← zpow_mul, ← zpow_mul] at fifth
  exact fifth

/-- What rounds to a double is within the limits. -/
theorem RoundsTo.bounds {number : ℚ} (binary : Binary mantissa exponent) (positive : 0 < mantissa)
    (rounds : RoundsTo mantissa exponent number) :
    (10 : ℚ) ^ (-400 : Int) ≤ number ∧ number < 10 ^ (400 : Int) := by
  obtain ⟨short, least, greatest, -⟩ := binary
  have limit := limit_beyond
  have unit : (0 : ℚ) < 2 ^ exponent := by positivity
  constructor
  · have smallest : (2 : ℚ) ^ (-1075 : Int) * 2 ≤ 2 ^ exponent := by
      rw [← zpow_add_one₀ (by norm_num)]
      exact zpow_le_zpow_right₀ (by norm_num) least
    have half := gap_le mantissa exponent
    have whole : (1 : ℚ) ≤ mantissa := by exact_mod_cast positive
    calc (10 : ℚ) ^ (-400 : Int) ≤ 2 ^ (-1075 : Int) := by
          rw [zpow_neg, zpow_neg]
          exact inv_anti₀ (by positivity) limit
      _ ≤ (mantissa - gap mantissa exponent) * 2 ^ exponent := by nlinarith
      _ ≤ number := rounds.low
  · have largest : (2 : ℚ) ^ exponent ≤ 2 ^ (971 : Int) :=
      zpow_le_zpow_right₀ (by norm_num) greatest
    have bits : (mantissa : ℚ) + 1 ≤ 2 ^ (53 : Int) := by
      have cast : (mantissa : ℚ) + 1 ≤ 2 * hiddenBit := by exact_mod_cast short
      norm_num [hiddenBit] at cast ⊢
      exact cast
    calc number ≤ (mantissa + 1 / 2) * 2 ^ exponent := rounds.high
      _ ≤ 2 ^ (53 : Int) * 2 ^ (971 : Int) :=
          mul_le_mul (by linarith) largest unit.le (by positivity)
      _ < 2 ^ (1075 : Int) := by
          rw [← zpow_add₀ (by norm_num)]
          exact zpow_lt_zpow_right₀ (by norm_num) (by norm_num)
      _ ≤ 10 ^ (400 : Int) := limit

/-- **A numeral is read as the double to which its value rounds.** -/
theorem Numeral.toFloat_eq {numeral : Numeral} (binary : Binary mantissa exponent)
    (positive : 0 < mantissa) (rounds : RoundsTo mantissa exponent numeral.value) :
    numeral.toFloat = Float.ofBits (UInt64.ofNat (bits mantissa exponent)) := by
  obtain ⟨digits, power⟩ := numeral
  have above := rounds.pos positive
  obtain ⟨low, high⟩ := rounds.bounds binary positive
  have unit : (0 : ℚ) < 10 ^ power := by positivity
  unfold value at above low high rounds
  dsimp only at above low high rounds
  have counted : 0 < digits := by
    rw [mul_pos_iff_of_pos_right unit] at above
    exact_mod_cast above
  have most : (digits : ℚ) < 10 ^ ((Nat.toDigits 10 digits).length : Int) := by
    exact_mod_cast lt_pow_length digits
  have fewest := pow_length_le counted
  unfold toFloat
  dsimp only
  generalize ((Nat.toDigits 10 digits).length : Int) = count at *
  have inside : -400 ≤ count + power := by
    have place : (10 : ℚ) ^ (-400 : Int) < 10 ^ (count + power) := by
      rw [zpow_add₀ (by norm_num)]
      exact low.trans_lt (mul_lt_mul_of_pos_right most unit)
    exact ((zpow_lt_zpow_iff_right₀ (by norm_num)).mp place).le
  have outside : count + power ≤ 400 := by
    have place : (10 : ℚ) ^ (count - 1 + power) < 10 ^ (400 : Int) := by
      rw [zpow_add₀ (by norm_num)]
      exact (mul_le_mul_of_nonneg_right fewest unit.le).trans_lt high
    have less := (zpow_lt_zpow_iff_right₀ (by norm_num)).mp place
    omega
  rw [if_neg (by omega), if_neg (by omega)]
  refine nearest_eq (scaled_denominator_pos (by decide) digits (by decide) power) binary positive ?_
  show RoundsTo mantissa exponent (quotient (scaled 10 digits 1 power))
  rw [quotient_decimal]
  exact rounds

/-! ### Digits around a point -/

theorem digitsValue_append_zeros (digits : List Char) (count : Nat) :
    digitsValue (digits ++ List.replicate count '0') = 10 ^ count * digitsValue digits := by
  rw [digitsValue_eq, digitsValue_eq, Nat.ofDigitChars_append, Nat.ofDigitChars_replicate_zero]

theorem digitsValue_zeros_append (digits : List Char) (count : Nat) :
    digitsValue (List.replicate count '0' ++ digits) = digitsValue digits := by
  rw [digitsValue_eq, digitsValue_eq, Nat.ofDigitChars_append, Nat.ofDigitChars_replicate_zero,
    Nat.mul_zero]

section Read

variable {whole fraction : List Char} (wholeDigits : ∀ c ∈ whole, isDigit c = true)
  (begun : whole ≠ [])

include wholeDigits begun

theorem readNumeral_whole : readNumeral whole = some ⟨digitsValue whole, 0⟩ := by
  have front := @takeWhile_digits [] whole wholeDigits nofun
  have back := @dropWhile_digits [] whole wholeDigits nofun
  rw [List.append_nil] at front back
  have shown : whole.isEmpty = false := List.isEmpty_eq_false_iff.mpr begun
  unfold readNumeral
  rw [front, back]
  simp [shown, readExponent]

theorem readNumeral_pointed (fractionDigits : ∀ c ∈ fraction, isDigit c = true) :
    readNumeral (whole ++ '.' :: fraction) =
      some ⟨digitsValue (whole ++ fraction), -fraction.length⟩ := by
  have ended : ∀ c ∈ ('.' :: fraction).head?, isDigit c = false := fun c first =>
    Option.some.inj first ▸ rfl
  have front := takeWhile_digits wholeDigits ended
  have back := dropWhile_digits wholeDigits ended
  have fractionFront := @takeWhile_digits [] fraction fractionDigits nofun
  have fractionBack := @dropWhile_digits [] fraction fractionDigits nofun
  rw [List.append_nil] at fractionFront fractionBack
  have shown : whole.isEmpty = false := List.isEmpty_eq_false_iff.mpr begun
  unfold readNumeral
  rw [front, back]
  simp [fractionFront, fractionBack, shown, readExponent]

end Read

theorem toLower_digit {c : Char} (isOne : isDigit c = true) : c.toLower = c := by
  have most : c.val ≤ '9'.val := of_decide_eq_true ((Bool.and_eq_true _ _).mp isOne).2
  unfold Char.toLower
  rw [dif_neg]
  rintro ⟨least, -⟩
  exact absurd (UInt32.le_trans least most) (by decide)

/-- A text that begins with a digit is no name of a number. -/
theorem lower_ne {digit : Char} (isOne : isDigit digit = true) (rest : List Char) {name : String}
    (other : name.toList.head?.any isDigit = false) :
    String.ofList ((digit :: rest).map Char.toLower) ≠ name := by
  rintro rfl
  rw [String.toList_ofList, List.map_cons, toLower_digit isOne, List.head?_cons, Option.any_some,
    isOne] at other
  cases other

/-- **A sign before a text that begins with digits** is the sign of what is read. -/
theorem readFloat_signed {whole : List Char} (wholeDigits : ∀ c ∈ whole, isDigit c = true)
    (begun : whole ≠ []) (negative : Bool) (rest : List Char) :
    readFloat (sign negative ++ (whole ++ rest)) =
      (readNumeral (whole ++ rest)).map fun numeral => signed negative numeral.toFloat := by
  have taken : splitSign (sign negative ++ (whole ++ rest)) = (negative, whole ++ rest) := by
    cases negative with
    | true => rfl
    | false => exact splitSign_digits wholeDigits begun rest
  unfold readFloat
  rw [taken]
  cases whole with
  | nil => exact absurd rfl begun
  | cons digit more =>
    have isOne := wholeDigits digit List.mem_cons_self
    have named := @lower_ne digit isOne (more ++ rest)
    have inf := @named "inf" (by simp [isDigit])
    have infinity := @named "infinity" (by simp [isDigit])
    have nan := @named "nan" (by simp [isDigit])
    simp only [List.cons_append, inf, infinity, nan, or_self, if_false]

/-- Digits around a point: a whole part, and a fraction or zeros up to the point. -/
theorem plain_pieces (digits : Nat) (exponent : Int) :
    ∃ whole : List Char, (∀ c ∈ whole, isDigit c = true) ∧ whole ≠ [] ∧
      ((plain "" digits exponent).toList = whole ∧ 0 ≤ exponent ∧
          digitsValue whole = 10 ^ exponent.toNat * digits ∨
        ∃ fraction : List Char, (∀ c ∈ fraction, isDigit c = true) ∧
          (plain "" digits exponent).toList = whole ++ '.' :: fraction ∧
          digitsValue (whole ++ fraction) = digits ∧ (fraction.length : Int) = -exponent) := by
  let text := Nat.toDigits 10 digits
  let point := (text.length : Int) + exponent
  have all : ∀ c ∈ text, isDigit c = true := all_toDigits digits
  have begun : text ≠ [] := Nat.toDigits_ne_nil
  have own : digitsValue text = digits := digitsValue_toDigits digits
  unfold plain
  by_cases whole : 0 ≤ exponent
  · refine ⟨text ++ List.replicate exponent.toNat '0', isDigit_append all (isDigit_zeros _),
      List.append_ne_nil_of_left_ne_nil begun _, .inl ⟨?_, whole, ?_⟩⟩
    · simp [zeros, text, whole]
    · rw [digitsValue_append_zeros, own]
  by_cases inside : 0 < point
  · refine ⟨text.take point.toNat, fun c member => all c (List.mem_of_mem_take member), ?_,
      .inr ⟨text.drop point.toNat, fun c member => all c (List.mem_of_mem_drop member), ?_, ?_, ?_⟩⟩
    · rw [ne_eq, List.take_eq_nil_iff, not_or]
      exact ⟨by omega, begun⟩
    · simp [text, point, whole, inside]
    · rw [List.take_append_drop, own]
    · rw [List.length_drop]
      omega
  · refine ⟨['0'], isDigit_zeros 1, List.cons_ne_nil _ _,
      .inr ⟨List.replicate (-point).toNat '0' ++ text, isDigit_append (isDigit_zeros _) all,
        ?_, ?_, ?_⟩⟩
    · simp [zeros, text, point, whole, inside]
    · show digitsValue (List.replicate 1 '0' ++ (List.replicate (-point).toNat '0' ++ text)) = _
      rw [digitsValue_zeros_append, digitsValue_zeros_append, own]
    · rw [List.length_append, List.length_replicate]
      omega

/-- **Digits around a point are read as the number that they stand for**, beside any sign. -/
theorem readFloat_plain (negative : Bool) (digits : Nat) (exponent : Int) :
    ∃ numeral : Numeral, numeral.value = digits * 10 ^ exponent ∧
      readFloat (withSign negative (plain "" digits exponent)).toList =
        some (signed negative numeral.toFloat) := by
  obtain ⟨whole, wholeDigits, begun, pieces⟩ := plain_pieces digits exponent
  rw [toList_withSign]
  rcases pieces with ⟨text, upward, value⟩ | ⟨fraction, fractionDigits, text, value, behind⟩
  · refine ⟨⟨digitsValue whole, 0⟩, ?_, ?_⟩
    · obtain ⟨count, rfl⟩ := Int.eq_ofNat_of_zero_le upward
      rw [Numeral.value, value, Int.toNat_natCast, zpow_zero, mul_one, zpow_natCast]
      push_cast
      ring
    · have read := readFloat_signed wholeDigits begun negative []
      rw [List.append_nil, readNumeral_whole wholeDigits begun] at read
      rw [text, read]
      rfl
  · refine ⟨⟨digitsValue (whole ++ fraction), -fraction.length⟩, ?_, ?_⟩
    · rw [Numeral.value, value, behind, neg_neg]
    · have read := readFloat_signed wholeDigits begun negative ('.' :: fraction)
      rw [readNumeral_pointed wholeDigits begun fractionDigits] at read
      rw [text, read]
      rfl

/-! ### Doubles -/

/-- **A double is read back from its text.** Zero keeps its sign. -/
theorem readFloat_positional (x : Float) : readFloat (positional x).toList = some x := by
  have stands := stands_parts x
  unfold positional
  generalize parts x = taken at *
  cases stands with
  | nan => simp [readFloat, splitSign]
  | infinite negative => cases negative <;> simp [readFloat, splitSign, withSign]
  | @finite negative mantissa exponent binary =>
    dsimp only
    rcases Nat.eq_zero_or_pos mantissa with rfl | positive
    · obtain rfl : exponent = leastExponent := binary.normal.resolve_left (by decide)
      cases negative <;> decide +kernel
    · rw [if_neg positive.ne']
      obtain ⟨numeral, value, read⟩ := readFloat_plain negative (shortest .up mantissa exponent).1
        (shortest .up mantissa exponent).2
      have rounds := shortest_rounds .up binary positive
      rw [← value] at rounds
      rw [read, Numeral.toFloat_eq binary positive rounds]

end AccessControl.Decimal

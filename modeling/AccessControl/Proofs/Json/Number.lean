/-
**Numbers as they are written, read back.**

* `NumberText.chars`, `NumberText.Proper` — a number written as it stands in pieces: its whole part
  without a superfluous zero, a point before its fraction, a mark before its exponent.
* `readNumber_chars` — **what is written properly is taken apart into the same pieces.**
* `Number.source` — a number of a document as it is taken apart; a double shows a fraction or an
  exponent, and so is never taken for an integer.
* `rereadFloat?` — the double that a double is read back as, which may be another one.
-/

import AccessControl.Json.Source
import AccessControl.Proofs.Decimal.Digits

namespace AccessControl.Json

open Decimal (isDigit)

/-- What follows a number and cannot belong to it. -/
def Apart (rest : List Char) : Prop :=
  ∀ c ∈ rest.head?, isDigit c = false ∧ c ≠ '.' ∧ c ≠ 'e' ∧ c ≠ 'E'

namespace NumberText

def pointed : List Char → List Char
  | [] => []
  | fraction => '.' :: fraction

def marked : Option Int → List Char
  | none => []
  | some exponent => 'e' :: (Decimal.ofInt exponent).toList

/-- The characters of a number in pieces. -/
def chars (number : NumberText) : List Char :=
  Decimal.sign number.negative ++
    (number.whole ++ (pointed number.fraction ++ marked number.exponent))

/-- The pieces of a number that can be written: digits, at least one before the point, and a zero
in front only on its own. -/
structure Proper (number : NumberText) : Prop where
  whole : ∀ c ∈ number.whole, isDigit c = true
  begun : number.whole ≠ []
  leading : number.whole.head? = some '0' → number.whole.length = 1
  fraction : ∀ c ∈ number.fraction, isDigit c = true

end NumberText

variable {rest : List Char}

/-! ### Rows of digits -/

section Digits

variable {digits : List Char} (all : ∀ c ∈ digits, isDigit c = true)
  (ended : ∀ c ∈ rest.head?, isDigit c = false)

include all ended

theorem takeWhile_digits : (digits ++ rest).takeWhile isDigit = digits := by
  rw [List.takeWhile_append_of_pos all]
  cases rest with
  | nil => simp
  | cons c _ => simp [ended c rfl]

theorem dropWhile_digits : (digits ++ rest).dropWhile isDigit = rest := by
  rw [List.dropWhile_append_of_pos all]
  cases rest with
  | nil => rfl
  | cons c _ => simp [ended c rfl]

end Digits

/-! ### The parts of a number -/

/-- An exponent is read back. -/
theorem readExponentPart_marked (exponent : Option Int) (apart : Apart rest) :
    readExponentPart (NumberText.marked exponent ++ rest) = some (exponent, rest) := by
  have ended : ∀ c ∈ rest.head?, isDigit c = false := fun c first => (apart c first).1
  cases exponent with
  | none =>
    cases rest with
    | nil => rfl
    | cons c more =>
      obtain ⟨-, -, lower, upper⟩ := apart c rfl
      show readExponentPart (c :: more) = _
      simp only [readExponentPart, lower, upper, or_self, if_false]
  | some power =>
    let digits := Nat.toDigits 10 power.natAbs
    have all : ∀ c ∈ digits, isDigit c = true := Decimal.all_toDigits _
    have begun : digits.isEmpty = false := List.isEmpty_eq_false_iff.mpr Nat.toDigits_ne_nil
    show readExponentPart ('e' :: ((Decimal.ofInt power).toList ++ rest)) = _
    simp only [readExponentPart, true_or, if_true, digits, Decimal.splitSign_ofInt,
      takeWhile_digits all ended, dropWhile_digits all ended, begun, Decimal.digitsValue_toDigits,
      Bool.false_eq_true, if_false, decide_eq_true_eq, Decimal.signed_natAbs]

/-- A fraction is read back. -/
theorem readFractionPart_pointed {fraction : List Char} (all : ∀ c ∈ fraction, isDigit c = true)
    (ended : ∀ c ∈ rest.head?, isDigit c = false ∧ c ≠ '.') :
    readFractionPart (NumberText.pointed fraction ++ rest) = some (fraction, rest) := by
  cases fraction with
  | nil =>
    show readFractionPart rest = _
    unfold readFractionPart
    split
    · exact absurd rfl (ended '.' rfl).2
    · rfl
  | cons digit more =>
    have ended : ∀ c ∈ rest.head?, isDigit c = false := fun c first => (ended c first).1
    show readFractionPart ('.' :: (digit :: more ++ rest)) = _
    unfold readFractionPart
    simp only [takeWhile_digits all ended, dropWhile_digits all ended, List.isEmpty_cons,
      Bool.false_eq_true, if_false]

/-- What follows the whole part of a number is neither a digit nor, without a fraction, a point. -/
theorem head_marked (exponent : Option Int) (apart : Apart rest) :
    ∀ c ∈ (NumberText.marked exponent ++ rest).head?, isDigit c = false ∧ c ≠ '.' := by
  cases exponent with
  | none => exact fun c first => ⟨(apart c first).1, (apart c first).2.1⟩
  | some power =>
    intro c first
    obtain rfl := Option.some.inj first
    decide

/-- **A number that is written properly is read back.** -/
theorem readNumber_chars {number : NumberText} (proper : number.Proper) (apart : Apart rest) :
    readNumber (number.chars ++ rest) = some (number, rest) := by
  obtain ⟨negative, whole, fraction, exponent⟩ := number
  obtain ⟨all, begun, leading, fractional⟩ := proper
  let tail := NumberText.pointed fraction ++ (NumberText.marked exponent ++ rest)
  have ended : ∀ c ∈ tail.head?, isDigit c = false := by
    cases fraction with
    | nil => exact fun c first => (head_marked exponent apart c first).1
    | cons _ _ =>
      intro c first
      obtain rfl := Option.some.inj first
      rfl
  have front : (whole ++ tail).takeWhile isDigit = whole := takeWhile_digits all ended
  have back : (whole ++ tail).dropWhile isDigit = tail := dropWhile_digits all ended
  have valid : ¬ (whole.isEmpty = true ∨ whole.head? = some '0' ∧ 1 < whole.length) := by
    rintro (empty | ⟨zero, long⟩)
    · exact begun (List.isEmpty_iff.mp empty)
    · exact absurd (leading zero) (Nat.ne_of_gt long)
  have fractionRead : readFractionPart tail = some (fraction, NumberText.marked exponent ++ rest) :=
    readFractionPart_pointed fractional (head_marked exponent apart)
  have exponentRead := readExponentPart_marked exponent apart
  cases negative with
  | true =>
    have spelled : NumberText.chars ⟨true, whole, fraction, exponent⟩ ++ rest =
        '-' :: (whole ++ tail) := by simp [NumberText.chars, Decimal.sign, tail]
    rw [spelled]
    simp only [readNumber, front, back, valid, fractionRead, exponentRead, if_false]
  | false =>
    have spelled : NumberText.chars ⟨false, whole, fraction, exponent⟩ ++ rest =
        whole ++ tail := by simp [NumberText.chars, Decimal.sign, tail]
    rw [spelled]
    have unsigned : (whole ++ tail).head? ≠ some '-' := fun minus => by
      cases whole with
      | nil => exact begun rfl
      | cons digit more =>
        have isOne := all digit List.mem_cons_self
        rw [Option.some.inj minus] at isOne
        cases isOne
    unfold readNumber
    split
    rename_i same
    split at same
    · rename_i minus
      rw [minus] at unsigned
      exact absurd rfl unsigned
    · cases same
      simp only [front, back, valid, fractionRead, exponentRead, if_false]

/-! ### The numbers of a document -/

open Decimal (Shown)

def NumberText.ofInt (n : Int) : NumberText := ⟨n < 0, Nat.toDigits 10 n.natAbs, [], none⟩

theorem NumberText.proper_ofInt (n : Int) : (NumberText.ofInt n).Proper where
  whole := Decimal.all_toDigits _
  begun := Nat.toDigits_ne_nil
  leading zero := by
    by_cases same : n.natAbs = 0
    · show (Nat.toDigits 10 n.natAbs).length = 1
      rw [same]
      rfl
    · exact absurd zero (Decimal.head_toDigits (Nat.pos_of_ne_zero same))
  fraction := by simp [ofInt]

theorem NumberText.chars_ofInt (n : Int) : (ofInt n).chars = (Decimal.ofInt n).toList := by
  rw [Decimal.toList_ofInt]
  simp [chars, ofInt, pointed, marked]

theorem NumberText.toInt?_ofInt (n : Int) : (ofInt n).toInt? = some n := by
  have signed : (decide (n < 0) && n.natAbs == 0) = false := by
    rw [Bool.and_eq_false_iff, decide_eq_false_iff_not, beq_eq_false_iff_ne]
    omega
  unfold toInt? ofInt
  simp only [List.isEmpty_nil, Option.isNone_none, Bool.and_self, if_true, decide_eq_true_eq,
    Decimal.digitsValue_toDigits, signed, Bool.false_eq_true, if_false, Decimal.signed_natAbs]

theorem NumberText.toInt?_of_fraction {number : NumberText} (shown : number.fraction ≠ []) :
    number.toInt? = none := by
  unfold toInt?
  rw [List.isEmpty_eq_false_iff.mpr shown]
  rfl

theorem NumberText.proper_of_head {number : NumberText}
    (whole : ∀ c ∈ number.whole, isDigit c = true) (begun : number.whole ≠ [])
    (first : number.whole.head? ≠ some '0') (fraction : ∀ c ∈ number.fraction, isDigit c = true) :
    number.Proper :=
  ⟨whole, begun, fun zero => absurd zero first, fraction⟩

/-- A single digit may. -/
theorem NumberText.proper_of_single {number : NumberText} {digit : Char}
    (whole : number.whole = [digit]) (isOne : isDigit digit = true)
    (fraction : ∀ c ∈ number.fraction, isDigit c = true) : number.Proper where
  whole c member := by
    rw [whole, List.mem_singleton] at member
    exact member ▸ isOne
  begun := whole ▸ List.cons_ne_nil _ _
  leading _ := by rw [whole]; rfl
  fraction := fraction

theorem isDigit_zeros (count : Nat) : ∀ c ∈ List.replicate count '0', isDigit c = true :=
  fun _ member => (List.mem_replicate.mp member).2 ▸ rfl

theorem isDigit_append {first second : List Char} (one : ∀ c ∈ first, isDigit c = true)
    (two : ∀ c ∈ second, isDigit c = true) : ∀ c ∈ first ++ second, isDigit c = true :=
  List.forall_mem_append.mpr ⟨one, two⟩

theorem NumberText.pointed_of_ne_nil {fraction : List Char} (shown : fraction ≠ []) :
    pointed fraction = '.' :: fraction := by
  cases fraction with
  | nil => exact absurd rfl shown
  | cons _ _ => rfl

/-- **Digits around a point are a number in pieces**, and none that could be an integer. -/
theorem plain_spelled {digits : Nat} {exponent : Int} (shown : Shown (digits, exponent))
    (negative : Bool) :
    ∃ number : NumberText, number.Proper ∧ number.toInt? = none ∧
      number.chars = (Decimal.withSign negative (Decimal.plain ".0" digits exponent)).toList := by
  let text := Nat.toDigits 10 digits
  let point := (text.length : Int) + exponent
  have all : ∀ c ∈ text, isDigit c = true := Decimal.all_toDigits digits
  have begun : text ≠ [] := Nat.toDigits_ne_nil
  rw [Decimal.toList_withSign]
  unfold Decimal.plain
  by_cases whole : 0 ≤ exponent
  · have positive : 0 < digits := shown.resolve_right (by omega)
    have first : (text ++ List.replicate exponent.toNat '0').head? ≠ some '0' := by
      have own := Decimal.head_toDigits positive
      rw [List.head?_append]
      cases front : text with
      | nil => exact absurd front begun
      | cons digit more =>
        rw [show Nat.toDigits 10 digits = digit :: more from front] at own
        exact own
    refine ⟨⟨negative, text ++ List.replicate exponent.toNat '0', ['0'], none⟩,
      NumberText.proper_of_head (isDigit_append all (isDigit_zeros _))
        (List.append_ne_nil_of_left_ne_nil begun _) first (isDigit_zeros 1),
      NumberText.toInt?_of_fraction (List.cons_ne_nil _ _), ?_⟩
    simp [NumberText.chars, NumberText.pointed, NumberText.marked, Decimal.zeros, text, whole]
  by_cases inside : 0 < point
  · have positive : 0 < digits := by
      refine Nat.pos_of_ne_zero fun zero => ?_
      have short : text.length = 1 := by
        show (Nat.toDigits 10 digits).length = 1
        rw [zero]
        rfl
      omega
    have first : (text.take point.toNat).head? ≠ some '0' := by
      rw [List.head?_take, if_neg (by omega)]
      exact Decimal.head_toDigits positive
    have front : text.take point.toNat ≠ [] := by
      rw [ne_eq, List.take_eq_nil_iff, not_or]
      exact ⟨by omega, begun⟩
    have back : text.drop point.toNat ≠ [] := by
      rw [ne_eq, List.drop_eq_nil_iff]
      omega
    refine ⟨⟨negative, text.take point.toNat, text.drop point.toNat, none⟩,
      NumberText.proper_of_head (fun c member => all c (List.mem_of_mem_take member)) front first
        fun c member => all c (List.mem_of_mem_drop member),
      NumberText.toInt?_of_fraction back, ?_⟩
    unfold NumberText.chars
    rw [NumberText.pointed_of_ne_nil back]
    simp [NumberText.marked, text, point, whole, inside]
  · have back : List.replicate (-point).toNat '0' ++ text ≠ [] :=
      List.append_ne_nil_of_right_ne_nil _ begun
    refine ⟨⟨negative, ['0'], List.replicate (-point).toNat '0' ++ text, none⟩,
      NumberText.proper_of_single rfl rfl (isDigit_append (isDigit_zeros _) all),
      NumberText.toInt?_of_fraction back, ?_⟩
    unfold NumberText.chars
    rw [NumberText.pointed_of_ne_nil back]
    simp [NumberText.marked, Decimal.zeros, text, point, whole, inside]

/-- **A digit, a fraction and an exponent are a number in pieces**, and none that could be an
integer. -/
theorem withExponent_spelled (digits : Nat) (exponent : Int) (negative : Bool) :
    ∃ number : NumberText, number.Proper ∧ number.toInt? = none ∧
      number.chars = (Decimal.withSign negative (Decimal.withExponent digits exponent)).toList := by
  have all := Decimal.all_toDigits digits
  rw [Decimal.toList_withSign]
  unfold Decimal.withExponent
  cases text : Nat.toDigits 10 digits with
  | nil => exact absurd text Nat.toDigits_ne_nil
  | cons first rest =>
    rw [text] at all
    refine ⟨⟨negative, [first], rest, some (exponent + rest.length)⟩,
      NumberText.proper_of_single rfl (all first List.mem_cons_self)
        (fun c member => all c (List.mem_cons_of_mem _ member)), ?_, ?_⟩
    · simp [NumberText.toInt?]
    · cases rest <;> simp [NumberText.chars, NumberText.pointed, NumberText.marked]

/-- **A double that is written is a number in pieces**, and none that could be an integer. -/
theorem scientific_spelled {x : Float} {text : String}
    (written : Decimal.scientific x = some text) :
    ∃ number : NumberText, number.Proper ∧ number.toInt? = none ∧ number.chars = text.toList := by
  unfold Decimal.scientific at written
  cases taken : Decimal.parts x with
  | nan =>
    rw [taken] at written
    cases written
  | infinite negative =>
    rw [taken] at written
    cases written
  | finite negative mantissa exponent =>
    rw [taken] at written
    dsimp only at written
    by_cases zero : mantissa = 0
    · rw [if_pos zero] at written
      obtain rfl := Option.some.inj written
      refine ⟨⟨negative, ['0'], ['0'], none⟩,
        NumberText.proper_of_single rfl rfl (isDigit_zeros 1),
        NumberText.toInt?_of_fraction (List.cons_ne_nil _ _), ?_⟩
      rw [Decimal.toList_withSign]
      rfl
    · rw [if_neg zero] at written
      obtain rfl := Option.some.inj written
      have positive : 0 < mantissa := Nat.pos_of_ne_zero zero
      split
      · exact plain_spelled (Decimal.shortest_shown .even exponent positive) negative
      · exact withExponent_spelled _ _ negative

/-- A number as it is taken apart again; a double that is no finite number is `null`. -/
def Number.source (number : Number) : Source :=
  match readNumber number.chars with
  | some (written, _) => .number written
  | none => .null

/-- What is written in pieces is taken apart into them. -/
theorem Number.source_of_chars {number : Number} {written : NumberText} (proper : written.Proper)
    (spelled : written.chars = number.chars) : number.source = .number written := by
  have read : readNumber (written.chars ++ []) = some (written, []) :=
    readNumber_chars proper nofun
  rw [List.append_nil, spelled] at read
  unfold Number.source
  rw [read]

theorem Number.source_integer (value : Int64) :
    (Number.integer value).source = .number (.ofInt value.toInt) :=
  source_of_chars (NumberText.proper_ofInt _) (NumberText.chars_ofInt _)

/-- How the number of a document is written: in pieces, or as `null`. -/
inductive Number.Spelled (number : Number) : Prop where
  | number {written : NumberText} (proper : written.Proper) (spelled : written.chars = number.chars)
  | null (spelled : "null".toList = number.chars)

/-- A double is written in pieces that could be no integer, or as `null`. -/
theorem Number.spelled_real (x : Float) :
    (∃ written : NumberText, written.Proper ∧ written.toInt? = none ∧
      written.chars = (real x).chars) ∨ "null".toList = (real x).chars := by
  have chars : (real x).chars = ((Decimal.scientific x).getD "null").toList := rfl
  cases written : Decimal.scientific x with
  | none =>
    rw [written] at chars
    exact .inr chars.symm
  | some text =>
    rw [written] at chars
    obtain ⟨number, proper, noInteger, spelled⟩ := scientific_spelled written
    exact .inl ⟨number, proper, noInteger, spelled.trans chars.symm⟩

theorem Number.spelled (number : Number) : number.Spelled := by
  cases number with
  | integer value =>
    exact .number (NumberText.proper_ofInt value.toInt) (NumberText.chars_ofInt value.toInt)
  | large value _ =>
    exact .number (NumberText.proper_ofInt (.ofNat value.toNat)) (NumberText.chars_ofInt _)
  | real x =>
    rcases Number.spelled_real x with ⟨written, proper, -, spelled⟩ | spelled
    · exact .number proper spelled
    · exact .null spelled

theorem Number.source_of_null {number : Number} (spelled : "null".toList = number.chars) :
    number.source = .null := by
  unfold source
  rw [← spelled]
  rfl

/-! ### What a number is read back as -/

theorem ofInt?_toInt (value : Int64) : Number.ofInt? value.toInt = some (.integer value) := by
  have least := value.le_toInt
  have greatest := value.toInt_lt
  unfold Number.ofInt?
  rw [if_pos (by simp only [Word.leastInt64, Word.greatestInt64]; omega), Int64.ofInt_toInt]

theorem value?_ofInt (value : Int64) :
    (NumberText.ofInt value.toInt).value? = some (.integer value) := by
  unfold NumberText.value?
  rw [NumberText.toInt?_ofInt, Option.bind_some, ofInt?_toInt]

/-- The double that a double is read back as. -/
def rereadFloat? (x : Float) : Option Float :=
  match (Number.real x).source with
  | .number written => written.toFloat?
  | _ => none

/-- **A double is read back as a double, if at all.** -/
theorem source_real (x : Float) :
    (∃ written, (Number.real x).source = .number written ∧
      written.value? = (rereadFloat? x).map .real) ∨
      (Number.real x).source = .null ∧ rereadFloat? x = none := by
  rcases Number.spelled_real x with ⟨written, proper, noInteger, spelled⟩ | spelled
  · have source := Number.source_of_chars proper spelled
    refine .inl ⟨written, source, ?_⟩
    unfold NumberText.value? rereadFloat?
    rw [noInteger, source]
    rfl
  · have source := Number.source_of_null spelled
    refine .inr ⟨source, ?_⟩
    unfold rereadFloat?
    rw [source]

end AccessControl.Json

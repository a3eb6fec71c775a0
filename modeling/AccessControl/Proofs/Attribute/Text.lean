/-
**Values as text, and the texts that are values.**

* `Decimal.Denotes` — an optional sign and digits, and the integer that they denote.
* `Decimal.readAnyInt_eq_some_iff` — exactly such texts are read as integers.
* `AttributeValue.Spelled` — which texts stand for a value; `decode_eq_ok_iff_spelled`: apart from
  doubles a text is read as the value that it stands for and as no other.
* `ValueType.Grammar` — the texts that stand for a value of a type.
* `AttributeValue.texts_read_back` — **a value is read back from its text and its type; a text is
  read exactly when it is in the grammar of the type**, and what is written for it then is read as
  the same value again.
-/

import AccessControl.Proofs.Attribute
import AccessControl.Proofs.Decimal.ReadBack

namespace AccessControl

/-! ### Integers -/

namespace Decimal

/-- The integer that an optional sign and at least one digit denote. -/
inductive Denotes : List Char → Int → Prop where
  | plain {digits : List Char} (begun : digits ≠ []) (all : ∀ c ∈ digits, c.isDigit = true) :
      Denotes digits (Nat.ofDigitChars 10 digits 0)
  | plus {digits : List Char} (begun : digits ≠ []) (all : ∀ c ∈ digits, c.isDigit = true) :
      Denotes ('+' :: digits) (Nat.ofDigitChars 10 digits 0)
  | minus {digits : List Char} (begun : digits ≠ []) (all : ∀ c ∈ digits, c.isDigit = true) :
      Denotes ('-' :: digits) (-(Nat.ofDigitChars 10 digits 0 : Int))

variable {text digits : List Char} {low high n : Int}

/-- Digits alone are read as the number that they denote, and nothing else is. -/
theorem readNat_eq_some_iff {value : Nat} :
    readNat digits = some value ↔
      digits ≠ [] ∧ (∀ c ∈ digits, c.isDigit = true) ∧ Nat.ofDigitChars 10 digits 0 = value := by
  have refused : (digits.isEmpty || !digits.all isDigit) = true ↔
      ¬ (digits ≠ [] ∧ ∀ c ∈ digits, c.isDigit = true) := by
    simp only [isDigit_eq, Bool.or_eq_true, List.isEmpty_iff, Bool.not_eq_true', List.all_eq_false]
    grind
  unfold readNat
  rw [← digitsValue_eq, ← and_assoc]
  split
  · rename_i fails
    exact iff_of_false nofun fun denoted => refused.mp fails denoted.1
  · rename_i holds
    rw [Option.some.injEq]
    exact (and_iff_right (not_not.mp (mt refused.mpr holds))).symm

theorem readAnyInt_eq (text : List Char) :
    readAnyInt text = (readNat (splitSign text).2).map fun size : Nat =>
      if (splitSign text).1 then -(size : Int) else size := by
  unfold readAnyInt
  obtain ⟨negative, digits⟩ := splitSign text
  dsimp only
  cases readNat digits <;> rfl

/-- A text begins with a sign, or none is taken off. -/
theorem splitSign_cases (text : List Char) :
    (∃ rest, text = '-' :: rest) ∨ (∃ rest, text = '+' :: rest) ∨
      splitSign text = (false, text) := by
  unfold splitSign
  split
  · exact .inl ⟨_, rfl⟩
  · exact .inr (.inl ⟨_, rfl⟩)
  · exact .inr (.inr rfl)

/-- **An optional sign and digits are read as the integer that they denote**, and nothing else
is. -/
theorem readAnyInt_eq_some_iff : readAnyInt text = some n ↔ Denotes text n := by
  rw [readAnyInt_eq]
  constructor
  · intro read
    obtain ⟨size, number, rfl⟩ := Option.map_eq_some_iff.mp read
    obtain ⟨begun, all, rfl⟩ := readNat_eq_some_iff.mp number
    rcases splitSign_cases text with ⟨rest, rfl⟩ | ⟨rest, rfl⟩ | bare
    · exact .minus begun all
    · exact .plus begun all
    · rw [bare] at begun all ⊢
      exact .plain begun all
  · intro denoted
    cases denoted with
    | plain begun all =>
      have bare := splitSign_digits all begun []
      rw [List.append_nil] at bare
      rw [bare, readNat_eq_some_iff.mpr ⟨begun, all, rfl⟩]
      rfl
    | @plus digits begun all =>
      have signed : splitSign ('+' :: digits) = (false, digits) := rfl
      rw [signed, readNat_eq_some_iff.mpr ⟨begun, all, rfl⟩]
      rfl
    | @minus digits begun all =>
      have signed : splitSign ('-' :: digits) = (true, digits) := rfl
      rw [signed, readNat_eq_some_iff.mpr ⟨begun, all, rfl⟩]
      rfl

/-- Within limits the same holds for the integers that are within them. -/
theorem readInt_eq_some_iff :
    readInt low high text = some n ↔ Denotes text n ∧ low ≤ n ∧ n ≤ high := by
  rw [← readAnyInt_eq_some_iff]
  unfold readInt
  cases readAnyInt text with
  | none => simp
  | some read =>
    show (if low ≤ read ∧ read ≤ high then some read else none) = some n ↔ _
    by_cases within : low ≤ read ∧ read ≤ high
    · rw [if_pos within, Option.some.injEq]
      exact ⟨fun same => ⟨same, same ▸ within⟩, fun own => own.1⟩
    · rw [if_neg within, Option.some.injEq]
      exact iff_of_false nofun fun own => within (own.1 ▸ own.2)

end Decimal

/-! ### Values -/

/-- The texts in which a value of a type can be written. Those of doubles are left out. -/
inductive ValueType.Grammar : ValueType → String → Prop where
  | string (text : String) : Grammar .string text
  | yes : Grammar .boolean "true"
  | no : Grammar .boolean "false"
  | integer {text : String} {n : Int} (denoted : Decimal.Denotes text.toList n)
      (above : Word.leastInt64 ≤ n) (below : n ≤ Word.greatestInt64) : Grammar .integer text

namespace AttributeValue

/-- The texts that stand for a value: a text for itself, a switch by its name, an integer by its
digits. -/
inductive Spelled : AttributeValue → String → Prop where
  | string (text : String) : Spelled (.string text) text
  | yes : Spelled (.boolean true) "true"
  | no : Spelled (.boolean false) "false"
  | integer {value : Int64} {text : String} (denoted : Decimal.Denotes text.toList value.toInt) :
      Spelled (.integer value) text

variable {type : ValueType} {text : String} {value : AttributeValue}

theorem decode_eq_ok_iff : decode type text = .ok value ↔ ofText? type text = some value := by
  unfold decode
  cases ofText? type text <;> simp

/-- **Apart from doubles a text is read as the value that it stands for**, and as no other. -/
theorem decode_eq_ok_iff_spelled (exact_ : type ≠ .float) :
    decode type text = .ok value ↔ value.type = type ∧ value.Spelled text := by
  rw [decode_eq_ok_iff]
  constructor
  · intro read
    cases type with
    | float => exact absurd rfl exact_
    | string => exact Option.some.inj read ▸ ⟨rfl, .string text⟩
    | boolean =>
      unfold ofText? at read
      split_ifs at read with yes no
      · exact Option.some.inj read ▸ ⟨rfl, yes ▸ .yes⟩
      · exact Option.some.inj read ▸ ⟨rfl, no ▸ .no⟩
    | integer =>
      obtain ⟨n, number, rfl⟩ := Option.map_eq_some_iff.mp read
      obtain ⟨denoted, above, below⟩ := Decimal.readInt_eq_some_iff.mp number
      have own : (Int64.ofInt n).toInt = n :=
        Int64.toInt_ofInt_of_le above (Int.lt_add_one_iff.mpr below)
      exact ⟨rfl, .integer (own.symm ▸ denoted)⟩
  · rintro ⟨rfl, spelled⟩
    cases spelled with
    | string text => rfl
    | yes => rfl
    | no => rfl
    | @integer value text denoted =>
      have least : Word.leastInt64 ≤ value.toInt := value.le_toInt
      have greatest : value.toInt ≤ Word.greatestInt64 := Int.le_of_lt_add_one value.toInt_lt
      have number := Decimal.readInt_eq_some_iff.mpr ⟨denoted, least, greatest⟩
      show (Decimal.readInt _ _ _).map _ = _
      rw [number, Option.map_some, Int64.ofInt_toInt]

/-- **A text is read exactly when it is in the grammar of the type.** -/
theorem decodes_iff_grammar (exact_ : type ≠ .float) :
    (∃ value, decode type text = .ok value) ↔ type.Grammar text := by
  simp only [decode_eq_ok_iff_spelled exact_]
  constructor
  · rintro ⟨value, rfl, spelled⟩
    cases spelled with
    | string text => exact .string text
    | yes => exact .yes
    | no => exact .no
    | @integer value text denoted =>
      exact .integer denoted value.le_toInt (Int.le_of_lt_add_one value.toInt_lt)
  · rintro (text | _ | _ | ⟨denoted, above, below⟩)
    · exact ⟨.string text, rfl, .string text⟩
    · exact ⟨.boolean true, rfl, .yes⟩
    · exact ⟨.boolean false, rfl, .no⟩
    · rename_i n
      have own : (Int64.ofInt n).toInt = n :=
        Int64.toInt_ofInt_of_le above (Int.lt_add_one_iff.mpr below)
      exact ⟨.integer (Int64.ofInt n), rfl, .integer (own.symm ▸ denoted)⟩

theorem legible (value : AttributeValue) : value.Legible :=
  fun x _ => Decimal.readFloat_positional x

/-- **A value is read back from its text and its type.** -/
theorem decode_encode (value : AttributeValue) : decode value.type value.encode = .ok value :=
  decode_eq_ok_iff.mpr (ofText?_encode value.legible)

theorem type_of_decode (read : decode type text = .ok value) : value.type = type := by
  by_cases double : type = .float
  · subst double
    obtain ⟨x, -, rfl⟩ := Option.map_eq_some_iff.mp (decode_eq_ok_iff.mp read)
    rfl
  · exact ((decode_eq_ok_iff_spelled double).mp read).1

/-- **Values and their texts.** Every value is read back from its text and its type, doubles
included; the one double that is no number is read as itself, although it compares unequal to it.
What a text is read as has the type, and is written as a text that is read as the same again. Apart
from doubles a text is read exactly when it is in the grammar of the type, as the value that it
stands for, and any other text is refused. -/
theorem texts_read_back :
    (∀ value : AttributeValue, decode value.type value.encode = .ok value) ∧
    (∀ type text value, decode type text = .ok value →
      value.type = type ∧ decode type value.encode = .ok value) ∧
    ∀ type : ValueType, type ≠ .float → ∀ text,
      ((∃ value, decode type text = .ok value) ↔ type.Grammar text) ∧
      (∀ value, decode type text = .ok value → value.Spelled text) ∧
      (¬ type.Grammar text → decode type text = .error (.wrongValue text type)) := by
  refine ⟨decode_encode, ?_, fun type exact_ text => ⟨decodes_iff_grammar exact_, ?_, ?_⟩⟩
  · intro type text value read
    obtain rfl := type_of_decode read
    exact ⟨rfl, decode_encode value⟩
  · intro value read
    exact ((decode_eq_ok_iff_spelled exact_).mp read).2
  · intro outside
    have unread := mt (decodes_iff_grammar exact_).mp outside
    unfold decode at unread ⊢
    cases read : ofText? type text with
    | none => rfl
    | some value => exact absurd ⟨value, by rw [read]⟩ unread

/-- The least integer is read back, a seven behind a sign and a zero is written as a text that is
read as seven, and the number above the greatest integer is refused. -/
theorem texts_read_back_limits :
    decode .integer (encode (.integer (-9223372036854775808))) =
        .ok (.integer (-9223372036854775808)) ∧
      decode .integer (encode (.integer 7)) = .ok (.integer 7) ∧
      (AttributeValue.integer 7).Spelled "+07" ∧
      decode .integer "9223372036854775808" =
        .error (.wrongValue "9223372036854775808" .integer) := by
  have integers : ValueType.integer ≠ .float := by decide
  have seven : decode .integer "+07" = .ok (.integer 7) := rfl
  have refused : ofText? .integer "9223372036854775808" = none := by decide +kernel
  refine ⟨texts_read_back.1 (.integer (-9223372036854775808)),
    (texts_read_back.2.1 .integer "+07" _ seven).2,
    (texts_read_back.2.2 .integer integers "+07").2.1 _ seven,
    (texts_read_back.2.2 .integer integers "9223372036854775808").2.2 fun within => ?_⟩
  obtain ⟨value, read⟩ := (decodes_iff_grammar integers).mpr within
  rw [decode_eq_ok_iff, refused] at read
  cases read

end AttributeValue

end AccessControl

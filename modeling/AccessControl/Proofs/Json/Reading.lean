/-
**Documents as they are written, read back.**

* `Document.source` — a document as it is taken apart when its text is read.
* `readValue_chars` — **the reader takes the text of a document apart into this**, with as many
  steps as there are characters, whatever follows that cannot belong to it.
* `ofText_text` — so it does with the whole text.
* `pieceString_pieces` — the pieces of a string make the string again.
-/

import AccessControl.Proofs.Json.Number

namespace AccessControl.Json

open Decimal (isDigit)

/-! ### Strings -/

/-- The piece that a character is read as after it was written. -/
def piece (c : Char) : Piece :=
  match c with
  | '\n' | '\r' | '\t' | '\x08' | '\x0c' => .plain c
  | c => if c.toNat < 0x20 then .unit c.toNat else .plain c

def pieces (text : String) : List Piece := text.toList.map piece

theorem hexValue?_hexDigit (n : Nat) : hexValue? (hexDigit n) = some (n % 16) := by
  have all : ∀ m < 16, hexValue? (Nat.digitChar m) = some m := by decide
  exact all (n % 16) (Nat.mod_lt n (by decide))

/-- The four digits of a control character have its value. -/
theorem hexValue_control {c : Char} (control : c.toNat < 0x20) :
    hexValue ['0', '0', hexDigit (c.toNat / 16), hexDigit c.toNat] = some c.toNat := by
  have zero : hexValue? '0' = some 0 := by decide
  unfold hexValue
  simp only [List.foldlM_cons, List.foldlM_nil, zero, hexValue?_hexDigit, Option.map_some,
    Option.bind_eq_bind, Option.bind_some, Option.pure_def]
  congr 1
  omega

def withPiece (piece : Piece) : List Piece × List Char → List Piece × List Char :=
  fun (read, after) => (piece :: read, after)

theorem readString_short {letter c : Char} (short : simpleEscape? letter = some c)
    (rest : List Char) :
    readString ('\\' :: letter :: rest) = (readString rest).map (withPiece (.plain c)) := by
  rw [readString, short]
  · cases readString rest <;> rfl
  · rintro _ _ _ _ _ rfl -
    cases short

theorem readString_unit {c : Char} (control : c.toNat < 0x20) (rest : List Char) :
    readString ('\\' :: 'u' :: '0' :: '0' :: hexDigit (c.toNat / 16) :: hexDigit c.toNat :: rest) =
      (readString rest).map (withPiece (.unit c.toNat)) := by
  rw [readString, hexValue_control control]
  cases readString rest <;> rfl

theorem readString_plain {c : Char} (quote : c ≠ '"') (backslash : c ≠ '\\')
    (printed : ¬ c.toNat < 0x20) (rest : List Char) :
    readString (c :: rest) = (readString rest).map (withPiece (.plain c)) := by
  rw [readString, if_neg printed]
  · cases readString rest <;> rfl
  · exact quote
  · exact fun _ _ _ _ _ same _ => backslash same
  · exact fun _ _ same _ => backslash same

/-- **A character that is written in quotes is read back.** -/
theorem readString_escaped (c : Char) (rest : List Char) :
    readString (escaped c ++ rest) = (readString rest).map (withPiece (piece c)) := by
  unfold escaped
  split
  case h_8 quote backslash _ _ _ _ _ =>
    have own : piece c = if c.toNat < 0x20 then .unit c.toNat else .plain c := by
      unfold piece
      split
      all_goals first | contradiction | rfl
    by_cases control : c.toNat < 0x20
    · rw [own, if_pos control, if_pos control]
      exact readString_unit control rest
    · rw [own, if_neg control, if_neg control]
      exact readString_plain quote backslash control rest
  all_goals exact readString_short rfl rest

/-- A text in quotes is read back. -/
theorem readString_quoted (text : String) (rest : List Char) :
    readString (text.toList.flatMap escaped ++ '"' :: rest) = some (pieces text, rest) := by
  unfold pieces
  induction text.toList with
  | nil => rfl
  | cons c more ih =>
    rw [List.flatMap_cons, List.append_assoc, readString_escaped, ih]
    rfl

/-- A unit that is no surrogate is a character of its own. -/
theorem pieceText_unit {code : Nat} (low : code < 0xD800) (rest : List Piece) :
    pieceText (.unit code :: rest) = (pieceText rest).map (Char.ofNat code :: ·) := by
  have single : ¬ (0xD800 ≤ code ∧ code ≤ 0xDFFF) := by omega
  have high : ¬ (0xD800 ≤ code ∧ code ≤ 0xDBFF) := by omega
  have last : ¬ (0xDC00 ≤ code ∧ code ≤ 0xDFFF) := by omega
  match rest with
  | [] => simp only [pieceText, single, if_false]
  | .plain _ :: _ => simp only [pieceText, single, if_false]
  | .unit _ :: _ => rw [pieceText, if_neg high, if_neg last]

/-- **The pieces of a string make the string again.** -/
theorem pieceString_pieces (text : String) : pieceString (pieces text) = some text := by
  have all (chars : List Char) : pieceText (chars.map piece) = some chars := by
    induction chars with
    | nil => rfl
    | cons c rest ih =>
      have first : pieceText (piece c :: rest.map piece) =
          (pieceText (rest.map piece)).map (c :: ·) := by
        unfold piece
        split
        case h_6 =>
          split
          · rename_i control
            rw [pieceText_unit (by omega), Char.ofNat_toNat]
          · rfl
        all_goals rfl
      rw [List.map_cons, first, ih]
      rfl
  unfold pieceString pieces
  rw [all, Option.map_some, String.ofList_toList]

/-! ### Documents -/

mutual

def Document.source : Document → Source
  | .null => .null
  | .bool value => .bool value
  | .number value => value.source
  | .string value => .string (pieces value)
  | .array items => .array (itemSources items)
  | .object members => .object (memberSources members)

/-- Items as they are taken apart. -/
def itemSources : List Document → List Source
  | [] => []
  | item :: rest => item.source :: itemSources rest

/-- Members as they are taken apart. -/
def memberSources : List (String × Document) → List (List Piece × Source)
  | [] => []
  | (key, value) :: rest => (pieces key, value.source) :: memberSources rest

end

theorem dropSpace_cons {c : Char} (solid : isSpace c = false) (rest : List Char) :
    dropSpace (c :: rest) = c :: rest := by
  simp [dropSpace, solid]

/-- The first character of a number. -/
def Leads (c : Char) : Prop := c = '-' ∨ isDigit c = true

theorem Leads.ne {c : Char} (leads : Leads c) {other : Char} (minus : other ≠ '-')
    (digit : isDigit other = false) : c ≠ other := by
  rintro rfl
  rcases leads with same | isOne
  · exact minus same
  · rw [digit] at isOne
    cases isOne

theorem NumberText.Proper.leads {number : NumberText} (proper : number.Proper) :
    ∃ c tail, number.chars = c :: tail ∧ Leads c := by
  obtain ⟨negative, whole, fraction, exponent⟩ := number
  obtain ⟨all, begun, -, -⟩ := proper
  cases negative with
  | true => exact ⟨'-', _, rfl, .inl rfl⟩
  | false =>
    cases whole with
    | nil => exact absurd rfl begun
    | cons digit more => exact ⟨digit, _, rfl, .inr (all digit List.mem_cons_self)⟩

theorem Leads.solid {c : Char} (leads : Leads c) : isSpace c = false := by
  refine Bool.eq_false_iff.mpr fun blank => ?_
  simp only [isSpace, Bool.or_eq_true, decide_eq_true_eq] at blank
  rcases blank with ((same | same) | same) | same <;> exact leads.ne (by decide) (by decide) same

/-- What begins like a number is read as one. -/
theorem readValue_number {c : Char} (leads : Leads c) (fuel : Nat) (tail : List Char) :
    readValue (fuel + 1) (c :: tail) =
      (readNumber (c :: tail)).map fun (number, after) => (.number number, after) := by
  rw [readValue, dropSpace_cons leads.solid]
  split
  case h_7 => cases readNumber (c :: tail) <;> rfl
  all_goals
    rename_i same
    exact absurd (List.cons.inj same).1 (leads.ne (by decide) (by decide))

/-- A document begins with a character that is neither blank nor closes anything. -/
theorem chars_begun (document : Document) :
    ∃ c tail, document.chars = c :: tail ∧ isSpace c = false ∧ c ≠ ']' ∧ c ≠ '\x7d' := by
  cases document with
  | null => exact ⟨'n', _, rfl, by decide⟩
  | bool value => cases value <;> exact ⟨_, _, rfl, by decide⟩
  | number value =>
    cases value.spelled with
    | @number written proper spelled =>
      obtain ⟨c, tail, same, leads⟩ := proper.leads
      exact ⟨c, tail, spelled.symm.trans same, leads.solid, leads.ne (by decide) (by decide),
        leads.ne (by decide) (by decide)⟩
    | null spelled => exact ⟨'n', _, spelled.symm, by decide⟩
  | string value => exact ⟨'"', _, rfl, by decide⟩
  | array items => exact ⟨'[', _, rfl, by decide⟩
  | object members => exact ⟨'\x7b', _, rfl, by decide⟩

theorem itemChars_begun (item : Document) (items : List Document) :
    ∃ c tail, itemChars (item :: items) = c :: tail ∧ isSpace c = false ∧ c ≠ ']' := by
  obtain ⟨c, tail, same, solid, apart, -⟩ := chars_begun item
  cases items with
  | nil => exact ⟨c, tail, same, solid, apart⟩
  | cons next rest => exact ⟨c, _, congrArg (· ++ _) same, solid, apart⟩

theorem memberChars_begun (member : String × Document) (members : List (String × Document)) :
    ∃ tail, memberChars (member :: members) = '"' :: tail := by
  cases members <;> exact ⟨_, rfl⟩

theorem apart_cons {c : Char} (ends : isDigit c = false ∧ c ≠ '.' ∧ c ≠ 'e' ∧ c ≠ 'E')
    (rest : List Char) : Apart (c :: rest) := fun _ first => Option.some.inj first ▸ ends

/-- The number of a document is read back. -/
theorem readValue_source (number : Number) (fuel : Nat) {rest : List Char} (apart : Apart rest) :
    readValue (fuel + 1) (number.chars ++ rest) = some (number.source, rest) := by
  cases number.spelled with
  | @number written proper spelled =>
    obtain ⟨c, tail, same, leads⟩ := proper.leads
    have read := readNumber_chars proper apart
    rw [Number.source_of_chars proper spelled, ← spelled]
    rw [same, List.cons_append] at read ⊢
    rw [readValue_number leads, read]
    rfl
  | null spelled =>
    rw [Number.source_of_null spelled, ← spelled]
    rfl

/-! ### One step of the reader -/

theorem readValue_string (fuel : Nat) (text : List Char) :
    readValue (fuel + 1) ('"' :: text) =
      (readString text).map fun (read, after) => (.string read, after) := by
  rw [readValue, dropSpace_cons (by decide)]
  split
  case h_4 _ rest same =>
    obtain ⟨-, rfl⟩ := List.cons.inj same
    cases readString text <;> rfl
  case h_7 _ _ _ no _ _ => exact absurd rfl (no text)
  all_goals
    rename_i same
    exact absurd (List.cons.inj same).1 (by decide)

section Inside

variable {c : Char} (solid : isSpace c = false) (fuel : Nat) (tail : List Char)

include solid

theorem readValue_array (inside : c ≠ ']') :
    readValue (fuel + 1) ('[' :: c :: tail) =
      (readItems fuel (c :: tail)).map fun (items, after) => (.array items, after) := by
  rw [readValue, dropSpace_cons (by decide)]
  split
  case h_5 _ rest same =>
    obtain ⟨-, rfl⟩ := List.cons.inj same
    rw [dropSpace_cons solid]
    split
    · rename_i closed
      exact absurd (List.cons.inj closed).1 inside
    · cases readItems fuel (c :: tail) <;> rfl
  case h_7 _ _ _ _ no _ => exact absurd rfl (no (c :: tail))
  all_goals
    rename_i same
    exact absurd (List.cons.inj same).1 (by decide)

theorem readValue_object (inside : c ≠ '\x7d') :
    readValue (fuel + 1) ('\x7b' :: c :: tail) =
      (readMembers fuel (c :: tail)).map fun (members, after) => (.object members, after) := by
  rw [readValue, dropSpace_cons (by decide)]
  split
  case h_6 _ rest same =>
    obtain ⟨-, rfl⟩ := List.cons.inj same
    rw [dropSpace_cons solid]
    split
    · rename_i closed
      exact absurd (List.cons.inj closed).1 inside
    · cases readMembers fuel (c :: tail) <;> rfl
  case h_7 _ _ _ _ _ no => exact absurd rfl (no (c :: tail))
  all_goals
    rename_i same
    exact absurd (List.cons.inj same).1 (by decide)

end Inside

section Row

variable {fuel : Nat} {text rest : List Char} {value : Source}

theorem readItems_last (read : readValue fuel text = some (value, ']' :: rest)) :
    readItems (fuel + 1) text = some ([value], rest) := by
  rw [readItems, read]
  rfl

theorem readItems_more (read : readValue fuel text = some (value, ',' :: rest)) :
    readItems (fuel + 1) text =
      (readItems fuel rest).map fun (items, after) => (value :: items, after) := by
  have comma : dropSpace (',' :: rest) = ',' :: rest := rfl
  rw [readItems, read]
  simp only [comma]
  cases readItems fuel rest <;> rfl

/-- What comes behind a member: the end of the object, or more members. -/
def readBehind (fuel : Nat) (member : List Piece × Source) (rest : List Char) :
    Option (List (List Piece × Source) × List Char) :=
  match dropSpace rest with
  | '\x7d' :: after => some ([member], after)
  | ',' :: more =>
    match readMembers fuel more with
    | some (members, after) => some (member :: members, after)
    | none => none
  | _ => none

/-- A key and its colon are read before a value. -/
theorem readMembers_key (key : String) (read : readValue fuel text = some (value, rest)) :
    readMembers (fuel + 1) (quoted key ++ ':' :: text) =
      readBehind fuel (pieces key, value) rest := by
  have name := readString_quoted key (':' :: text)
  have colon : isSpace ':' = false := by decide
  show readMembers (fuel + 1) ('"' :: (key.toList.flatMap escaped ++ ['"'] ++ ':' :: text)) = _
  rw [List.append_assoc, List.singleton_append, readMembers, dropSpace_cons (by decide)]
  simp only [name, dropSpace_cons colon, read]
  rfl

theorem readMembers_last (key : String)
    (read : readValue fuel text = some (value, '\x7d' :: rest)) :
    readMembers (fuel + 1) (quoted key ++ ':' :: text) = some ([(pieces key, value)], rest) := by
  rw [readMembers_key key read]
  rfl

theorem readMembers_more (key : String) (read : readValue fuel text = some (value, ',' :: rest)) :
    readMembers (fuel + 1) (quoted key ++ ':' :: text) =
      (readMembers fuel rest).map fun (members, after) =>
        ((pieces key, value) :: members, after) := by
  rw [readMembers_key key read]
  show (match readMembers fuel rest with
    | some (members, after) => some ((pieces key, value) :: members, after)
    | none => none) = _
  cases readMembers fuel rest <;> rfl

end Row

/-! ### The whole document -/

mutual

/-- **The reader takes the text of a document apart into its source.** -/
theorem readValue_chars (document : Document) {fuel : Nat} (enough : document.chars.length ≤ fuel)
    {rest : List Char} (apart : Apart rest) :
    readValue fuel (document.chars ++ rest) = some (document.source, rest) := by
  obtain ⟨fuel, rfl⟩ : ∃ less, fuel = less + 1 := by
    obtain ⟨c, tail, same, -⟩ := chars_begun document
    rw [same, List.length_cons] at enough
    exact ⟨fuel - 1, by omega⟩
  match document with
  | .null => rfl
  | .bool true => rfl
  | .bool false => rfl
  | .number value => exact readValue_source value fuel apart
  | .string value =>
    show readValue (fuel + 1) ('"' :: (value.toList.flatMap escaped ++ ['"'] ++ rest)) = _
    rw [List.append_assoc, readValue_string]
    exact congrArg (Option.map _) (readString_quoted value rest)
  | .array [] => rfl
  | .array (item :: items) =>
    obtain ⟨c, tail, same, solid, inside⟩ := itemChars_begun item items
    have less : (itemChars (item :: items)).length < fuel := by
      simp only [Document.chars, List.length_cons, List.length_append] at enough
      omega
    have read := readItems_chars (item :: items) (List.cons_ne_nil _ _) less rest
    show readValue (fuel + 1) ('[' :: (itemChars (item :: items) ++ [']'] ++ rest)) = _
    rw [List.append_assoc, List.singleton_append]
    rw [same, List.cons_append] at read ⊢
    rw [readValue_array solid fuel _ inside, read]
    rfl
  | .object [] => rfl
  | .object (member :: members) =>
    obtain ⟨tail, same⟩ := memberChars_begun member members
    have less : (memberChars (member :: members)).length < fuel := by
      simp only [Document.chars, List.length_cons, List.length_append] at enough
      omega
    have read := readMembers_chars (member :: members) (List.cons_ne_nil _ _) less rest
    show readValue (fuel + 1) ('\x7b' :: (memberChars (member :: members) ++ ['\x7d'] ++ rest)) = _
    rw [List.append_assoc, List.singleton_append]
    rw [same, List.cons_append] at read ⊢
    rw [readValue_object (by decide) fuel _ (by decide), read]
    rfl

theorem readItems_chars (items : List Document) (begun : items ≠ []) {fuel : Nat}
    (enough : (itemChars items).length < fuel) (rest : List Char) :
    readItems fuel (itemChars items ++ ']' :: rest) = some (itemSources items, rest) := by
  obtain ⟨fuel, rfl⟩ : ∃ less, fuel = less + 1 := ⟨fuel - 1, by omega⟩
  match items with
  | [] => exact absurd rfl begun
  | [item] =>
    exact readItems_last (readValue_chars item (Nat.le_of_lt_succ enough)
      (apart_cons (by decide) rest))
  | item :: next :: items =>
    let behind := itemChars (next :: items) ++ ']' :: rest
    have split : itemChars (item :: next :: items) ++ ']' :: rest = item.chars ++ ',' :: behind :=
      List.append_assoc ..
    have lengths : (item.chars ++ ',' :: itemChars (next :: items)).length < fuel + 1 := enough
    rw [List.length_append, List.length_cons] at lengths
    have first := @readValue_chars item fuel (by omega) _ (apart_cons (c := ',') (by decide) behind)
    have others := @readItems_chars (next :: items) (List.cons_ne_nil _ _) fuel (by omega) rest
    rw [split, readItems_more first, others]
    rfl

theorem readMembers_chars (members : List (String × Document)) (begun : members ≠ [])
    {fuel : Nat} (enough : (memberChars members).length < fuel) (rest : List Char) :
    readMembers fuel (memberChars members ++ '\x7d' :: rest) =
      some (memberSources members, rest) := by
  obtain ⟨fuel, rfl⟩ : ∃ less, fuel = less + 1 := ⟨fuel - 1, by omega⟩
  match members with
  | [] => exact absurd rfl begun
  | [(key, value)] =>
    have split : memberChars [(key, value)] ++ '\x7d' :: rest =
        quoted key ++ ':' :: (value.chars ++ '\x7d' :: rest) := List.append_assoc ..
    have lengths : (quoted key ++ ':' :: value.chars).length < fuel + 1 := enough
    rw [List.length_append, List.length_cons] at lengths
    rw [split]
    exact readMembers_last key (readValue_chars value (by omega) (apart_cons (by decide) rest))
  | (key, value) :: next :: members =>
    let behind := memberChars (next :: members) ++ '\x7d' :: rest
    have split : memberChars ((key, value) :: next :: members) ++ '\x7d' :: rest =
        quoted key ++ ':' :: (value.chars ++ ',' :: behind) := by
      show quoted key ++ ':' :: (value.chars ++ ',' :: memberChars (next :: members)) ++ _ = _
      rw [List.append_assoc, List.cons_append, List.append_assoc, List.cons_append]
    have lengths : (quoted key ++ ':' ::
        (value.chars ++ ',' :: memberChars (next :: members))).length < fuel + 1 := enough
    simp only [List.length_append, List.length_cons] at lengths
    have first := @readValue_chars value fuel (by omega) _
      (apart_cons (c := ',') (by decide) behind)
    have others := @readMembers_chars (next :: members) (List.cons_ne_nil _ _) fuel (by omega) rest
    rw [split, readMembers_more key first, others]
    rfl

end

/-- **The text of a document is taken apart into it.** -/
theorem ofText_text (document : Document) : Source.ofText document.text = some document.source := by
  have read := @readValue_chars document (2 * document.chars.length + 2) (by omega) [] nofun
  rw [List.append_nil] at read
  unfold Source.ofText Source.ofChars Document.text
  rw [String.toList_ofList, read]
  rfl

end AccessControl.Json

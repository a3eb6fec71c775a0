/-
**JSON as it is written: the grammar, before anything is made of it.**

* `Source` — a JSON text taken apart: numbers as digits, strings as pieces, objects with their
  members as written, repeated keys included. A text that is only skipped needs to satisfy nothing
  more.
* `Source.ofText` — the reader: strict grammar, nothing but blanks around the value.
* `Source.document` — the document it stands for: at most so many arrays and objects inside one
  another, every escaped surrogate in a pair, every number within range; of two members with one key
  the last one counts.
-/

import AccessControl.Json.Document
import AccessControl.Decimal.Numeral

namespace AccessControl.Json

open AccessControl.Decimal (isDigit digitsValue)

/-- A number as written; an integer has neither point nor exponent. -/
structure NumberText where
  negative : Bool
  whole : List Char
  fraction : List Char
  exponent : Option Int
  deriving Repr, DecidableEq

/-- A piece of a string: a character as it is, or an escaped unit of 16 bits. -/
inductive Piece where
  | plain (c : Char)
  | unit (code : Nat)
  deriving Repr, DecidableEq

/-- A JSON value as written. -/
inductive Source where
  | null
  | bool (value : Bool)
  | number (value : NumberText)
  | string (pieces : List Piece)
  | array (items : List Source)
  | object (members : List (List Piece × Source))
  deriving Repr

/-! ### Reading -/

def isSpace (c : Char) : Bool := c = ' ' || c = '\n' || c = '\t' || c = '\r'

/-- A text without the blanks in front. -/
def dropSpace (text : List Char) : List Char := text.dropWhile isSpace

/-- The value of a digit of base sixteen. -/
def hexValue? (c : Char) : Option Nat :=
  if isDigit c then some (c.toNat - 48)
  else if 'a' ≤ c ∧ c ≤ 'f' then some (c.toNat - 87)
  else if 'A' ≤ c ∧ c ≤ 'F' then some (c.toNat - 55)
  else none

/-- The value of some digits of base sixteen. -/
def hexValue : List Char → Option Nat :=
  List.foldlM (fun value c => (hexValue? c).map (value * 16 + ·)) 0

/-- What a backslash and a letter stand for. -/
def simpleEscape? (c : Char) : Option Char :=
  match c with
  | '"' => some '"'
  | '\\' => some '\\'
  | '/' => some '/'
  | 'b' => some '\x08'
  | 'f' => some '\x0c'
  | 'n' => some '\n'
  | 'r' => some '\r'
  | 't' => some '\t'
  | _ => none

/-- A string after its opening quote, and what follows its closing one. -/
def readString : List Char → Option (List Piece × List Char)
  | [] => none
  | '"' :: rest => some ([], rest)
  | '\\' :: 'u' :: a :: b :: c :: d :: rest =>
    match hexValue [a, b, c, d], readString rest with
    | some code, some (pieces, after) => some (.unit code :: pieces, after)
    | _, _ => none
  | '\\' :: c :: rest =>
    match simpleEscape? c, readString rest with
    | some plain, some (pieces, after) => some (.plain plain :: pieces, after)
    | _, _ => none
  | c :: rest =>
    if c.toNat < 0x20 then none
    else
      match readString rest with
      | some (pieces, after) => some (.plain c :: pieces, after)
      | none => none

/-- The exponent of a number, if there is one, and what follows it. -/
def readExponentPart : List Char → Option (Option Int × List Char)
  | [] => some (none, [])
  | mark :: rest =>
    if mark = 'e' ∨ mark = 'E' then
      let (negative, digits) := Decimal.splitSign rest
      let power := digits.takeWhile isDigit
      if power.isEmpty then none
      else
        let size : Int := digitsValue power
        some (some (if negative then -size else size), digits.dropWhile isDigit)
    else some (none, mark :: rest)

/-- The fraction of a number, empty when there is no point, and what follows it. -/
def readFractionPart : List Char → Option (List Char × List Char)
  | '.' :: rest =>
    if (rest.takeWhile isDigit).isEmpty then none
    else some (rest.takeWhile isDigit, rest.dropWhile isDigit)
  | text => some ([], text)

/-- A number, and what follows it. A leading zero stands alone. -/
def readNumber (text : List Char) : Option (NumberText × List Char) :=
  let (negative, unsigned) := match text with
    | '-' :: rest => (true, rest)
    | text => (false, text)
  let whole := unsigned.takeWhile isDigit
  if whole.isEmpty ∨ (whole.head? = some '0' ∧ 1 < whole.length) then none
  else
    match readFractionPart (unsigned.dropWhile isDigit) with
    | none => none
    | some (fraction, rest) =>
      match readExponentPart rest with
      | none => none
      | some (exponent, after) => some (⟨negative, whole, fraction, exponent⟩, after)

mutual

def readValue : Nat → List Char → Option (Source × List Char)
  | 0, _ => none
  | fuel + 1, text =>
    match dropSpace text with
    | 'n' :: 'u' :: 'l' :: 'l' :: rest => some (.null, rest)
    | 't' :: 'r' :: 'u' :: 'e' :: rest => some (.bool true, rest)
    | 'f' :: 'a' :: 'l' :: 's' :: 'e' :: rest => some (.bool false, rest)
    | '"' :: rest =>
      match readString rest with
      | some (pieces, after) => some (.string pieces, after)
      | none => none
    | '[' :: rest =>
      match dropSpace rest with
      | ']' :: after => some (.array [], after)
      | _ =>
        match readItems fuel rest with
        | some (items, after) => some (.array items, after)
        | none => none
    | '\x7b' :: rest =>
      match dropSpace rest with
      | '\x7d' :: after => some (.object [], after)
      | _ =>
        match readMembers fuel rest with
        | some (members, after) => some (.object members, after)
        | none => none
    | other =>
      match readNumber other with
      | some (value, after) => some (.number value, after)
      | none => none

/-- The items of an array up to its closing bracket, at least one. -/
def readItems : Nat → List Char → Option (List Source × List Char)
  | 0, _ => none
  | fuel + 1, text =>
    match readValue fuel text with
    | none => none
    | some (item, rest) =>
      match dropSpace rest with
      | ']' :: after => some ([item], after)
      | ',' :: more =>
        match readItems fuel more with
        | some (items, after) => some (item :: items, after)
        | none => none
      | _ => none

/-- The members of an object up to its closing brace, at least one. -/
def readMembers : Nat → List Char → Option (List (List Piece × Source) × List Char)
  | 0, _ => none
  | fuel + 1, text =>
    match dropSpace text with
    | '"' :: quotedKey =>
      match readString quotedKey with
      | none => none
      | some (key, afterKey) =>
        match dropSpace afterKey with
        | ':' :: afterColon =>
          match readValue fuel afterColon with
          | none => none
          | some (value, rest) =>
            match dropSpace rest with
            | '\x7d' :: after => some ([(key, value)], after)
            | ',' :: more =>
              match readMembers fuel more with
              | some (members, after) => some ((key, value) :: members, after)
              | none => none
            | _ => none
        | _ => none
    | _ => none

end

/-- The value that a list of characters is, with blanks around it. Every second step of the reader
takes a character off, so the length bounds the steps. -/
def Source.ofChars (text : List Char) : Option Source :=
  match readValue (2 * text.length + 2) text with
  | some (source, rest) => if (dropSpace rest).isEmpty then some source else none
  | none => none

/-- The value that a text is. -/
def Source.ofText (text : String) : Option Source := Source.ofChars text.toList

/-! ### Meaning -/

/-- The digits of a number gathered in 64 bits: the value of the longest start that fits, and how
many digits were left out. -/
def gather : Nat → List Char → Nat × Nat
  | value, [] => (value, 0)
  | value, digit :: rest =>
    let next := value * 10 + Decimal.digitValue digit
    if next ≤ Word.greatestUInt64 then gather next rest else (value, rest.length + 1)

/-- A double times a power of ten by one multiplication or division, after steps of `10 ^ 308` while
the power is beyond the doubles; nothing when the result would be infinite. -/
def timesPowerOfTen : Nat → Float → Int → Option Float
  | 0, x, _ => some x
  | fuel + 1, x, exponent =>
    if exponent.natAbs ≤ 308 then
      let power := Decimal.nearest (Nat.pow 10 exponent.natAbs) 1
      if 0 ≤ exponent then
        if (x * power).isInf then none else some (x * power)
      else some (x / power)
    else if x == 0 then some x
    else if 0 ≤ exponent then none
    else timesPowerOfTen fuel (x / Decimal.nearest (Nat.pow 10 308) 1) (exponent + 308)

/-- The double that a number is read as: its first digits, as many as fit 64 bits, scaled by a power
of ten. Digits of the whole part that do not fit still count in the power. -/
def NumberText.toFloat? (number : NumberText) : Option Float :=
  let (head, left) := gather 0 number.whole
  let (significand, cut) := gather head number.fraction
  let exponent := (left : Int) - (number.fraction.length - cut : Nat) + number.exponent.getD 0
  (timesPowerOfTen 8 (UInt64.ofNat significand).toFloat exponent).map
    (Decimal.signed number.negative)

/-- The integer that a number without point and exponent is. A zero with a minus sign is none. -/
def NumberText.toInt? (number : NumberText) : Option Int :=
  if number.fraction.isEmpty && number.exponent.isNone then
    let size := digitsValue number.whole
    if number.negative && size == 0 then none
    else some (if number.negative then -(size : Int) else size)
  else none

/-- The number of a document, an integer when it is written as one and fits 64 bits. -/
def NumberText.value? (number : NumberText) : Option Number :=
  match number.toInt?.bind Number.ofInt? with
  | some value => some value
  | none => number.toFloat?.map .real

/-- The text of a string; an escaped surrogate must be one of a pair. -/
def pieceText : List Piece → Option (List Char)
  | [] => some []
  | .plain c :: rest => (pieceText rest).map (c :: ·)
  | .unit high :: .unit low :: rest =>
    if 0xD800 ≤ high ∧ high ≤ 0xDBFF then
      if 0xDC00 ≤ low ∧ low ≤ 0xDFFF then
        (pieceText rest).map
          (Char.ofNat (0x10000 + (high - 0xD800) * 0x400 + (low - 0xDC00)) :: ·)
      else none
    else if 0xDC00 ≤ high ∧ high ≤ 0xDFFF then none
    else (pieceText (.unit low :: rest)).map (Char.ofNat high :: ·)
  | .unit code :: rest =>
    if 0xD800 ≤ code ∧ code ≤ 0xDFFF then none
    else (pieceText rest).map (Char.ofNat code :: ·)

def pieceString (pieces : List Piece) : Option String := (pieceText pieces).map String.ofList

mutual

/-- The document that a value stands for, with at most so many levels of arrays and objects. -/
def Source.document : Nat → Source → Option Document
  | _, .null => some .null
  | _, .bool value => some (.bool value)
  | _, .number value => value.value?.map .number
  | _, .string pieces => (pieceString pieces).map .string
  | 0, .array _ => none
  | 0, .object _ => none
  | levels + 1, .array items => (itemDocuments levels items).map .array
  | levels + 1, .object members =>
    (memberDocuments levels members).map fun pairs => .object (Keyed.ofList pairs)

def itemDocuments : Nat → List Source → Option (List Document)
  | _, [] => some []
  | levels, item :: rest =>
    match item.document levels, itemDocuments levels rest with
    | some document, some documents => some (document :: documents)
    | _, _ => none

/-- The members of an object with their keys read. -/
def memberDocuments : Nat → List (List Piece × Source) → Option (List (String × Document))
  | _, [] => some []
  | levels, (key, value) :: rest =>
    match pieceString key, value.document levels, memberDocuments levels rest with
    | some name, some document, some pairs => some ((name, document) :: pairs)
    | _, _, _ => none

end

/-- How many arrays and objects may stand inside one another. -/
def maxLevels : Nat := 127

def Document.ofText (text : String) : Option Document :=
  (Source.ofText text).bind (Source.document maxLevels)

end AccessControl.Json

/-
**JSON documents, and their compact text.**

* `Number` — an integer of 64 bits, one too large for a sign but not for 64 bits, or a double. The
  three do not overlap, so that a document has one form.
* `Document` — a JSON value; the members of an object carry distinct keys in increasing order.
* `Document.text` — the value without blanks, control characters escaped.
-/

import AccessControl.Dictionary
import AccessControl.Decimal.Text
import AccessControl.Word

namespace AccessControl.Json

/-- A number of a document. -/
inductive Number where
  | integer (value : Int64)
  | large (value : UInt64) (beyond : 0x8000000000000000 ≤ value.toNat)
  | real (value : Float)
  deriving Repr

/-- The integer of 64 bits with a given value, signed when it fits. -/
def Number.ofInt? (value : Int) : Option Number :=
  if Word.leastInt64 ≤ value ∧ value ≤ Word.greatestInt64 then some (.integer (Int64.ofInt value))
  else if fits : 0x8000000000000000 ≤ value ∧ value ≤ Word.greatestUInt64 then
    some (.large (UInt64.ofNat value.toNat) (by
      simp only [Word.greatestUInt64] at fits
      rw [UInt64.toNat_ofNat']
      omega))
  else none

/-- A JSON value. -/
inductive Document where
  | null
  | bool (value : Bool)
  | number (value : Number)
  | string (value : String)
  | array (items : List Document)
  | object (members : List (String × Document))
  deriving Repr, Inhabited

/-! ### Text -/

/-- A digit of base sixteen, in lower case. -/
def hexDigit (n : Nat) : Char := Nat.digitChar (n % 16)

/-- A character inside a string's quotes. -/
def escaped (c : Char) : List Char :=
  match c with
  | '"' => ['\\', '"']
  | '\\' => ['\\', '\\']
  | '\n' => ['\\', 'n']
  | '\r' => ['\\', 'r']
  | '\t' => ['\\', 't']
  | '\x08' => ['\\', 'b']
  | '\x0c' => ['\\', 'f']
  | c =>
    if c.toNat < 0x20 then ['\\', 'u', '0', '0', hexDigit (c.toNat / 16), hexDigit c.toNat]
    else [c]

def quoted (text : String) : List Char := '"' :: (text.toList.flatMap escaped ++ ['"'])

/-- A number; what is not finite has no form of its own and is written as `null`. -/
def Number.chars : Number → List Char
  | .integer value => (Decimal.ofInt value.toInt).toList
  | .large value _ => (Decimal.ofNat value.toNat).toList
  | .real value => ((Decimal.scientific value).getD "null").toList

mutual

/-- The characters of a document, without blanks. -/
def Document.chars : Document → List Char
  | .null => "null".toList
  | .bool true => "true".toList
  | .bool false => "false".toList
  | .number value => value.chars
  | .string value => quoted value
  | .array items => '[' :: (itemChars items ++ [']'])
  | .object members => '\x7b' :: (memberChars members ++ ['\x7d'])

def itemChars : List Document → List Char
  | [] => []
  | [item] => item.chars
  | item :: rest => item.chars ++ ',' :: itemChars rest

def memberChars : List (String × Document) → List Char
  | [] => []
  | [(key, value)] => quoted key ++ ':' :: value.chars
  | (key, value) :: rest => quoted key ++ ':' :: (value.chars ++ ',' :: memberChars rest)

end

def Document.text (document : Document) : String := String.ofList document.chars

end AccessControl.Json

/-
**Literals of expressions: what their texts stand for.**

* `Atom` — a constant of the language.
* `Literal.string`, `Literal.rawString`, `Literal.bytes`, `Literal.integer` — the constant that a
  literal stands for, or nothing: an integer beyond 64 bits, an escape that does not exist or is not
  complete.
-/

import AccessControl.Decimal.Numeral
import AccessControl.Json.Source
import AccessControl.Text.Bytes

namespace AccessControl.Expression

/-- A constant. -/
inductive Atom where
  | null
  | bool (value : Bool)
  | int (value : Int64)
  | double (value : Float)
  | string (value : String)
  | bytes (value : List UInt8)
  deriving Repr

namespace Literal

/-- An integer, when it fits 64 bits. -/
def integer (text : List Char) : Option Atom :=
  (Decimal.readInt Word.leastInt64 Word.greatestInt64 text).map fun n => .int (Int64.ofInt n)

/-- The character with a code, if there is one. -/
def charOfCode (code : Nat) : Option Char :=
  if code < 0xD800 ∨ (0xDFFF < code ∧ code < 0x110000) then some (Char.ofNat code) else none

/-- The code that digits of base eight stand for, the first one at most three. -/
def octal? (a b c : Char) : Option Nat :=
  if '0' ≤ a ∧ a ≤ '3' ∧ '0' ≤ b ∧ b ≤ '7' ∧ '0' ≤ c ∧ c ≤ '7' then
    some ((a.toNat - 48) * 64 + (b.toNat - 48) * 8 + (c.toNat - 48))
  else none

/-- A backslash and a letter that stand for one character, whatever the quotes. -/
def plainEscape? (c : Char) : Option Char :=
  match c with
  | 'a' => some '\x07'
  | 'b' => some '\x08'
  | 'v' => some '\x0b'
  | 'f' => some '\x0c'
  | 'n' => some '\n'
  | 'r' => some '\r'
  | 't' => some '\t'
  | '\\' => some '\\'
  | '?' => some '?'
  | '\x60' => some '\x60'
  | _ => none

/-- The code that digits of base sixteen stand for; a plus sign may take the first place. -/
def hexCode? : List Char → Option Nat
  | '+' :: digit :: digits => Json.hexValue (digit :: digits)
  | digits => Json.hexValue digits

/-- A code written in digits of base sixteen, put in front of what follows. -/
def coded (digits : List Char) (rest : Option (List Char)) : Option (List Char) :=
  match (hexCode? digits).bind charOfCode, rest with
  | some c, some text => some (c :: text)
  | _, _ => none

/-- The characters of a string between quotes `quote`. An escaped quote of the other kind keeps its
backslash. -/
def stringChars (quote : Char) : List Char → Option (List Char)
  | [] => some []
  | '\\' :: 'x' :: a :: b :: rest => coded [a, b] (stringChars quote rest)
  | '\\' :: 'u' :: a :: b :: c :: d :: rest => coded [a, b, c, d] (stringChars quote rest)
  | '\\' :: 'U' :: a :: b :: c :: d :: e :: f :: g :: h :: rest =>
    coded [a, b, c, d, e, f, g, h] (stringChars quote rest)
  | '\\' :: c :: rest =>
    if c = '\'' ∨ c = '"' then
      (stringChars quote rest).map fun text => if c = quote then c :: text else '\\' :: c :: text
    else
      match plainEscape? c with
      | some plain => (stringChars quote rest).map (plain :: ·)
      | none =>
        match rest with
        | second :: third :: rest =>
          match octal? c second third, stringChars quote rest with
          | some code, some text => some (Char.ofNat code :: text)
          | _, _ => none
        | _ => none
  | c :: rest => if c = '\\' then none else (stringChars quote rest).map (c :: ·)

def string (quote : Char) (body : List Char) : Option Atom :=
  (stringChars quote body).map fun text => .string (String.ofList text)

/-- The characters of a raw string: a backslash is one of them, unless its own quote follows. -/
def rawChars (quote : Char) : List Char → List Char
  | [] => []
  | '\\' :: c :: rest =>
    if c = quote then c :: rawChars quote rest else '\\' :: c :: rawChars quote rest
  | c :: rest => c :: rawChars quote rest

def rawString (quote : Char) (body : List Char) : Atom :=
  .string (String.ofList (rawChars quote body))

def byteValues : List Char → Option (List UInt8)
  | [] => some []
  | '\\' :: 'x' :: a :: b :: rest =>
    match hexCode? [a, b], byteValues rest with
    | some code, some bytes => some (UInt8.ofNat code :: bytes)
    | _, _ => none
  | '\\' :: a :: b :: c :: rest =>
    match octal? a b c, byteValues rest with
    | some code, some bytes => some (UInt8.ofNat code :: bytes)
    | _, _ => none
  | c :: rest => if c = '\\' then none else (byteValues rest).map (Text.utf8 [c] ++ ·)

def bytes (body : List Char) : Option Atom := (byteValues body).map .bytes

end Literal

end AccessControl.Expression

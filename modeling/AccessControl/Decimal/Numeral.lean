/-
**Reading numerals.**

* `readInt` — an optional sign and decimal digits, within given limits.
* `readFloat` — an optional sign, digits with an optional point and exponent, or a name of infinity
  or of "not a number"; the double nearest to what is written.
-/

import AccessControl.Decimal.Double

namespace AccessControl.Decimal

def isDigit (c : Char) : Bool := '0' ≤ c && c ≤ '9'

def digitValue (c : Char) : Nat := c.toNat - '0'.toNat

/-- The number that a string of digits stands for, most significant first. -/
def digitsValue (digits : List Char) : Nat :=
  digits.foldl (fun value digit => value * 10 + digitValue digit) 0

/-- The number written with digits only, at least one. -/
def readNat (text : List Char) : Option Nat :=
  if text.isEmpty || !text.all isDigit then none else some (digitsValue text)

/-- A sign in front, if there is one, and the rest. -/
def splitSign : List Char → Bool × List Char
  | '-' :: rest => (true, rest)
  | '+' :: rest => (false, rest)
  | text => (false, text)

/-- The integer that an optional sign and digits stand for. -/
def readAnyInt (text : List Char) : Option Int :=
  match splitSign text with
  | (negative, digits) => (readNat digits).map fun n => if negative then -(n : Int) else n

def readInt (low high : Int) (text : List Char) : Option Int :=
  match readAnyInt text with
  | some n => if low ≤ n ∧ n ≤ high then some n else none
  | none => none

/-- A natural number up to a limit, from digits with an optional plus sign. -/
def readNatUpTo (high : Nat) (text : List Char) : Option Nat :=
  let digits := match text with
    | '+' :: rest => rest
    | _ => text
  match readNat digits with
  | some n => if n ≤ high then some n else none
  | none => none

/-- A decimal numeral without its sign: the value is `digits · 10 ^ exponent`. -/
structure Numeral where
  digits : Nat
  exponent : Int
  deriving Repr, DecidableEq

/-- The double nearest to a numeral. Beyond `10 ^ 400` all are infinite and below `10 ^ -400` zero,
so no larger power is formed. -/
def Numeral.toFloat (numeral : Numeral) : Float :=
  let place := ((Nat.toDigits 10 numeral.digits).length : Int) + numeral.exponent
  if numeral.digits = 0 ∨ place < -400 then 0
  else if 400 < place then 1 / 0
  else
    let (n, d) := scaled 10 numeral.digits 1 numeral.exponent
    nearest n d

/-- What follows the digits of a numeral: nothing, or an exponent mark and an integer. -/
def readExponent : List Char → Option Int
  | [] => some 0
  | mark :: rest => if mark = 'e' ∨ mark = 'E' then readAnyInt rest else none

/-- Digits with an optional point among or around them, at least one digit, and an optional
exponent. -/
def readNumeral (text : List Char) : Option Numeral :=
  let whole := text.takeWhile isDigit
  let (fraction, rest) := match text.dropWhile isDigit with
    | '.' :: rest => (rest.takeWhile isDigit, rest.dropWhile isDigit)
    | rest => ([], rest)
  if whole.isEmpty && fraction.isEmpty then none
  else
    match readExponent rest with
    | some exponent => some ⟨digitsValue (whole ++ fraction), exponent - fraction.length⟩
    | none => none

/-- A double from text: an optional sign, then a numeral, or `inf`, `infinity` or `nan` in any
case. -/
def readFloat (text : List Char) : Option Float :=
  match splitSign text with
  | (negative, unsigned) =>
    let lower := String.ofList (unsigned.map Char.toLower)
    if lower = "inf" ∨ lower = "infinity" then some (signed negative (1 / 0))
    else if lower = "nan" then some (0 / 0)
    else (readNumeral unsigned).map fun numeral => signed negative numeral.toFloat

end AccessControl.Decimal

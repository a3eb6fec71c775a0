/-
**Spans of time as text.**

* `Span.ofText?` — a sign perhaps, then numbers with units, as many as there are; what follows them
  is ignored.
* `Span.text?` — hours, minutes and seconds (`1h30m0s`, `1.5s`), or one smaller unit (`100ns`). The
  size of a span is a word of 64 bits, which for a span below zero is its distance from the last
  word and not from zero.
-/

import AccessControl.Decimal.Numeral
import AccessControl.Decimal.Text
import AccessControl.Time.Instant

namespace AccessControl.Time

open AccessControl.Decimal (isDigit)

/-! ### Reading -/

/-- A unit in front, in nanoseconds, and what follows it. -/
def readUnit : List Char → Option (Nat × List Char)
  | 'm' :: 's' :: rest => some (1000000, rest)
  | 'u' :: 's' :: rest => some (1000, rest)
  | 'n' :: 's' :: rest => some (1, rest)
  | 'h' :: rest => some (3600000000000, rest)
  | 'm' :: rest => some (60000000000, rest)
  | 's' :: rest => some (1000000000, rest)
  | _ => none

/-- What reading a number in front can come to. -/
inductive NumberRead where
  | read (value : Float) (rest : List Char)
  | absent
  | malformed

/-- How many characters in front are a name of infinity or of "not a number"; zero when none are. -/
def namedLength (text : List Char) : Nat :=
  let lower := (text.take 3).map Char.toLower
  if lower = ['n', 'a', 'n'] ∨ lower = ['i', 'n', 'f'] then 3 else 0

/-- A number in front: a sign perhaps, digits with a point among or around them, and an exponent
perhaps. An exponent mark without digits is no number at all. -/
def readAmount (text : List Char) : NumberRead :=
  let unsigned := (Decimal.splitSign text).2
  let sign := text.length - unsigned.length
  let whole := (unsigned.takeWhile isDigit).length
  let afterWhole := unsigned.drop whole
  let fraction := match afterWhole with
    | '.' :: rest => 1 + (rest.takeWhile isDigit).length
    | _ => 0
  if whole = 0 ∧ fraction ≤ 1 then
    let named := namedLength text
    if named = 0 then .absent
    else
      match Decimal.readFloat (text.take named) with
      | some value => .read value (text.drop named)
      | none => .absent
  else
    let afterFraction := afterWhole.drop fraction
    let exponent : Option Nat := match afterFraction with
      | mark :: rest =>
        if mark = 'e' ∨ mark = 'E' then
          let digits := (Decimal.splitSign rest).2
          let count := (digits.takeWhile isDigit).length
          if count = 0 then none else some (1 + (rest.length - digits.length) + count)
        else some 0
      | [] => some 0
    match exponent with
    | none => .malformed
    | some exponent =>
      let length := sign + whole + fraction + exponent
      match Decimal.readFloat (text.take length) with
      | some value => .read value (text.drop length)
      | none => .absent

/-- A number with its unit as nanoseconds, cut toward zero. -/
def nanosOf (value : Float) (unit : Nat) : Int := (value * Float.ofNat unit).toInt64.toInt

def readParts : Nat → Bool → List Char → Option Int
  | 0, _, _ => none
  | fuel + 1, some_, text =>
    match readAmount text with
    | .malformed => none
    | .absent => if some_ then some 0 else none
    | .read value rest =>
      match readUnit rest with
      | none => if some_ then some 0 else none
      | some (unit, rest) => (readParts fuel true rest).map (nanosOf value unit + ·)

def Span.ofText? (text : String) : Option Span :=
  let (negative, rest) := match text.toList with
    | '-' :: rest => (true, rest)
    | rest => (false, rest)
  let size := if rest = ['0'] then some 0 else readParts (rest.length + 1) false rest
  size.map fun n => if negative then -n else n

/-! ### Writing -/

def decimals (n places : Nat) : String :=
  let digits := Nat.toDigits 10 (n % Nat.pow 10 places)
  let all := List.replicate (places - digits.length) '0' ++ digits
  let fraction := (all.reverse.dropWhile (· = '0')).reverse
  Decimal.ofNat (n / Nat.pow 10 places) ++
    if fraction.isEmpty then "" else "." ++ String.ofList fraction

def sizeText (n : Nat) : String :=
  if n = 0 then "0s"
  else if n < 1000 then decimals n 0 ++ "ns"
  else if n < 1000000 then decimals n 3 ++ "\u00b5s"
  else if n < 1000000000 then decimals n 6 ++ "ms"
  else
    let minutes := n / 60000000000
    let seconds := decimals (n % 60000000000) 9 ++ "s"
    if minutes = 0 then seconds
    else if minutes < 60 then Decimal.ofNat minutes ++ "m" ++ seconds
    else Decimal.ofNat (minutes / 60) ++ "h" ++ Decimal.ofNat (minutes % 60) ++ "m" ++ seconds

/-- The number of nanoseconds that a span is written with: its own as a word without a sign, or,
when they do not fit one with a sign, those of its whole seconds; nothing when these do not fit. -/
def Span.size? (span : Span) : Option Nat :=
  match Word.int64? span with
  | some _ => some (Word.unsigned span)
  | none =>
    let size := Word.unsigned (Int.tdiv span nanosPerSecond) * nanosPerSecond
    if size ≤ Word.greatestUInt64 then some size else none

/-- The text of a span, behind a minus sign when it is below zero. -/
def Span.text? (span : Span) : Option String :=
  span.size?.map fun size => (if span < 0 then "-" else "") ++ sizeText size

end AccessControl.Time

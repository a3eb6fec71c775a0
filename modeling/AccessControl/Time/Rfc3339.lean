/-
**Instants as text, after RFC 3339.**

* `Instant.ofText?` — the exact form `2023-05-29T02:00:00.5+02:00`.
* `Instant.ofLooseText?` — the same with blanks between the parts, short fields, signed years and
  `UTC`.
* `Instant.text`, `Instant.universalText` — the form with the offset, and the one that ends in `Z`;
  the fraction has 0, 3, 6 or 9 digits, the fewest that lose nothing.
-/

import AccessControl.Decimal.Numeral
import AccessControl.Decimal.Text
import AccessControl.Text.Blank
import AccessControl.Time.Instant

namespace AccessControl.Time

open AccessControl.Decimal (isDigit digitsValue)
open AccessControl.Text (dropBlank isBlank)

/-! ### Reading -/

def readDigits (least most : Nat) (text : List Char) : Option (Nat × List Char) :=
  let digits := (text.takeWhile isDigit).take most
  if digits.length < least then none else some (digitsValue digits, text.drop digits.length)

def readChar (c : Char) : List Char → Option (List Char)
  | [] => none
  | first :: rest => if first = c then some rest else none

/-- What follows the mark between a date and a time of day. -/
def readMark : List Char → Option (List Char)
  | 'T' :: rest => some rest
  | 't' :: rest => some rest
  | ' ' :: rest => some rest
  | _ => none

/-- The nanoseconds of a fraction, if there is a point, and what follows. Digits after the ninth do
not count. -/
def readFraction : List Char → Option (Nat × List Char)
  | '.' :: rest =>
    match readDigits 1 9 rest with
    | none => none
    | some (value, after) =>
      let count := rest.length - after.length
      some (value * Nat.pow 10 (9 - count), after.dropWhile isDigit)
  | text => some (0, text)

/-- The offset in seconds, and what follows it; `separator` takes what stands between its hours and
minutes. -/
def readOffset (separator : List Char → Option (List Char)) : List Char → Option (Int × List Char)
  | [] => none
  | first :: rest =>
    if first = 'Z' ∨ first = 'z' then some (0, rest)
    else if first = '+' ∨ first = '-' ∨ first = '\u2212' then
      match readDigits 2 2 rest with
      | none => none
      | some (hours, rest) =>
        match (separator rest).bind (readDigits 2 2) with
        | none => none
        | some (minutes, rest) =>
          let seconds : Int := hours * 3600 + minutes * 60
          if 59 < minutes then none else some (if first = '+' then seconds else -seconds, rest)
    else none

/-- A date, a time of day, and an offset as they are read. -/
structure Fields where
  date : Date
  hour : Nat
  minute : Nat
  second : Nat
  nanos : Nat
  offset : Int

/-- The point in time of some fields, all of which must be within their limits, the date also at the
offset. A sixtieth second is a leap second. -/
def Fields.instant? (fields : Fields) : Option Instant :=
  if fields.date.exists ∧ fields.hour < 24 ∧ fields.minute < 60 ∧ fields.second ≤ 60 ∧
      fields.offset.natAbs < 86400 then
    let second := min fields.second 59
    let local_ := fields.date.dayNumber * 86400 + fields.hour * 3600 + fields.minute * 60 + second
    let instant : Instant :=
      { seconds := local_ - fields.offset
        nanos := fields.nanos + (fields.second - second) * nanosPerSecond
        offset := fields.offset }
    if instant.inRange ∧ { instant with seconds := local_ }.inRange then some instant else none
  else none

/-- The point in time that some characters are, exactly. -/
def Instant.ofChars? (text : List Char) : Option Instant := do
  let (year, text) ← readDigits 4 4 text
  let (month, text) ← (readChar '-' text).bind (readDigits 2 2)
  let (day, text) ← (readChar '-' text).bind (readDigits 2 2)
  let (hour, text) ← (readMark text).bind (readDigits 2 2)
  let (minute, text) ← (readChar ':' text).bind (readDigits 2 2)
  let (second, text) ← (readChar ':' text).bind (readDigits 2 2)
  let (nanos, text) ← readFraction text
  let (offset, text) ← readOffset (readChar ':') text
  if text.isEmpty ∧ offset.natAbs < 86400 then
    Fields.instant? ⟨⟨year, month, day⟩, hour, minute, second, nanos, offset⟩
  else none

/-- The point in time that a text is, exactly. -/
def Instant.ofText? (text : String) : Option Instant := Instant.ofChars? text.toList

/-- A year in front: four digits, or a sign and any number of them. -/
def readYear (text : List Char) : Option (Int × List Char) :=
  match dropBlank text with
  | '-' :: rest => (readDigits 1 rest.length rest).map fun found => (-(found.1 : Int), found.2)
  | '+' :: rest => (readDigits 1 rest.length rest).map fun found => ((found.1 : Int), found.2)
  | rest => (readDigits 1 4 rest).map fun found => ((found.1 : Int), found.2)

/-- A field of one or two digits, blanks in front of it skipped. -/
def readShort (text : List Char) : Option (Nat × List Char) := readDigits 1 2 (dropBlank text)

def dropColons (text : List Char) : Option (List Char) :=
  some (text.dropWhile fun c => c = ':' || isBlank c)

/-- The point in time that some characters are, loosely. -/
def Instant.ofLooseChars? (text : List Char) : Option Instant := do
  let (year, text) ← readYear text
  let (month, text) ← (readChar '-' (dropBlank text)).bind readShort
  let (day, text) ← (readChar '-' (dropBlank text)).bind readShort
  let (hour, text) ← (readMark text).bind readShort
  let (minute, text) ← (readChar ':' (dropBlank text)).bind readShort
  let (second, text) ← (readChar ':' (dropBlank text)).bind readShort
  let (nanos, text) ← readFraction text
  let text := dropBlank text
  let (offset, text) ←
    if (text.take 3).map Char.toUpper = ['U', 'T', 'C'] then some (0, text.drop 3)
    else readOffset dropColons text
  if (dropBlank text).isEmpty then
    Fields.instant? ⟨⟨year, month, day⟩, hour, minute, second, nanos, offset⟩
  else none

def Instant.ofLooseText? (text : String) : Option Instant := Instant.ofLooseChars? text.toList

/-! ### Writing -/

/-- A number with zeros in front up to a width. -/
def padded (width n : Nat) : String :=
  let digits := Decimal.ofNat n
  Decimal.zeros (width - digits.length) ++ digits

/-- A year: four digits, with a sign when that is not enough. -/
def yearText (year : Int) : String :=
  if 0 ≤ year ∧ year ≤ 9999 then padded 4 year.toNat
  else (if year < 0 then "-" else "+") ++ padded 4 year.natAbs

/-- A fraction of a second: nothing, or a point and 3, 6 or 9 digits. -/
def fractionText (nanos : Nat) : String :=
  if nanos = 0 then ""
  else if nanos % 1000000 = 0 then "." ++ padded 3 (nanos / 1000000)
  else if nanos % 1000 = 0 then "." ++ padded 6 (nanos / 1000)
  else "." ++ padded 9 nanos

def Instant.localText (instant : Instant) (offset : Int) : String :=
  let total := instant.seconds + offset
  let date := dateOfDay (Int.fdiv total 86400)
  let daySeconds := (Int.fmod total 86400).toNat
  let leap := instant.nanos / nanosPerSecond
  yearText date.year ++ "-" ++ padded 2 date.month ++ "-" ++ padded 2 date.day ++ "T" ++
    padded 2 (daySeconds / 3600) ++ ":" ++ padded 2 (daySeconds / 60 % 60) ++ ":" ++
    padded 2 (daySeconds % 60 + leap) ++ fractionText (instant.nanos % nanosPerSecond)

/-- The text with the offset at which the point in time is shown. -/
def Instant.text (instant : Instant) : String :=
  let minutes := instant.offset.natAbs / 60
  instant.localText instant.offset ++ (if instant.offset < 0 then "-" else "+") ++
    padded 2 (minutes / 60) ++ ":" ++ padded 2 (minutes % 60)

def Instant.universalText (instant : Instant) : String := instant.localText 0 ++ "Z"

end AccessControl.Time

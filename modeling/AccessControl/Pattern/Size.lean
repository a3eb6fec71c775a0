/-
**How large a pattern is.**

* `Pattern.size` — the bytes that a machine for a pattern takes: so many for each of its states, and
  some for each way out of a state. A character takes a state for every byte of its UTF-8, a
  repetition takes its body over and over.
* `Pattern.isTooLarge` — whether that is more than a machine may take, ten mebibytes.
-/

import AccessControl.Pattern.Basic

namespace AccessControl.Pattern

open AccessControl.Text (CharSet Ranges)

/-! ### Sets of characters -/

/-- The number of bytes of a code point in UTF-8. -/
def utf8Length (code : Nat) : Nat :=
  if code ≤ 0x7F then 1 else if code ≤ 0x7FF then 2 else if code ≤ 0xFFFF then 3 else 4

/-- The end of the first part of a range, where the UTF-8 of the range is not every combination of
bytes from one range each: where the number of bytes changes, or where a byte changes while those
after it do not run through all values. -/
def cut? (first last : Nat) : Option Nat :=
  match [0x7F, 0x7FF, 0xFFFF].find? fun greatest => first ≤ greatest && greatest < last with
  | some greatest => some greatest
  | none =>
    if last ≤ 0x7F then none
    else
      [0x40, 0x1000, 0x40000].findSome? fun unit =>
        if first / unit = last / unit then none
        else if first % unit ≠ 0 then some (first / unit * unit + unit - 1)
        else if last % unit ≠ unit - 1 then some (last / unit * unit - 1)
        else none

/-- A range as ranges whose UTF-8 is every combination of bytes from one range each. -/
def pieces : Nat → Nat → Nat → Ranges
  | 0, first, last => [(first, last)]
  | fuel + 1, first, last =>
    match cut? first last with
    | some middle => pieces fuel first middle ++ pieces fuel (middle + 1) last
    | none => [(first, last)]

/-- How many bytes in front have the same range in two pieces. -/
def sharedBytes (one other : Nat × Nat) : Nat :=
  let length := utf8Length one.1
  if length = utf8Length other.1 then
    ((List.range length).filter fun bytesAfter =>
      let unit := Nat.pow 64 bytesAfter
      one.1 / unit = other.1 / unit && one.2 / unit = other.2 / unit).length
  else 0

/-- The states for some pieces: one for each byte that does not share its range, and those before
it, with the piece before. -/
def stateCount : Option (Nat × Nat) → Ranges → Nat
  | _, [] => 0
  | before, piece :: rest =>
    let shared := match before with
      | some other => sharedBytes piece other
      | none => 0
    utf8Length piece.1 - shared + stateCount (some piece) rest

/-- The code points that are no characters by themselves. -/
def surrogates : CharSet := ⟨[(0xD800, 0xDFFF)]⟩

def setSize (set : CharSet) : Nat :=
  match (set.difference surrogates).ranges with
  | [] => 32
  | ranges =>
    if set.isAscii then
      match ranges with
      | [(first, last)] => if first = last then 32 else 72
      | _ => 64 + 8 * ranges.length
    else
      match ranges.flatMap fun range => pieces 16 range.1 range.2 with
      | [(first, last)] =>
        if first = last then 32 * utf8Length first
        else 68 + 32 * utf8Length first
      | all => 64 + 4 * all.length + 32 * stateCount none all

/-! ### Patterns -/

/-- Whether a pattern takes no character, wherever it matches. -/
def takesNothing : Pattern → Bool
  | .nothing => true
  | .one _ => false
  | .place _ => true
  | .group body => body.takesNothing
  | .sequence first second => first.takesNothing && second.takesNothing
  | .choice first second => first.takesNothing && second.takesNothing
  | .repetition body _ most => body.takesNothing || most = some 0

def repetitionSize (size : Nat) : Nat → Option Nat → Nat
  | _, some 0 => 32
  | 0, some 1 => size + 72
  | 0, none => size + 40
  | least, none => least * size + 40
  | least, some most =>
    if least = most then least * size
    else max 32 (least * size) + 32 + (most - least) * (size + 40)

/-- The size of a pattern. What takes no character is repeated once at most. -/
def size : Pattern → Nat
  | .nothing => 32
  | .one set => setSize set
  | .place _ => 32
  | .group body => body.size + 64
  | .sequence first second => first.size + second.size
  | .choice first second =>
    first.size + second.size + match second with
      | .choice _ _ => 4
      | _ => 72
  | .repetition body least most =>
    if body.takesNothing then repetitionSize body.size (min least 1) (some (min (most.getD 1) 1))
    else repetitionSize body.size least most

/-- Whether a machine for a pattern, which also skips what is before a match, takes more than ten
mebibytes. -/
def isTooLarge (pattern : Pattern) : Bool := 0xA00000 < pattern.size + 208

end AccessControl.Pattern

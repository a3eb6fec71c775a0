/-
**Patterns, and where they are found in a text.**

* `Pattern` — characters of a set, places, groups, sequences, choices and repetitions.
* `Pattern.reach` — from a set of places of the text, the places where a match that begins at one of
  them may end. A set of places is a natural number whose bit `i` says whether place `i` belongs to
  it, so that a step over one character is a shift, and the whole takes no backtracking.
* `Pattern.occursIn` — whether some part of a text matches.
-/

import AccessControl.Text.WordChar

namespace AccessControl

namespace Pattern

open AccessControl.Text (CharSet asciiWordChars wordChars)

inductive Place where
  | textStart
  | textEnd
  | lineStart (crlf : Bool)
  | lineEnd (crlf : Bool)
  | wordBoundary (ascii : Bool)
  | notWordBoundary (ascii : Bool)
  | wordStart (ascii : Bool)
  | wordEnd (ascii : Bool)
  | wordStartHalf (ascii : Bool)
  | wordEndHalf (ascii : Bool)
  deriving Repr, DecidableEq

namespace Place

/-- Whether a character, if there is one, belongs to a word. -/
def inWord (ascii : Bool) : Option Char → Bool
  | some c => (if ascii then asciiWordChars else wordChars).contains c
  | none => false

/-- Whether a place is between two characters, none at an end of the text. -/
def holds : Place → Option Char → Option Char → Bool
  | .textStart, before, _ => before.isNone
  | .textEnd, _, after => after.isNone
  | .lineStart false, before, _ => before.isNone || before = some '\n'
  | .lineStart true, before, after =>
    before.isNone || before = some '\n' || (before = some '\r' && !(after = some '\n'))
  | .lineEnd false, _, after => after.isNone || after = some '\n'
  | .lineEnd true, before, after =>
    after.isNone || after = some '\r' || (after = some '\n' && !(before = some '\r'))
  | .wordBoundary ascii, before, after => inWord ascii before != inWord ascii after
  | .notWordBoundary ascii, before, after => inWord ascii before == inWord ascii after
  | .wordStart ascii, before, after => !inWord ascii before && inWord ascii after
  | .wordEnd ascii, before, after => inWord ascii before && !inWord ascii after
  | .wordStartHalf ascii, before, _ => !inWord ascii before
  | .wordEndHalf ascii, _, after => !inWord ascii after

end Place

end Pattern

open Pattern Text in
/-- A pattern. A repetition without an upper limit goes on as often as it can. -/
inductive Pattern where
  | nothing
  | one (set : CharSet)
  | place (kind : Place)
  | group (body : Pattern)
  | sequence (first second : Pattern)
  | choice (first second : Pattern)
  | repetition (body : Pattern) (least : Nat) (most : Option Nat)
  deriving Repr, DecidableEq

namespace Pattern

/-- The places before the characters that satisfy a condition, as bits. -/
def placesBefore (condition : Char → Bool) : List Char → Nat
  | [] => 0
  | c :: rest => 2 * placesBefore condition rest + if condition c then 1 else 0

/-- The places of a text that are of a kind, given the character before the text. -/
def placesOf (kind : Place) : Option Char → List Char → Nat
  | before, [] => if kind.holds before none then 1 else 0
  | before, c :: rest =>
    2 * placesOf kind (some c) rest + if kind.holds before (some c) then 1 else 0

def allPlaces : List Char → Nat
  | [] => 1
  | _ :: rest => 2 * allPlaces rest + 1

/-- Apply a function so many times, as long as something is left. -/
def repeated (step : Nat → Nat) : Nat → Nat → Nat
  | 0, places => places
  | times + 1, places => if places = 0 then 0 else repeated step times (step places)

/-- The places reached in at most so many steps, until no new one is reached. -/
def closure (step : Nat → Nat) : Nat → Nat → Nat
  | 0, places => places
  | times + 1, places =>
    let more := places ||| step places
    if more = places then places else closure step times more

/-- Where a match may end that begins at one of some places of a text. A repetition without limit
adds a place of the text in each step but the last. -/
def reach (text : List Char) : Pattern → Nat → Nat
  | .nothing, places => places
  | .one set, places => (places &&& placesBefore set.contains text) <<< 1
  | .place kind, places => places &&& placesOf kind none text
  | .group body, places => body.reach text places
  | .sequence first second, places => second.reach text (first.reach text places)
  | .choice first second, places => first.reach text places ||| second.reach text places
  | .repetition body least most, places =>
    let times := match most with
      | some limit => limit - least
      | none => text.length + 1
    closure (body.reach text) times (repeated (body.reach text) least places)

def occursIn (pattern : Pattern) (text : List Char) : Bool :=
  !(pattern.reach text (allPlaces text) = 0)

end Pattern

end AccessControl

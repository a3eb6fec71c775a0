/-
**Reading the text of a pattern.**

* `Pattern.Reader` — a reader of characters that keeps the switches in force and the names of
  groups.
* `Leveled` — what is read, with the number of levels that its parts are inside one another.
* `Reader.advance`, `Reader.takeAll` — steps over characters; where the switches say so, blanks and
  comments are skipped.
-/

import AccessControl.Effect
import AccessControl.Text.Blank

namespace AccessControl.Pattern

/-- The switches of a pattern. -/
structure Switches where
  ignoreCase : Bool := false
  everyLine : Bool := false
  dotAll : Bool := false
  swapGreed : Bool := false
  allScripts : Bool := true
  crlf : Bool := false
  spaced : Bool := false
  deriving Repr, DecidableEq

def Switches.turn? (switches : Switches) (letter : Char) (on : Bool) : Option Switches :=
  match letter with
  | 'i' => some { switches with ignoreCase := on }
  | 'm' => some { switches with everyLine := on }
  | 's' => some { switches with dotAll := on }
  | 'U' => some { switches with swapGreed := on }
  | 'u' => some { switches with allScripts := on }
  | 'R' => some { switches with crlf := on }
  | 'x' => some { switches with spaced := on }
  | _ => none

/-- What is read, and how many levels its parts are inside one another. -/
structure Leveled (α : Type) where
  content : α
  levels : Nat := 0

/-- The levels of what has some parts: one more than its deepest part has, but a single part adds
none. -/
def levelsOf : List Nat → Nat
  | [] => 0
  | [levels] => levels
  | all => all.foldl max 0 + 1

/-- What is left of a pattern's text, the switches in force, and the names of the groups so far. -/
structure Progress where
  rest : List Char
  switches : Switches
  names : List String

abbrev Reader (α : Type) : Type := Effect Unit Progress α

namespace Reader

def refuse {α : Type} : Reader α := Effect.fail ()

/-- What is there, or else refuse the text. -/
def orRefuse {α : Type} (found : Option α) : Reader α := Effect.require found ()

def rest : Reader (List Char) := Effect.reading Progress.rest

/-- The next character, left where it is. -/
def peek : Reader (Option Char) := Effect.reading fun progress => progress.rest.head?

def bump (count : Nat) : Reader Unit :=
  Effect.modify fun progress => { progress with rest := progress.rest.drop count }

def switches : Reader Switches := Effect.reading Progress.switches

def setSwitches (value : Switches) : Reader Unit :=
  Effect.modify fun progress => { progress with switches := value }

/-- Characters without the blanks and comments in front; a comment goes to the end of its line. -/
def dropFiller : Bool → List Char → List Char
  | _, [] => []
  | true, c :: rest => dropFiller (c ≠ '\n') rest
  | false, c :: rest =>
    if Text.isBlank c then dropFiller false rest
    else if c = '#' then dropFiller true rest
    else c :: rest

/-- Skip blanks and comments where the switches say that they do not count. -/
def skipFiller : Reader Unit :=
  Effect.modify fun progress =>
    if progress.switches.spaced then { progress with rest := dropFiller false progress.rest }
    else progress

/-- Take one character off, and the filler after it. -/
def advance : Reader Unit := do
  bump 1
  skipFiller

/-- Take a text off if it stands in front. -/
def accept (text : String) : Reader Bool := do
  if text.toList.isPrefixOf (← rest) then
    bump text.length
    pure true
  else pure false

/-- Take off the characters in front that satisfy a condition, and the filler after each. -/
def takeWhile (condition : Char → Bool) : Nat → Reader (List Char)
  | 0 => pure []
  | fuel + 1 => do
    match ← peek with
    | some c =>
      if condition c then
        advance
        pure (c :: (← takeWhile condition fuel))
      else pure []
    | none => pure []

/-- All that can be taken off with `takeWhile`. -/
def takeAll (condition : Char → Bool) : Reader (List Char) := do
  takeWhile condition (← rest).length

end Reader

end AccessControl.Pattern

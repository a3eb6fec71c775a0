/-
**The grammar of patterns.**

* `Part` — a part of a sequence: a character, a set, a place, a group or a repetition.
* `Reader.alternatives` — sequences of parts with `|` between them.
* `Pattern.ofText?` — the pattern that a whole text is, unless its parts are too many levels inside
  one another, or it is too large. Looking around and references back to a group are no part of it.
-/

import AccessControl.Pattern.Bracket
import AccessControl.Pattern.Size
import AccessControl.Text.WordChar

namespace AccessControl.Pattern

open AccessControl.Text (CharSet)

/-- A part of a sequence, and whether it can be repeated. -/
structure Part where
  pattern : Pattern
  levels : Nat := 0
  repeatable : Bool := true

/-- One pattern after another; what takes no character and asks for nothing is left out. -/
def followedBy (first second : Pattern) : Pattern :=
  match first, second with
  | .nothing, _ => second
  | _, .nothing => first
  | _, _ => .sequence first second

/-- The sequence of some parts, the last one first. -/
def sequenceOf (parts : List Part) : Part :=
  { pattern := parts.foldl (fun after part => followedBy part.pattern after) .nothing
    levels := levelsOf (parts.map Part.levels) }

/-- The set of the characters that a pattern takes, if it takes a single one. -/
def single? : Pattern → Option CharSet
  | .one set => some set
  | _ => none

/-- The choice between some patterns, as one set where each of them is one. -/
def choiceOf (branches : List Pattern) : Pattern :=
  match branches.mapM single? with
  | some sets => .one (.unionAll sets)
  | none =>
    match branches.reverse with
    | [] => .nothing
    | last :: others => others.foldl (fun after branch => .choice branch after) last

namespace Reader

/-! ### Repetitions -/

/-- A number of at most 32 bits with blanks around it. -/
def decimal : Reader Nat := do
  let _ ← takeAll Text.isBlank
  let digits ← takeAll Decimal.isDigit
  let _ ← takeAll Text.isBlank
  match Decimal.readNatUpTo Word.greatestUInt32 digits with
  | some n => pure n
  | none => refuse

/-- The limits of a repetition, in braces. -/
def limits : Reader (Nat × Option Nat) := do
  advance
  let least ← decimal
  let most ←
    if (← peek) = some ',' then
      advance
      if (← peek) = some '\x7d' then pure none else pure (some (← decimal))
    else pure (some least)
  if (← peek) = some '\x7d' ∧ least ≤ most.getD least then
    advance
    pure (least, most)
  else refuse

/-- The last part of a sequence repeated; which of two lengths is tried first does not matter
here. -/
def repetition (parts : List Part) (least : Nat) (most : Option Nat) : Reader (List Part) := do
  match parts with
  | last :: others =>
    if (← peek) = some '?' then bump 1
    if last.repeatable then
      pure ({ pattern := .repetition last.pattern least most, levels := last.levels + 1 } :: others)
    else refuse
  | [] => refuse

/-! ### Groups and alternatives -/

/-- The letters between a question mark and the end of a group's switches, applied. -/
def turnSwitches : Nat → List Char → Bool → Switches → Reader Switches
  | 0, _, _, _ => refuse
  | fuel + 1, used, on, switches => do
    match ← peek with
    | none => refuse
    | some c =>
      if c = ':' ∨ c = ')' then
        if used.head? = some '-' ∨ (c = ')' ∧ used = []) then refuse else pure switches
      else if used.contains c then refuse
      else
        bump 1
        if c = '-' then turnSwitches fuel (c :: used) false switches
        else
          match switches.turn? c on with
          | some turned => turnSwitches fuel (c :: used) on turned
          | none => refuse

def nameStarts : CharSet := Text.alphabetic.union (.single '_')

def nameParts : CharSet :=
  .unionAll [nameStarts, Text.numbers, .single '.', .single '[', .single ']']

/-- The name of a group up to its closing bracket; no two groups have one name. -/
def groupName : Reader Unit := do
  let text ← rest
  let name := text.takeWhile (· ≠ '>')
  let names ← Effect.reading Progress.names
  let fits : Bool := match name with
    | [] => false
    | first :: others => nameStarts.contains first && others.all nameParts.contains
  if fits ∧ name.length < text.length ∧ String.ofList name ∉ names then
    bump (name.length + 1)
    Effect.modify fun progress => { progress with names := String.ofList name :: progress.names }
  else refuse

/-- The inside of a group up to its closing parenthesis; switches turned in it end with it. -/
def groupBody (inner : Reader Part) (outer : Switches) (kept : Bool) : Reader Part := do
  let body ← inner
  if (← peek) = some ')' then
    bump 1
    setSwitches outer
    let pattern := if kept then .group body.pattern else body.pattern
    pure { pattern, levels := body.levels + 1 }
  else refuse

/-- Whether a group would look ahead or back. -/
def looksAround : List Char → Bool
  | '?' :: '=' :: _ => true
  | '?' :: '!' :: _ => true
  | '?' :: '<' :: '=' :: _ => true
  | '?' :: '<' :: '!' :: _ => true
  | _ => false

/-- What an opening parenthesis begins: a group, or switches for the rest of the group around it. -/
def group (inner : Reader Part) : Reader Part := do
  advance
  let outer ← switches
  if looksAround (← rest) then refuse
  else if ← accept "?P<" then
    groupName
    groupBody inner outer true
  else if ← accept "?<" then
    groupName
    groupBody inner outer true
  else if ← accept "?" then
    let turned ← turnSwitches ((← rest).length + 1) [] true outer
    setSwitches turned
    match ← peek with
    | some ')' =>
      bump 1
      pure { pattern := .nothing, repeatable := false }
    | _ =>
      bump 1
      groupBody inner outer false
  else groupBody inner outer true

def literal (c : Char) : Reader Part := do pure { pattern := .one (← folded (.single c)) }

def dot : Reader Part := do
  let switches ← switches
  let lineEnds : CharSet :=
    if switches.dotAll then .empty
    else if switches.crlf then .ofCodes [0x0A, 0x0D]
    else .single '\n'
  if switches.allScripts then pure { pattern := .one lineEnds.complement } else refuse

/-- A place at the edge of the text, or of a line where the switches say so. -/
def edge (ofText : Place) (ofLine : Bool → Place) : Reader Part := do
  let switches ← switches
  pure { pattern := .place (if switches.everyLine then ofLine switches.crlf else ofText) }

/-- What is escaped, as a part of a sequence. A single byte beyond ASCII is no character. -/
def escapedPart : Reader Part := do
  match ← escape with
  | .literal c asByte =>
    if asByte ∧ 128 ≤ c.toNat ∧ !(← switches).allScripts then refuse else literal c
  | .set content => pure { pattern := .one content }
  | .place kind => pure { pattern := .place kind }

def bracketedPart : Reader Part := do
  let set ← bracketed (← rest).length
  pure { pattern := .one set.content, levels := set.levels }

def part (inner : Reader Part) : Reader Part := do
  match ← orRefuse (← peek) with
  | '(' => group inner
  | '[' => bracketedPart
  | c =>
    bump 1
    match c with
    | '.' => dot
    | '^' => edge .textStart .lineStart
    | '$' => edge .textEnd .lineEnd
    | '\\' => escapedPart
    | c => literal c

/-- Sequences with `|` between them, up to a closing parenthesis or the end, given the parts of the
first one so far. -/
def branches (inner : Reader Part) : Nat → List Part → Reader (List Part)
  | 0, _ => refuse
  | fuel + 1, parts => do
    skipFiller
    match ← peek with
    | none => pure [sequenceOf parts]
    | some ')' => pure [sequenceOf parts]
    | some '|' =>
      bump 1
      pure (sequenceOf parts :: (← branches inner fuel []))
    | some '?' =>
      bump 1
      branches inner fuel (← repetition parts 0 (some 1))
    | some '*' =>
      bump 1
      branches inner fuel (← repetition parts 0 none)
    | some '+' =>
      bump 1
      branches inner fuel (← repetition parts 1 none)
    | some '\x7b' =>
      let (least, most) ← limits
      branches inner fuel (← repetition parts least most)
    | some _ => branches inner fuel ((← part inner) :: parts)

/-- Alternatives, which are a choice where there are several. -/
def alternatives (inner : Reader Part) : Reader Part := do
  match ← branches inner ((← rest).length + 1) [] with
  | [only] => pure only
  | all =>
    pure { pattern := choiceOf (all.map Part.pattern), levels := levelsOf (all.map Part.levels) }

def nested : Nat → Reader Part
  | 0 => refuse
  | levels + 1 => alternatives (nested levels)

end Reader

/-- How many levels the parts of a pattern may be inside one another. -/
def greatestLevels : Nat := 250

/-- The pattern that some characters are, all of them. -/
def ofChars? (text : List Char) : Option Pattern :=
  match Reader.nested (text.length + 1) ⟨text, {}, []⟩ with
  | (.value whole, progress) =>
    if progress.rest.isEmpty ∧ whole.levels ≤ greatestLevels ∧ !whole.pattern.isTooLarge then
      some whole.pattern
    else none
  | _ => none

def ofText? (text : String) : Option Pattern := ofChars? text.toList

/-- Whether some part of a text matches a pattern given as text; nothing when that is no pattern. -/
def occurs? (pattern text : String) : Option Bool :=
  (ofText? pattern).map (·.occursIn text.toList)

end AccessControl.Pattern

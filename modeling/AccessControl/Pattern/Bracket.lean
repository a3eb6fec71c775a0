/-
**Sets in brackets.**

* `asciiClasses` — the classes of ASCII characters that have a name between colons.
* `Reader.bracketed` — members, ranges, classes and sets inside one another, with the operators
  `&&`, `--` and `~~` between them.
-/

import AccessControl.Pattern.Escape

namespace AccessControl.Pattern

open AccessControl.Text (CharSet)

def asciiClasses : Text.Naming :=
  [(["alnum"], ⟨[(0x30, 0x39), (0x41, 0x5A), (0x61, 0x7A)]⟩),
    (["alpha"], ⟨[(0x41, 0x5A), (0x61, 0x7A)]⟩), (["ascii"], ⟨[(0x00, 0x7F)]⟩),
    (["blank"], ⟨[(0x09, 0x09), (0x20, 0x20)]⟩), (["cntrl"], ⟨[(0x00, 0x1F), (0x7F, 0x7F)]⟩),
    (["digit"], .range '0' '9'), (["graph"], .range '!' '~'), (["lower"], .range 'a' 'z'),
    (["print"], .range ' ' '~'),
    (["punct"], ⟨[(0x21, 0x2F), (0x3A, 0x40), (0x5B, 0x60), (0x7B, 0x7E)]⟩),
    (["space"], Text.asciiBlanks), (["upper"], .range 'A' 'Z'), (["word"], Text.asciiWordChars),
    (["xdigit"], ⟨[(0x30, 0x39), (0x41, 0x46), (0x61, 0x66)]⟩)]

/-- A character or a set inside brackets. -/
inductive Member where
  | literal (c : Char)
  | set (content : CharSet)

def Member.charSet : Member → CharSet
  | .literal c => .single c
  | .set content => content

abbrev Join : Type := CharSet → CharSet → CharSet

/-- The operator in front, written twice. -/
def joinOf : List Char → Option Join
  | '&' :: '&' :: _ => some CharSet.intersection
  | '-' :: '-' :: _ => some CharSet.difference
  | '~' :: '~' :: _ => some CharSet.symmetricDifference
  | _ => none

/-- The union of some members, those of a single one on its own level. -/
def unionOf (members : List (Leveled CharSet)) : Leveled CharSet :=
  ⟨.unionAll (members.map Leveled.content), levelsOf (members.map Leveled.levels)⟩

namespace Reader

/-- One character or escape inside brackets. A character beyond ASCII has no place in a set of
bytes. -/
def member : Reader Member := do
  let allScripts := (← switches).allScripts
  let c ← orRefuse (← peek)
  bump 1
  if c = '\\' then
    match ← escape with
    | .literal c _ => if allScripts ∨ c.toNat < 128 then pure (.literal c) else refuse
    | .set content => pure (.set content)
    | .place _ => refuse
  else if allScripts ∨ c.toNat < 128 then pure (.literal c)
  else refuse

/-- A member inside brackets, or a range of characters. A hyphen before a bracket or another hyphen
joins nothing. -/
def range : Reader CharSet := do
  let first ← member
  skipFiller
  let spaced := (← switches).spaced
  match ← rest with
  | [] => refuse
  | '-' :: after =>
    let next := (if spaced then dropFiller false after else after).head?
    if next = some ']' ∨ next = some '-' then pure first.charSet
    else
      advance
      match first, ← member with
      | .literal low, .literal high => if low ≤ high then pure (.range low high) else refuse
      | _, _ => refuse
  | _ => pure first.charSet

/-- The name of a class of ASCII characters between `[:` and `:]`, whether a caret negates it, and
what follows. -/
def asciiClass? : List Char → Option (CharSet × Bool × List Char)
  | '[' :: ':' :: after =>
    let negated := after.head? = some '^'
    let body := if negated then after.drop 1 else after
    match asciiClasses.find? (String.ofList (body.takeWhile (· ≠ ':'))),
        body.dropWhile (· ≠ ':') with
    | some set, ':' :: ']' :: rest => some (set, negated, rest)
    | _, _ => none
  | _ => none

def joined (pending : Option (Leveled CharSet × Join)) (right : Leveled CharSet) :
    Reader (Leveled CharSet) := do
  match pending with
  | some (left, join) =>
    pure ⟨join (← folded left.content) (← folded right.content), max left.levels right.levels + 1⟩
  | none => pure right

/-- The members of a set up to its closing bracket; operators join from the left. -/
def members (inner : Reader (Leveled CharSet)) :
    Nat → Option (Leveled CharSet × Join) → List (Leveled CharSet) → Reader (Leveled CharSet)
  | 0, _, _ => refuse
  | fuel + 1, pending, before => do
    skipFiller
    let text ← rest
    match joinOf text, asciiClass? text, text with
    | _, _, [] => refuse
    | some join, _, _ =>
      let left ← joined pending (unionOf before)
      bump 2
      members inner fuel (some (left, join)) []
    | _, some (set, negated, after), _ =>
      bump (text.length - after.length)
      members inner fuel pending (⟨← negatedIf negated set, 0⟩ :: before)
    | _, _, '[' :: _ => members inner fuel pending ((← inner) :: before)
    | _, _, ']' :: _ =>
      bump 1
      joined pending (unionOf before)
    | _, _, _ => members inner fuel pending (⟨← range, 0⟩ :: before)

def firstMembers : Reader (List (Leveled CharSet)) := do
  let hyphens ← takeAll (· = '-')
  if hyphens ≠ [] then pure (hyphens.map fun c => ⟨.single c, 0⟩)
  else if (← peek) = some ']' then
    advance
    pure [⟨.single ']', 0⟩]
  else pure []

def bracketedWith (inner : Reader (Leveled CharSet)) : Reader (Leveled CharSet) := do
  advance
  let negated := (← peek) = some '^'
  if negated then advance
  let first ← firstMembers
  let set ← members inner ((← rest).length + 1) none first
  pure ⟨← negatedIf negated set.content, set.levels + 1⟩

def bracketed : Nat → Reader (Leveled CharSet)
  | 0 => refuse
  | levels + 1 => bracketedWith (bracketed levels)

end Reader

end AccessControl.Pattern

/-
**What a backslash begins in a pattern.**

* `Escaped` — a character, a set of characters, or a place.
* `Reader.escape` — a character by its code, a class of characters, a property by its name, a place,
  or a sign that stands for itself.
-/

import AccessControl.Json.Source
import AccessControl.Pattern.Basic
import AccessControl.Pattern.Reader
import AccessControl.Text.LetterCase
import AccessControl.Text.Property
import AccessControl.Text.WordChar

namespace AccessControl.Pattern

open AccessControl.Text (CharSet)

/-- What is escaped: a character, perhaps given as one byte, a set, or a place. -/
inductive Escaped where
  | literal (c : Char) (asByte : Bool)
  | set (content : CharSet)
  | place (kind : Place)

namespace Reader

/-- A set with its letters in either case, where the switches ask for it. -/
def folded (set : CharSet) : Reader CharSet := do
  let switches ← switches
  if !switches.ignoreCase then pure set
  else if switches.allScripts then pure set.anyCase
  else pure set.anyAsciiCase

/-- A set or its complement, with its letters in either case before it is complemented. A set of
bytes has only those of ASCII. -/
def negatedIf (negated : Bool) (set : CharSet) : Reader CharSet := do
  let whole := CharSet.negateIf negated (← folded set)
  if (← switches).allScripts ∨ whole.isAscii then pure whole else refuse

/-! ### Characters by their codes -/

/-- A character by its code in digits of base sixteen. -/
def charOfHex (digits : List Char) : Reader Char :=
  match Json.hexValue digits with
  | some code => if code.isValidChar ∧ digits ≠ [] then pure (Char.ofNat code) else refuse
  | none => refuse

def hexDigits : Nat → Reader (List Char)
  | 0 => pure []
  | count + 1 => do
    let c ← orRefuse (← peek)
    advance
    pure (c :: (← hexDigits count))

/-- What stands in braces, the opening one in front. -/
def braced : Reader (List Char) := do
  advance
  let body ← takeAll (· ≠ '\x7d')
  let _ ← orRefuse (← peek)
  advance
  pure body

/-- A character code: so many digits, or any number of them in braces. -/
def hexEscape (count : Nat) : Reader Escaped := do
  skipFiller
  match ← peek with
  | some '\x7b' => pure (.literal (← charOfHex (← braced)) false)
  | some _ => pure (.literal (← charOfHex (← hexDigits count)) (count = 2))
  | none => refuse

/-! ### Classes and properties -/

/-- A class of characters or its complement. Where only ASCII counts there is no complement, which
would take in single bytes of other characters. -/
def classEscape (all ascii : CharSet) (negated : Bool) : Reader Escaped := do
  if (← switches).allScripts then pure (.set (CharSet.negateIf negated all))
  else if negated then refuse
  else pure (.set ascii)

/-- What is before a separator and what is after it, where it first occurs. -/
def splitAt? (separator : List Char) : List Char → Option (List Char × List Char)
  | [] => none
  | c :: rest =>
    if separator.isPrefixOf (c :: rest) then some ([], (c :: rest).drop separator.length)
    else (splitAt? separator rest).map fun parts => (c :: parts.1, parts.2)

/-- A set of characters by a name, or by the name of a property and that of its value, which `!=`,
`:` or `=` separate, all to the same effect. -/
def property? (text : List Char) : Option CharSet :=
  match splitAt? ['!', '='] text <|> splitAt? [':'] text <|> splitAt? ['='] text with
  | some (property, value) => Text.valued? (String.ofList property) (String.ofList value)
  | none => Text.named? (String.ofList text)

def propertyName : Reader (List Char) := do
  skipFiller
  match ← peek with
  | some '\x7b' => braced
  | some c =>
    advance
    if c = '\\' then refuse else pure [c]
  | none => refuse

/-- The characters with a property, or those without it. -/
def propertyEscape (negated : Bool) : Reader Escaped := do
  let set ← orRefuse (property? (← propertyName))
  if (← switches).allScripts then pure (.set (← negatedIf negated set)) else refuse

/-! ### Places -/

def isBoundaryLetter (c : Char) : Bool := c.isAlpha || c = '-'

/-- A boundary of words, whose kind may follow in braces. Braces that begin with neither a letter
nor a hyphen are a repetition. -/
def boundaryEscape : Reader Escaped := do
  let ascii := !(← switches).allScripts
  let start ← rest
  match ← peek with
  | some '\x7b' =>
    advance
    let c ← orRefuse (← peek)
    if isBoundaryLetter c then
      let name ← takeAll isBoundaryLetter
      if (← peek) = some '\x7d' then
        bump 1
        match String.ofList name with
        | "start" => pure (.place (.wordStart ascii))
        | "end" => pure (.place (.wordEnd ascii))
        | "start-half" => pure (.place (.wordStartHalf ascii))
        | "end-half" => pure (.place (.wordEndHalf ascii))
        | _ => refuse
      else refuse
    else
      Effect.modify fun progress => { progress with rest := start }
      pure (.place (.wordBoundary ascii))
  | _ => pure (.place (.wordBoundary ascii))

/-- A character of ASCII that stands for itself after a backslash. -/
def isSelfEscaped (c : Char) : Bool :=
  c.toNat < 128 && !c.isAlphanum && c ≠ '<' && c ≠ '>'

def escape : Reader Escaped := do
  let ascii := !(← switches).allScripts
  let c ← orRefuse (← peek)
  bump 1
  match c with
  | 'x' => hexEscape 2
  | 'u' => hexEscape 4
  | 'U' => hexEscape 8
  | 'p' => propertyEscape false
  | 'P' => propertyEscape true
  | 'd' => classEscape Text.decimalDigits (.range '0' '9') false
  | 'D' => classEscape Text.decimalDigits (.range '0' '9') true
  | 's' => classEscape Text.blanks Text.asciiBlanks false
  | 'S' => classEscape Text.blanks Text.asciiBlanks true
  | 'w' => classEscape Text.wordChars Text.asciiWordChars false
  | 'W' => classEscape Text.wordChars Text.asciiWordChars true
  | 'a' => pure (.literal '\x07' false)
  | 'f' => pure (.literal '\x0c' false)
  | 't' => pure (.literal '\t' false)
  | 'n' => pure (.literal '\n' false)
  | 'r' => pure (.literal '\r' false)
  | 'v' => pure (.literal '\x0b' false)
  | 'A' => pure (.place .textStart)
  | 'z' => pure (.place .textEnd)
  | 'b' => boundaryEscape
  | 'B' => pure (.place (.notWordBoundary ascii))
  | '<' => pure (.place (.wordStart ascii))
  | '>' => pure (.place (.wordEnd ascii))
  | c => if isSelfEscaped c then pure (.literal c false) else refuse

end Reader

end AccessControl.Pattern

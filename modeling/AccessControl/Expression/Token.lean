/-
**Tokens of expressions, and how a text is cut into them.**

* `Token` — a sign, a reserved word, a name, or a literal. A literal whose text stands for nothing
  is still a token: it matters only when the grammar reaches it.
* `Token.ofText` — the longest token first, blanks and comments between tokens skipped. A sign that
  touches the digits of a number belongs to the number. What is no token ends the list.
-/

import AccessControl.Expression.Literal
import AccessControl.Text.Blank

namespace AccessControl.Expression

open AccessControl.Decimal (isDigit)

/-- A sign, or the reserved word `in`. -/
inductive Sign where
  | dot | comma | colon | question
  | openParen | closeParen | openBracket | closeBracket | openBrace | closeBrace
  | plus | minus | minusMinus | star | slash | percent | bang | bangBang
  | less | lessEqual | greater | greaterEqual | equal | notEqual | conjunction | disjunction
  | within
  deriving Repr, DecidableEq

/-- A token. What cannot be read as one is kept as such. -/
inductive Token where
  | sign (kind : Sign)
  | name (text : String)
  | literal (value : Option Atom)
  | unreadable
  deriving Repr

namespace Token

/-! ### Numbers -/

def isHexDigit (c : Char) : Bool := (Json.hexValue? c).isSome

/-- The length of an exponent in front, zero when there is none: a mark, a sign perhaps, and
digits. -/
def exponentLength : List Char → Nat
  | [] => 0
  | mark :: rest =>
    if mark = 'e' ∨ mark = 'E' then
      let signed := match rest with
        | '+' :: _ => 1
        | '-' :: _ => 1
        | _ => 0
      let digits := ((rest.drop signed).takeWhile isDigit).length
      if 0 < digits then 1 + signed + digits else 0
    else 0

/-- The length of a mark of an unsigned number in front: a blank and the letter `u`. -/
def unsignedLength : List Char → Nat
  | ' ' :: 'u' :: _ => 2
  | ' ' :: 'U' :: _ => 2
  | _ => 0

def double (text : List Char) (length : Nat) : Token × List Char :=
  (.literal ((Decimal.readFloat (text.take length)).map .double), text.drop length)

/-- A number in front, and what follows it. Unsigned and sixteen-based numbers stand for nothing. -/
def number (text : List Char) : Option (Token × List Char) :=
  let signLength := match text with
    | '+' :: _ => 1
    | '-' :: _ => 1
    | _ => 0
  let unsigned := text.drop signLength
  let digits := (unsigned.takeWhile isDigit).length
  let rest := unsigned.drop digits
  let fraction := match rest with
    | '.' :: after => (after.takeWhile isDigit).length
    | _ => 0
  if 0 < fraction then
    let mantissa := signLength + digits + 1 + fraction
    some (double text (mantissa + exponentLength (text.drop mantissa)))
  else if 0 < digits ∧ 0 < exponentLength rest then
    some (double text (signLength + digits + exponentLength rest))
  else if text.head? = some '+' ∨ digits = 0 then none
  else
    let hex := match unsigned.take digits, rest with
      | ['0'], mark :: after =>
        if mark = 'x' ∨ mark = 'X' then (after.takeWhile isHexDigit).length else 0
      | _, _ => 0
    if 0 < hex then
      let after := rest.drop (1 + hex)
      some (.literal none, after.drop (unsignedLength after))
    else if 0 < unsignedLength rest then some (.literal none, rest.drop 2)
    else some (.literal (Literal.integer (text.take (signLength + digits))), rest)

/-! ### Strings -/

/-- The body of a string up to its closing quote, and what follows. A backslash keeps the next
character, which is no line end, from closing the string. -/
def stringBody (quote : Char) : List Char → Option (List Char × List Char)
  | [] => none
  | '\\' :: c :: rest =>
    if c = '\n' then none
    else (stringBody quote rest).map fun found => ('\\' :: c :: found.1, found.2)
  | c :: rest =>
    if c = quote then some ([], rest)
    else if c = '\\' then none
    else (stringBody quote rest).map fun found => (c :: found.1, found.2)

/-- The body of a bytes literal on one line, as long as it can be, given whether a backslash stands
right before it. A quote after a backslash closes the literal only when no later one does. -/
def bytesBody (quote : Char) : Bool → List Char → Option (List Char × List Char)
  | _, [] => none
  | afterBackslash, c :: rest =>
    if c = '\n' then none
    else if c = quote then
      match if afterBackslash then bytesBody quote false rest else none with
      | some found => some (c :: found.1, found.2)
      | none => some ([], rest)
    else (bytesBody quote (c = '\\') rest).map fun found => (c :: found.1, found.2)

def isQuote (c : Char) : Bool := c = '"' || c = '\''

/-- A string, raw string or bytes literal in front, and what follows it. -/
def quoted : List Char → Option (Token × List Char)
  | mark :: quote :: rest =>
    if isQuote mark then
      (stringBody mark (quote :: rest)).map fun found =>
        (.literal (Literal.string mark found.1), found.2)
    else if (mark = 'r' ∨ mark = 'R') ∧ isQuote quote then
      (stringBody quote rest).map fun found =>
        (.literal (some (Literal.rawString quote found.1)), found.2)
    else if (mark = 'b' ∨ mark = 'B') ∧ isQuote quote then
      (bytesBody quote false rest).map fun found => (.literal (Literal.bytes found.1), found.2)
    else none
  | _ => none

/-! ### Names and signs -/

/-- A character that may begin a name. -/
def isNameStart (c : Char) : Bool := c = '_' || c.isAlpha

/-- A character that may continue a name. -/
def isNamePart (c : Char) : Bool := isNameStart c || isDigit c

/-- A name, or the reserved word that it is. -/
def word (text : List Char) : Token :=
  match String.ofList text with
  | "in" => .sign .within
  | "true" => .literal (some (.bool true))
  | "false" => .literal (some (.bool false))
  | "null" => .literal (some .null)
  | other => .name other

/-- A sign in front, the longer one first, and what follows it. -/
def leadingSign : List Char → Option (Sign × List Char)
  | '!' :: '=' :: rest => some (.notEqual, rest)
  | '!' :: '!' :: rest => some (.bangBang, rest)
  | '!' :: rest => some (.bang, rest)
  | '=' :: '=' :: rest => some (.equal, rest)
  | '<' :: '=' :: rest => some (.lessEqual, rest)
  | '<' :: rest => some (.less, rest)
  | '>' :: '=' :: rest => some (.greaterEqual, rest)
  | '>' :: rest => some (.greater, rest)
  | '&' :: '&' :: rest => some (.conjunction, rest)
  | '|' :: '|' :: rest => some (.disjunction, rest)
  | '-' :: '-' :: rest => some (.minusMinus, rest)
  | '-' :: rest => some (.minus, rest)
  | '+' :: rest => some (.plus, rest)
  | '*' :: rest => some (.star, rest)
  | '/' :: rest => some (.slash, rest)
  | '%' :: rest => some (.percent, rest)
  | '.' :: rest => some (.dot, rest)
  | ',' :: rest => some (.comma, rest)
  | ':' :: rest => some (.colon, rest)
  | '?' :: rest => some (.question, rest)
  | '(' :: rest => some (.openParen, rest)
  | ')' :: rest => some (.closeParen, rest)
  | '[' :: rest => some (.openBracket, rest)
  | ']' :: rest => some (.closeBracket, rest)
  | '\x7b' :: rest => some (.openBrace, rest)
  | '\x7d' :: rest => some (.closeBrace, rest)
  | _ => none

/-- The token in front of a text that begins with none of what is skipped. -/
def next (text : List Char) : Option (Token × List Char) :=
  match quoted text with
  | some found => some found
  | none =>
    match number text with
    | some found => some found
    | none =>
      match text with
      | c :: _ =>
        if isNameStart c then
          some (word (text.takeWhile isNamePart), text.dropWhile isNamePart)
        else (leadingSign text).map fun found => (.sign found.1, found.2)
      | [] => none

def withinLine (c : Char) : Bool := !(c = '\n' || c = '\r')

/-- The tokens of some characters; every step takes at least one of them. -/
def ofChars : Nat → List Char → List Token
  | 0, _ => []
  | _ + 1, [] => []
  | fuel + 1, c :: rest =>
    if Text.isBlank c then ofChars fuel rest
    else if c = '/' ∧ rest.head? = some '/' then ofChars fuel (rest.dropWhile withinLine)
    else
      match next (c :: rest) with
      | some (token, after) => token :: ofChars fuel after
      | none => [.unreadable]

def ofText (text : String) : List Token := ofChars text.length text.toList

/-- Whether a token may stand right after a literal; so may the end. -/
def mayFollowLiteral : Token → Bool
  | .sign kind =>
    match kind with
    | .openParen | .bang | .bangBang | .minusMinus => false
    | _ => true
  | _ => false

end Token

end AccessControl.Expression

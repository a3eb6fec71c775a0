/-
**The grammar of expressions.**

* `Grammar` — a reader of tokens. It refuses what no expression begins with, and it breaks off at a
  literal that stands for nothing as soon as the token after it shows that the literal is complete.
* `Grammar.expression` — conditional, disjunction, conjunction, relation (one only), sum, product,
  one operator in front, selections, and what is in brackets.
* `Term.ofText` — the expression that a whole text is.
-/

import AccessControl.Effect
import AccessControl.Expression.Term
import AccessControl.Expression.Token

namespace AccessControl.Expression

/-- A reader of tokens; what it leaves is the tokens not read. -/
abbrev Grammar (α : Type) : Type := Effect Unit (List Token) α

namespace Grammar

def refuse {α : Type} : Grammar α := Effect.fail ()

/-- The next token, left where it is. -/
def peek : Grammar (Option Token) := Effect.reading List.head?

def skip : Grammar Unit := Effect.modify (List.drop 1)

/-- Take the next token if it is a sign that is recognised. -/
def accept {α : Type} (recognise : Sign → Option α) : Grammar (Option α) := do
  match ← peek with
  | some (.sign kind) =>
    match recognise kind with
    | some found =>
      skip
      pure (some found)
    | none => pure none
  | _ => pure none

/-- Take the next token if it is a given sign. -/
def acceptSign (sign : Sign) : Grammar Bool := do
  match ← accept fun kind => if kind = sign then some () else none with
  | some () => pure true
  | none => pure false

/-- Take the next token, which must be a given sign. -/
def expectSign (sign : Sign) : Grammar Unit := do
  if ← acceptSign sign then pure () else refuse

/-- Take the next token, which must be a name. -/
def expectName : Grammar String := do
  match ← peek with
  | some (.name text) =>
    skip
    pure text
  | _ => refuse

/-! ### Operators -/

def disjunctionOf : Sign → Option (Term → Term → Term)
  | .disjunction => some .disjunction
  | _ => none

def conjunctionOf : Sign → Option (Term → Term → Term)
  | .conjunction => some .conjunction
  | _ => none

def sumOf : Sign → Option (Term → Term → Term)
  | .plus => some (.binary .add)
  | .minus => some (.binary .subtract)
  | _ => none

def productOf : Sign → Option (Term → Term → Term)
  | .star => some (.binary .multiply)
  | .slash => some (.binary .divide)
  | .percent => some (.binary .remainder)
  | _ => none

def relationOf : Sign → Option (Term → Term → Term)
  | .less => some (.relation .less)
  | .lessEqual => some (.relation .lessEqual)
  | .greater => some (.relation .greater)
  | .greaterEqual => some (.relation .greaterEqual)
  | .equal => some (.relation .equal)
  | .notEqual => some (.relation .notEqual)
  | .within => some (.relation .within)
  | _ => none

/-- The signs in front of an operand. -/
def unaryOf : Sign → Option UnaryOperator
  | .bang => some .not
  | .bangBang => some .notNot
  | .minus => some .minus
  | .minusMinus => some .minusMinus
  | _ => none

/-! ### Parts of an expression

Each part is given the reader `whole` of an expression one level further in, and a number `bound`
that is greater than that of the tokens, so that nothing is repeated more often. -/

section

variable (bound : Nat) (whole : Grammar Term)

def commaList {α : Type} (item : Grammar α) (closing : Sign) : Nat → Grammar (List α)
  | 0 => refuse
  | fuel + 1 => do
    if ← acceptSign closing then pure []
    else
      let first ← item
      if ← acceptSign .comma then
        let others ← commaList item closing fuel
        pure (first :: others)
      else
        expectSign closing
        pure [first]

def listUpTo {α : Type} (item : Grammar α) (closing : Sign) : Grammar (List α) := do
  commaList item closing bound

/-- The arguments of a call after their opening bracket. -/
def arguments : Grammar (List Term) := listUpTo bound whole .closeParen

def entry : Grammar (Term × Term) := do
  let key ← whole
  expectSign .colon
  let value ← whole
  pure (key, value)

def field : Grammar Unit := do
  let _ ← expectName
  expectSign .colon
  let _ ← whole
  pure ()

def nameOrCall (text : String) : Grammar Term := do
  if ← acceptSign .openParen then pure (.call text (← arguments bound whole))
  else pure (.name text)

/-- A literal that was just taken: its constant. One that stands for nothing breaks the reading off
when it is complete, and is refused when the next token cannot follow a literal. -/
def literal : Option Atom → Grammar Term
  | some value => pure (.atom value)
  | none => do
    match (← peek).map Token.mayFollowLiteral with
    | some false => refuse
    | _ => Effect.ending .broken

/-- A term that begins no selection. -/
def primary : Grammar Term := do
  let next ← peek
  skip
  match next with
  | some (.sign .dot) => nameOrCall bound whole (← expectName)
  | some (.name text) => nameOrCall bound whole text
  | some (.literal value) => literal value
  | some (.sign .openBracket) => pure (.list (← listUpTo bound whole .closeBracket))
  | some (.sign .openBrace) => pure (.map (← listUpTo bound (entry whole) .closeBrace))
  | some (.sign .openParen) =>
    let inner ← whole
    expectSign .closeParen
    pure inner
  | _ => refuse

def selections : Nat → Term → Grammar Term
  | 0, _ => refuse
  | fuel + 1, operand => do
    match ← peek with
    | some (.sign .dot) =>
      skip
      let text ← expectName
      if ← acceptSign .openParen then
        selections fuel (.callOn operand text (← arguments bound whole))
      else selections fuel (.select operand text)
    | some (.sign .openBracket) =>
      skip
      let key ← whole
      expectSign .closeBracket
      selections fuel (.index operand key)
    | some (.sign .openBrace) =>
      skip
      let _ ← listUpTo bound (field whole) .closeBrace
      selections fuel (.construct operand)
    | _ => pure operand

def member : Grammar Term := do
  let operand ← primary bound whole
  selections bound whole bound operand

/-- A term with at most one operator in front. -/
def unary : Grammar Term := do
  match ← accept unaryOf with
  | some operator => pure (.unary operator (← member bound whole))
  | none => member bound whole

def chain (operand : Grammar Term) (operator : Sign → Option (Term → Term → Term)) :
    Nat → Term → Grammar Term
  | 0, _ => refuse
  | fuel + 1, first => do
    match ← accept operator with
    | some join => chain operand operator fuel (join first (← operand))
    | none => pure first

def joined (operand : Grammar Term) (operator : Sign → Option (Term → Term → Term)) :
    Grammar Term := do
  let first ← operand
  chain operand operator bound first

def product : Grammar Term := joined bound (unary bound whole) productOf

def sum : Grammar Term := joined bound (product bound whole) sumOf

/-- A sum, or a relation between two. -/
def comparison : Grammar Term := do
  let first ← sum bound whole
  match ← accept relationOf with
  | some relate => pure (relate first (← sum bound whole))
  | none => pure first

def conjunction : Grammar Term := joined bound (comparison bound whole) conjunctionOf

def disjunction : Grammar Term := joined bound (conjunction bound whole) disjunctionOf

/-- A disjunction, or a conditional; what stands between its marks is a disjunction. -/
def conditional : Grammar Term := do
  let condition ← disjunction bound whole
  if ← acceptSign .question then
    let whenTrue ← disjunction bound whole
    expectSign .colon
    let whenFalse ← whole
    pure (.conditional condition whenTrue whenFalse)
  else pure condition

end

/-- An expression of fewer than `bound` tokens with so many levels inside one another. -/
def expression (bound : Nat) : Nat → Grammar Term
  | 0 => refuse
  | levels + 1 => conditional bound (expression bound levels)

end Grammar

def Term.ofTokens (tokens : List Token) : Ending Unit Term :=
  let bound := tokens.length + 1
  match Grammar.expression bound bound tokens with
  | (.value term, []) => .value term
  | (.value _, _ :: _) => .error ()
  | (.error cause, _) => .error cause
  | (.broken, _) => .broken

def Term.ofText (text : String) : Ending Unit Term := Term.ofTokens (Token.ofText text)

end AccessControl.Expression

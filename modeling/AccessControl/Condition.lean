/-
**Conditions of grants.**

* `Condition` — values that the resource, the user and the environment must have, and an expression
  that must hold; each may be missing.
* `Condition.Arrangement` — an order of the entries of every clause. `Condition.Arrangement.text`,
  `Condition.ofText?` — the JSON in which a condition is kept.
* `Condition.evaluate` — whether all of it holds: the values are compared first and the expression
  is only looked at when they agree. A blank expression holds.
* `Condition.isSatisfied` — the same, where every failure counts as "does not hold".
-/

import AccessControl.Attribute

namespace AccessControl

/-- A condition. -/
structure Condition where
  resource : AttributeMap := .empty
  user : AttributeMap := .empty
  environment : AttributeMap := .empty
  expression : Option String := none
  deriving Repr, BEq, Inhabited

/-- What a condition is held against, and how its expression then visits maps. -/
structure Circumstances where
  user : AttributeMap
  resource : AttributeMap
  environment : AttributeMap
  visits : Expression.Visits := .ordered

def Circumstances.facts (circumstances : Circumstances) : Expression.Facts :=
  ⟨circumstances.user.document, circumstances.resource.document, circumstances.environment.document,
    circumstances.visits⟩

namespace Condition

/-- The expression without blank ends, unless it is blank. -/
def source? (condition : Condition) : Option String :=
  match condition.expression with
  | some text => if (Text.trim text).isEmpty then none else some (Text.trim text)
  | none => none

/-- Whether nothing is required. -/
def isEmpty (condition : Condition) : Bool :=
  condition.resource.isEmpty && condition.user.isEmpty && condition.environment.isEmpty &&
    condition.source?.isNone

/-! ### Building -/

def requireResource (condition : Condition) (key : String) (value : AttributeValue) : Condition :=
  { condition with resource := condition.resource.insert key value }

def requireUser (condition : Condition) (key : String) (value : AttributeValue) : Condition :=
  { condition with user := condition.user.insert key value }

def requireEnvironment (condition : Condition) (key : String) (value : AttributeValue) :
    Condition :=
  { condition with environment := condition.environment.insert key value }

/-- Require that an expression holds, in place of the one required before. -/
def withExpression (condition : Condition) (text : String) : Condition :=
  { condition with expression := some text }

/-! ### JSON -/

/-- An order of the entries of every clause of a condition. -/
structure Arrangement (condition : Condition) where
  resource : List (String × AttributeValue)
  user : List (String × AttributeValue)
  environment : List (String × AttributeValue)
  ofResource : resource.Perm condition.resource.toList
  ofUser : user.Perm condition.user.toList
  ofEnvironment : environment.Perm condition.environment.toList

/-- The entries in the order of their keys. -/
def arranged (condition : Condition) : condition.Arrangement where
  resource := condition.resource.toList
  user := condition.user.toList
  environment := condition.environment.toList
  ofResource := .rfl
  ofUser := .rfl
  ofEnvironment := .rfl

/-- A clause under its name, unless it has no entries. -/
def clause (name : String) (entries : List (String × AttributeValue)) :
    List (String × Json.Document) :=
  if entries.isEmpty then [] else [(name, AttributeMap.written entries)]

namespace Arrangement

variable {condition : Condition}

/-- The clauses of a condition that are not empty; an expression is kept even when it is blank. -/
def members (arrangement : condition.Arrangement) : List (String × Json.Document) :=
  clause "resource" arrangement.resource ++ clause "user" arrangement.user ++
    clause "environment" arrangement.environment ++
    match condition.expression with
    | some text => [("expression", .string text)]
    | none => []

/-- The JSON text of a condition with the entries of its clauses in some order. -/
def text (arrangement : condition.Arrangement) : String :=
  (Json.Document.object arrangement.members).text

end Arrangement

/-- The JSON text of a condition in the order of the keys. -/
def text (condition : Condition) : String := condition.arranged.text

def fields : List Json.Field :=
  [⟨"resource", .default⟩, ⟨"user", .default⟩, ⟨"environment", .default⟩, ⟨"expression", .default⟩]

/-- The condition that is written, if it is one. -/
def ofSource? (source : Json.Source) : Option Condition := do
  match ← Json.Record.read fields source with
  | [resource, user, environment, expression] =>
    let resource ← Json.Record.withDefault AttributeMap.ofSource? .empty resource
    let user ← Json.Record.withDefault AttributeMap.ofSource? .empty user
    let environment ← Json.Record.withDefault AttributeMap.ofSource? .empty environment
    let expression ← Json.Record.optional Json.Source.text? expression
    some { resource, user, environment, expression }
  | _ => none

/-- The condition that a JSON text is, if it is one. -/
def ofText? (text : String) : Option Condition := (Json.Source.ofText text).bind ofSource?

def read (text : String) : Checked Condition :=
  match ofText? text with
  | some condition => .ok condition
  | none => .error .unreadable

/-! ### Evaluation -/

/-- Whether the required values are there. -/
def valuesAgree (condition : Condition) (circumstances : Circumstances) : Bool :=
  condition.resource.requiredIn circumstances.resource &&
    condition.user.requiredIn circumstances.user &&
    condition.environment.requiredIn circumstances.environment

def evaluate (condition : Condition) (circumstances : Circumstances) :
    Effect Error Expression.Engine Bool :=
  if condition.valuesAgree circumstances then
    match condition.source? with
    | some source =>
      (Expression.Engine.answer source circumstances.facts).mapError (.noAnswer source)
    | none => pure true
  else pure false

/-- Whether a condition holds, every error counting as "no". -/
def isSatisfied (condition : Condition) (circumstances : Circumstances) :
    Effect Error Expression.Engine Bool :=
  (condition.evaluate circumstances).recover fun _ => false

/-- Whether the condition that a text is holds, a text that is none counting as "no". -/
def isSatisfiedText (text : String) (circumstances : Circumstances) :
    Effect Error Expression.Engine Bool :=
  match ofText? text with
  | some condition => condition.isSatisfied circumstances
  | none => pure false

/-- Check that the expression, if there is one, can be compiled. -/
def validateExpression (condition : Condition) : Ending Error Unit :=
  match condition.source? with
  | some source =>
    ((Expression.compiled source).mapError fun _ => .invalidExpression).map fun _ => ()
  | none => .value ()

end Condition

end AccessControl

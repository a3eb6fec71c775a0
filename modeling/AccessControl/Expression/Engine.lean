/-
**Expressions answered yes or no, and the programs kept for them.**

* `Facts` — what an expression can speak of: the user, the resource and the environment, under these
  names and no others; and in which order it comes upon the keys of maps.
* `ExpressionError` — why an expression gives no answer.
* `Engine` — whether programs are kept, and those kept, under their texts. `Engine.compile` looks
  among them first and adds to them only what it compiled; a text that cannot be compiled adds
  nothing.
-/

import AccessControl.Effect
import AccessControl.Expression.Evaluation
import AccessControl.Expression.Grammar

namespace AccessControl.Expression

/-- What an expression can speak of, and the order in which an evaluation visits each map: nothing
fixes it, so that it may be another one at the next evaluation. -/
structure Facts where
  user : Json.Document
  resource : Json.Document
  environment : Json.Document
  visits : Visits

/-- The three names, bound to their values, each with a place of its own. -/
def Facts.bindings (facts : Facts) : Environment :=
  [("user", .ofDocument [0] facts.user), ("resource", .ofDocument [1] facts.resource),
    ("env", .ofDocument [2] facts.environment)]

/-- Why an expression gives no answer. -/
inductive ExpressionError where
  | compilation
  | evaluation (failure : Failure)
  | nonBoolean
  deriving Repr, DecidableEq

def ExpressionError.message : ExpressionError → String
  | .compilation => "CEL compilation failed"
  | .evaluation failure => "CEL evaluation failed: " ++ failure.text
  | .nonBoolean => "Expression did not return boolean result"

/-- The answer of a value, which must be a boolean. -/
def answerOf : Outcome Value → Except ExpressionError Bool
  | .ok (.bool value) => .ok value
  | .ok _ => .error .nonBoolean
  | .error failure => .error (.evaluation failure)

def Term.answer (program : Term) (facts : Facts) : Except ExpressionError Bool :=
  answerOf ((program.evaluate facts.bindings).outcome facts.visits)

/-- The program of a text. It is broken off at a literal that stands for nothing. -/
def compiled (text : String) : Ending ExpressionError Term :=
  (Term.ofText text).mapError fun _ => .compilation

/-- Whether programs are kept, and those that are, the newest first. -/
structure Engine where
  keeps : Bool
  programs : List (String × Term)

namespace Engine

def fresh (keeps : Bool) : Engine := ⟨keeps, []⟩

def size (engine : Engine) : Nat := engine.programs.length

def cleared (engine : Engine) : Engine := { engine with programs := [] }

/-- Keep a program, if programs are kept. -/
def keep (text : String) (program : Term) (engine : Engine) : Engine :=
  if engine.keeps then { engine with programs := (text, program) :: engine.programs } else engine

/-- The program of a text, kept from before or new. -/
def compile (text : String) : Effect ExpressionError Engine Term := do
  match ← Effect.reading fun engine => engine.programs.lookup text with
  | some program => pure program
  | none =>
    let program ← Effect.ending (compiled text)
    Effect.modify (keep text program)
    pure program

def answer (text : String) (facts : Facts) : Effect ExpressionError Engine Bool := do
  let program ← compile text
  Effect.ending (.ofExcept (program.answer facts))

end Engine

end AccessControl.Expression

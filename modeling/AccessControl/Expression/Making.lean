/-
**Computations that visit and make lists and maps.**

* `Making` — a computation that numbers the lists and maps it makes; what was made once is the same
  wherever it is passed on to, and what is made anew is another, even from the same items. It is
  given the order in which the keys of each map are visited.
* `Value.anew` — a list or a map with a number of its own.
* `Value.keysOf` — the keys of a map as they are visited.
-/

import AccessControl.Expression.Failure
import AccessControl.Expression.Value

namespace AccessControl.Expression

/-- A computation that may visit and make lists and maps: from how maps are visited and how many
were made before it to its value, or to why it has none, and how many were made after it. -/
abbrev Making (α : Type) : Type := ReaderT Visits (ExceptT Failure (StateM Nat)) α

namespace Making

def ofOutcome {α : Type} (outcome : Outcome α) : Making α := liftM outcome

/-- The outcome of a computation before which nothing was made. -/
def outcome {α : Type} (making : Making α) (visits : Visits) : Outcome α :=
  ((making.run visits).run.run 0).1

/-- Go on from a failure. What was made before it is gone, but no number is used again. -/
def catchFailure {α : Type} (making : Making α) (next : Failure → Making α) : Making α :=
  tryCatchThe Failure making next

def number : Making Nat := modifyGet fun made => (made, made + 1)

end Making

namespace Value

/-- A list or a map with a number of its own; any other value as it is. -/
def anew : Value → Making Value
  | .list _ items => return .list (.made (← Making.number)) items
  | .map _ entries => return .map (.made (← Making.number)) entries
  | other => pure other

/-- The keys of a map in the order in which they are visited. -/
def keysOf (origin : Origin) (entries : List (Key × Value)) : Making (List Value) := do
  let visits ← read
  pure (((visits origin).arrange (entries.map Prod.fst)).map Key.value)

end Value

end AccessControl.Expression

/-
**Effects on a state: how they end, and what they leave.**

* `Ending` — a value, an error that the caller can handle, or a break that nobody handles.
* `Effect` — a computation over a state. It hands back the state it leaves *whatever its ending is*,
  so that "a failed operation changes nothing" is a statement about it and not built in.
* `Effect.onFirst`, `Effect.onSecond` — an effect on one half of a pair of states.
-/

namespace AccessControl

/-- How a computation ends: with a value, with an error for its caller, or broken off. -/
inductive Ending (ε α : Type) where
  | value (result : α)
  | error (cause : ε)
  | broken
  deriving Repr, BEq, DecidableEq

namespace Ending

variable {ε ε' α β : Type}

def map (change : α → β) : Ending ε α → Ending ε β
  | .value result => .value (change result)
  | .error cause => .error cause
  | .broken => .broken

def mapError (change : ε → ε') : Ending ε α → Ending ε' α
  | .value result => .value result
  | .error cause => .error (change cause)
  | .broken => .broken

/-- Go on from a value; an error or a break stays. -/
def bind (first : Ending ε α) (next : α → Ending ε β) : Ending ε β :=
  match first with
  | .value result => next result
  | .error cause => .error cause
  | .broken => .broken

/-- The ending of a computation that is never broken off. -/
def ofExcept : Except ε α → Ending ε α
  | .ok result => .value result
  | .error cause => .error cause

end Ending

/-- A computation over a state: its ending, and the state that it leaves in every case. -/
def Effect (ε σ α : Type) : Type := σ → Ending ε α × σ

namespace Effect

variable {ε ε' σ τ α β : Type}

/-- The effect that changes nothing and ends with a value. -/
protected def pure (result : α) : Effect ε σ α := fun state => (.value result, state)

/-- One effect after another; the second starts in the state that the first leaves, and is skipped
unless the first ends with a value. -/
protected def bind (first : Effect ε σ α) (next : α → Effect ε σ β) : Effect ε σ β := fun state =>
  match first state with
  | (.value result, after) => next result after
  | (.error cause, after) => (.error cause, after)
  | (.broken, after) => (.broken, after)

/-- Effects one after the other: the second sees what the first left, and is not reached when the
first ends without a value. -/
instance : Monad (Effect ε σ) where
  pure := Effect.pure
  bind := Effect.bind

def fail (cause : ε) : Effect ε σ α := fun state => (.error cause, state)

/-- The effect with a given ending that leaves the state alone. -/
def ending (result : Ending ε α) : Effect ε σ α := fun state => (result, state)

/-- The effect that only looks at the state. -/
def reading (view : σ → α) : Effect ε σ α := fun state => (.value (view state), state)

def modify (change : σ → σ) : Effect ε σ Unit := fun state => (.value (), change state)

/-- Fail unless a condition holds. -/
def ensure (condition : Bool) (otherwise : ε) : Effect ε σ Unit :=
  if condition then Effect.pure () else fail otherwise

/-- The content of an option, or an error when there is none. -/
def require (content : Option α) (otherwise : ε) : Effect ε σ α :=
  match content with
  | some result => Effect.pure result
  | none => fail otherwise

/-- Replace an error by a value; a break is not caught. -/
def recover (attempt : Effect ε σ α) (instead : ε → α) : Effect ε σ α := fun state =>
  match attempt state with
  | (.error cause, after) => (.value (instead cause), after)
  | other => other

def mapError (change : ε → ε') (attempt : Effect ε σ α) : Effect ε' σ α := fun state =>
  ((attempt state).1.mapError change, (attempt state).2)

def onFirst (part : Effect ε σ α) : Effect ε (σ × τ) α := fun state =>
  ((part state.1).1, (part state.1).2, state.2)

def onSecond (part : Effect ε τ α) : Effect ε (σ × τ) α := fun state =>
  ((part state.2).1, state.1, (part state.2).2)

/-- An effect for every element in turn, the first error or break stopping the rest. -/
def forEach (step : α → Effect ε σ β) : List α → Effect ε σ (List β)
  | [] => Effect.pure []
  | first :: rest => Effect.bind (step first) fun result =>
      Effect.bind (forEach step rest) fun results => Effect.pure (result :: results)

end Effect

end AccessControl

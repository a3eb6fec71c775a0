/-
**Sessions with a database: statements go out, outcomes come back.**

* `Statement` — a text and the values bound to its places.
* `Outcome` — what the server makes of a statement: rows, a count, or a refusal with a code.
* `Session` — the outcomes that the server will give, in order, and the statements sent so far. The
  marks of a transaction take an outcome only when the next one is meant for them; else they
  succeed.
* `Session.rows`, `Session.one`, `Session.affected` — sending a statement and using its outcome,
  what is refused becoming an error of the tables.
-/

import AccessControl.Effect
import AccessControl.Error

namespace AccessControl.Sql

/-- A value bound to a place of a statement. -/
inductive Parameter where
  | null
  | integer (value : Int)
  | boolean (value : Bool)
  | text (value : String)
  deriving Repr, DecidableEq

/-- A text that may be missing. -/
def Parameter.optionalText : Option String → Parameter
  | some value => .text value
  | none => .null

/-- A number that may be missing. -/
def Parameter.optionalId : Option Id → Parameter
  | some value => .integer value
  | none => .null

/-- A statement with the values bound to its places. -/
structure Statement where
  text : String
  parameters : List Parameter := []
  deriving Repr, DecidableEq

/-- A value in a row, by the type of its column. -/
inductive Cell where
  | null
  | bigint (value : Int)
  | integer (value : Int)
  | double (value : Float)
  | boolean (value : Bool)
  | text (value : String)
  | time
  deriving Repr

/-- A row: its columns with their values. -/
abbrev Row : Type := List (String × Cell)

/-- A refusal of the server. -/
structure Refusal where
  code : String
  message : String
  constraint : Option String := none
  deriving Repr, DecidableEq

/-- What the server makes of a statement. -/
inductive Outcome where
  | rows (rows : List Row)
  | affected (count : Nat)
  | refused (refusal : Refusal)
  deriving Repr

/-- The two ends of a transaction. -/
inductive Mark where
  | start
  | commit
  deriving Repr, DecidableEq

/-- An outcome that is to come, perhaps meant for the end of a transaction. -/
structure Reply where
  mark : Option Mark := none
  outcome : Outcome
  deriving Repr

/-- The outcomes to come, the one that is given when there are none left, and the statements
sent. -/
structure Session where
  replies : List Reply
  otherwise : Outcome
  sent : List Statement
  deriving Repr

/-- The code of a value that must be unique and is not. -/
def uniqueViolation : String := "23505"

/-- The code of a reference that points nowhere. -/
def referenceViolation : String := "23503"

/-- What a violated rule of the tables means for a statement: nothing special, that what it writes
refers to something missing, or that what it removes is still referred to. -/
inductive Reading where
  | plain
  | writing
  | removing
  deriving Repr, DecidableEq

def errorOf (context : String) (reading : Reading) (refusal : Refusal) : Error :=
  if reading ≠ .plain ∧ refusal.code = uniqueViolation then .duplicate context refusal.message
  else if refusal.code = referenceViolation then
    match reading with
    | .plain => .statement context (some refusal.message)
    | .writing => .missingReference context refusal.constraint
    | .removing => .stillReferenced context refusal.constraint
  else .statement context (some refusal.message)

namespace Session

abbrev Exchange (α : Type) : Type := Effect Error Session α

def send (statement : Statement) : Exchange Outcome := fun session =>
  match session.replies with
  | reply :: rest =>
    (.value reply.outcome, { session with replies := rest, sent := session.sent ++ [statement] })
  | [] => (.value session.otherwise, { session with sent := session.sent ++ [statement] })

/-- Send the mark of a transaction, with the outcome meant for it if there is one. -/
def sendMark (mark : Mark) (statement : Statement) : Exchange Outcome := fun session =>
  match session.replies with
  | reply :: rest =>
    if reply.mark = some mark then
      (.value reply.outcome, { session with replies := rest, sent := session.sent ++ [statement] })
    else (.value (.affected 0), { session with sent := session.sent ++ [statement] })
  | [] => (.value (.affected 0), { session with sent := session.sent ++ [statement] })

/-- An outcome that must not be a refusal. -/
def accepted (context : String) (reading : Reading) : Outcome → Exchange (List Row × Nat)
  | .rows rows => pure (rows, rows.length)
  | .affected count => pure ([], count)
  | .refused refusal => Effect.fail (errorOf context reading refusal)

def start : Exchange Unit := do
  let _ ← accepted "Failed to begin transaction" .plain (← sendMark .start ⟨"BEGIN", []⟩)

/-- Make what a transaction did last. -/
def commit : Exchange Unit := do
  let _ ← accepted "Failed to commit" .plain (← sendMark .commit ⟨"COMMIT", []⟩)

def rows (context : String) (reading : Reading) (statement : Statement) : Exchange (List Row) := do
  let (rows, _) ← accepted context reading (← send statement)
  pure rows

/-- The number of rows that a statement was about. -/
def affected (context : String) (reading : Reading) (statement : Statement) : Exchange Nat := do
  let (_, count) ← accepted context reading (← send statement)
  pure count

def execute (context : String) (reading : Reading) (statement : Statement) : Exchange Unit := do
  let _ ← affected context reading statement

/-- The first row of a statement, if it has one. -/
def first (context : String) (reading : Reading) (statement : Statement) :
    Exchange (Option Row) := do
  let rows ← rows context reading statement
  pure rows.head?

/-- The first row of a statement, which must have one. -/
def one (context : String) (reading : Reading) (statement : Statement) : Exchange Row := do
  Effect.require (← first context reading statement) (.statement context none)

/-- The outcome of reading a row. -/
def checked {α : Type} (outcome : Checked α) : Exchange α := Effect.ending (.ofExcept outcome)

end Session

end AccessControl.Sql

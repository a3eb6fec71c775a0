/-
**Records read from JSON.**

* `Field` — a named field, and what its absence means: an error, `null`, or its default.
* `Record.read` — the fields of a value in their declared order. An object may carry other members,
  but no declared one twice; an array holds the fields themselves, and only fields with a default
  may be missing at its end.
* `Source.text?`, `Source.integer?`, … — the contents of a field.
-/

import AccessControl.Json.Source

namespace AccessControl.Json

/-- What it means that a field is absent. -/
inductive Absence where
  | refused
  | null
  | default
  deriving Repr, DecidableEq

structure Field where
  name : String
  absence : Absence := .refused
  deriving Repr, DecidableEq

namespace Record

/-- The keys of an object as texts. -/
def namedMembers : List (List Piece × Source) → Option (List (String × Source))
  | [] => some []
  | (key, value) :: rest =>
    match pieceString key, namedMembers rest with
    | some name, some members => some ((name, value) :: members)
    | _, _ => none

/-- A field among the members of an object: there once, or absent if its absence is allowed. -/
def ofMembers (members : List (String × Source)) (field : Field) : Option (Option Source) :=
  match members.filter fun member => member.1 == field.name with
  | [] => if field.absence = .refused then none else some none
  | [member] => some (some member.2)
  | _ => none

/-- The fields from the items of an array, which they use up. -/
def ofItems : List Field → List Source → Option (List (Option Source))
  | [], [] => some []
  | [], _ :: _ => none
  | field :: fields, [] =>
    if field.absence = .default then (ofItems fields []).map (none :: ·) else none
  | _ :: fields, item :: items => (ofItems fields items).map (some item :: ·)

/-- The contents of the declared fields, in their order; `none` where a field is absent. -/
def read (fields : List Field) : Source → Option (List (Option Source))
  | .object members => (namedMembers members).bind fun named => fields.mapM (ofMembers named)
  | .array items => ofItems fields items
  | _ => none

end Record

namespace Source

def text? : Source → Option String
  | .string pieces => pieceString pieces
  | _ => none

def bool? : Source → Option Bool
  | .bool value => some value
  | _ => none

/-- An integer within limits, written without point and exponent. -/
def integer? (low high : Int) : Source → Option Int
  | .number written =>
    match written.toInt? with
    | some n => if low ≤ n ∧ n ≤ high then some n else none
    | none => none
  | _ => none

def id? : Source → Option Int := integer? Word.leastInt64 Word.greatestInt64

/-- A natural number up to a limit. -/
def count? (high : Nat) (source : Source) : Option Nat := (source.integer? 0 high).map Int.toNat

/-- A value, or `null` in its place. -/
def nullable? {α : Type} (read : Source → Option α) : Source → Option (Option α)
  | .null => some none
  | source => (read source).map some

/-- A tag: its name, or an object with the name as the only key and `null` under it. -/
def tag? : Source → Option String
  | .string pieces => pieceString pieces
  | .object [(key, .null)] => pieceString key
  | _ => none

end Source

namespace Record

variable {α : Type}

def required (read : Source → Option α) : Option Source → Option α
  | some source => read source
  | none => none

/-- The content of a field that may be absent or `null`. -/
def optional (read : Source → Option α) : Option Source → Option (Option α)
  | some source => source.nullable? read
  | none => some none

/-- The content of a field with a default. -/
def withDefault (read : Source → Option α) (standard : α) : Option Source → Option α
  | some source => read source
  | none => some standard

end Record

end AccessControl.Json

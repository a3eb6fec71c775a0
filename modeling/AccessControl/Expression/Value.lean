/-
**Values of expressions.**

* `Key`, `Value` — what maps are keyed by, and what expressions come to. A map carries its keys in
  increasing order, each once. A list or a map also carries its `Origin`.
* `Visits` — the order in which the keys of a map are visited, which is not that of its entries:
  each map of an evaluation has an order of its own, and keeps it.
* `Value.equal` — numbers by their number, all else within its type; never an error.
* `Value.compare?` — the order, where there is one.
* `Value.truth` — what counts as true.
* `Value.ofDocument` — the value that stands for a JSON document at a place.
-/

import AccessControl.Expression.Literal
import AccessControl.Json.Document
import AccessControl.Time.Instant

namespace AccessControl.Expression

/-- A key of a map. -/
inductive Key where
  | int (value : Int64)
  | uint (value : UInt64)
  | bool (value : Bool)
  | string (value : String)
  deriving Repr, DecidableEq

namespace Key

/-- The order of keys: integers, unsigned integers, booleans, strings. -/
def less : Key → Key → Bool
  | .int a, .int b => decide (a < b)
  | .int _, _ => true
  | .uint _, .int _ => false
  | .uint a, .uint b => decide (a < b)
  | .uint _, _ => true
  | .bool _, .int _ => false
  | .bool _, .uint _ => false
  | .bool a, .bool b => !a && b
  | .bool _, .string _ => true
  | .string a, .string b => decide (a < b)
  | .string _, _ => false

instance : LT Key := ⟨fun first second => less first second = true⟩

instance : DecidableLT Key := fun first second =>
  inferInstanceAs (Decidable (less first second = true))

end Key

/-- Where a list or a map is from: it was given at some place among the facts, or made in an
evaluation under a number, or it was just made and has no number yet. -/
inductive Origin where
  | given (place : List Nat)
  | made (number : Nat)
  | new
  deriving Repr, DecidableEq

/-- For every map of an evaluation the order in which its keys are visited. -/
abbrev Visits : Type := Origin → Shuffle Key

/-- Every map is visited in the order of its keys. -/
def Visits.ordered : Visits := fun _ => .kept

/-- Whether two lists or maps from these origins are one and the same. -/
def Origin.isSame : Origin → Origin → Bool
  | .made number, .made other => number == other
  | _, _ => false

/-- A value. A function value remembers what it was selected from. -/
inductive Value where
  | null
  | bool (value : Bool)
  | int (value : Int64)
  | uint (value : UInt64)
  | double (value : Float)
  | string (value : String)
  | bytes (value : List UInt8)
  | list (origin : Origin) (items : List Value)
  | map (origin : Origin) (entries : List (Key × Value))
  | duration (span : Time.Span)
  | timestamp (instant : Time.Instant)
  | function (name : String) (target : Value)
  deriving Repr

def Key.value : Key → Value
  | .int value => .int value
  | .uint value => .uint value
  | .bool value => .bool value
  | .string value => .string value

namespace Value

def ofAtom : Atom → Value
  | .null => .null
  | .bool value => .bool value
  | .int value => .int value
  | .double value => .double value
  | .string value => .string value
  | .bytes value => .bytes value

/-- The key that a value is, if it can be one. -/
def key? : Value → Option Key
  | .int value => some (.int value)
  | .uint value => some (.uint value)
  | .bool value => some (.bool value)
  | .string value => some (.string value)
  | _ => none

/-! ### Equality and order -/

mutual

/-- Whether two values are equal. An integer is compared with a double as the double nearest to it,
with another integer exactly; keys of maps are equal only within their type. A list or a map that
was made is equal to itself, even if it holds what differs from itself. -/
def equal : Value → Value → Bool
  | .null, .null => true
  | .bool a, .bool b => a == b
  | .int a, .int b => a == b
  | .int a, .uint b => a.toInt == b.toNat
  | .int a, .double b => a.toFloat == b
  | .uint a, .int b => a.toNat == b.toInt
  | .uint a, .uint b => a == b
  | .uint a, .double b => a.toFloat == b
  | .double a, .int b => a == b.toFloat
  | .double a, .uint b => a == b.toFloat
  | .double a, .double b => a == b
  | .string a, .string b => a == b
  | .bytes a, .bytes b => a == b
  | .list origin a, .list other b => origin.isSame other || equalItems a b
  | .map origin a, .map other b => origin.isSame other || equalEntries a b
  | .duration a, .duration b => a == b
  | .timestamp a, .timestamp b => a.compare b == .eq
  | .function name target, .function other another => name == other && equal target another
  | _, _ => false

def equalItems : List Value → List Value → Bool
  | [], [] => true
  | a :: first, b :: second => equal a b && equalItems first second
  | _, _ => false

/-- Whether two maps have the same keys with equal values. -/
def equalEntries : List (Key × Value) → List (Key × Value) → Bool
  | [], [] => true
  | (key, a) :: first, (other, b) :: second =>
    key == other && equal a b && equalEntries first second
  | _, _ => false

end

/-- Two doubles in their order, if both are numbers. -/
def compareDoubles (a b : Float) : Option Ordering :=
  if a < b then some .lt
  else if b < a then some .gt
  else if a == b then some .eq
  else none

/-- Two values in their order, if they have one. -/
def compare? : Value → Value → Option Ordering
  | .null, .null => some .eq
  | .bool a, .bool b => some (compare a b)
  | .int a, .int b => some (compare a b)
  | .int a, .uint b => some (compare a.toInt b.toNat)
  | .int a, .double b => compareDoubles a.toFloat b
  | .uint a, .int b => some (compare (a.toNat : Int) b.toInt)
  | .uint a, .uint b => some (compare a b)
  | .uint a, .double b => compareDoubles a.toFloat b
  | .double a, .int b => compareDoubles a b.toFloat
  | .double a, .uint b => compareDoubles a b.toFloat
  | .double a, .double b => compareDoubles a b
  | .string a, .string b => some (compare a b)
  | .duration a, .duration b => some (compare a b)
  | .timestamp a, .timestamp b => some (a.compare b)
  | _, _ => none

/-- Whether a value counts as true. Times count only as far as their nanoseconds fit 64 bits. -/
def truth : Value → Bool
  | .null => false
  | .bool value => value
  | .int value => value != 0
  | .uint value => value != 0
  | .double value => value != 0
  | .string value => !value.isEmpty
  | .bytes value => !value.isEmpty
  | .list _ items => !items.isEmpty
  | .map _ entries => !entries.isEmpty
  | .duration span => span != 0 && (Word.int64? span).isSome
  | .timestamp instant => instant.afterEpoch
  | .function .. => false

def isAmong (value : Value) (items : List Value) : Bool := items.any (equal value)

/-! ### Values of documents -/

def ofNumber : Json.Number → Value
  | .integer value => .int value
  | .large value _ => .uint value
  | .real value => .double value

mutual

/-- The value of a document at a place; what is inside has the place of its index within that. -/
def ofDocument (place : List Nat) : Json.Document → Value
  | .null => .null
  | .bool value => .bool value
  | .number value => ofNumber value
  | .string value => .string value
  | .array items => .list (.given place) (ofDocuments place 0 items)
  | .object members => .map (.given place) (ofMembers place 0 members)

def ofDocuments (place : List Nat) (index : Nat) : List Json.Document → List Value
  | [] => []
  | document :: rest =>
    ofDocument (index :: place) document :: ofDocuments place (index + 1) rest

/-- The entries of an object, whose keys become strings. -/
def ofMembers (place : List Nat) (index : Nat) :
    List (String × Json.Document) → List (Key × Value)
  | [] => []
  | (key, document) :: rest =>
    (.string key, ofDocument (index :: place) document) :: ofMembers place (index + 1) rest

end

end Value

end AccessControl.Expression

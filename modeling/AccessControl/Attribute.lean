/-
**Attributes: typed facts about users, resources and the environment of a request.**

* `AttributeValue` — a boolean, an integer of 64 bits, a double or a text; values of different types
  are never equal.
* `AttributeValue.encode`, `AttributeValue.decode` — a value as text, its type apart.
* `AttributeValue.document`, `AttributeValue.ofSource?` — a value as JSON, its type shown by its
  form.
* `AttributeMap` — values under keys, a key holding the value last put there.
-/

import AccessControl.Error
import AccessControl.Json.Record

namespace AccessControl

/-- A value of an attribute. -/
inductive AttributeValue where
  | boolean (value : Bool)
  | integer (value : Int64)
  | float (value : Float)
  | string (value : String)
  deriving Repr, BEq

namespace AttributeValue

def type : AttributeValue → ValueType
  | .boolean _ => .boolean
  | .integer _ => .integer
  | .float _ => .float
  | .string _ => .string

/-- The text that a value is, if it is one. -/
def text? : AttributeValue → Option String
  | .string value => some value
  | _ => none

/-! ### Text -/

def encode : AttributeValue → String
  | .boolean value => if value then "true" else "false"
  | .integer value => Decimal.ofInt value.toInt
  | .float value => Decimal.positional value
  | .string value => value

/-- The value of a type that a text is, if it is one. -/
def ofText? (type : ValueType) (text : String) : Option AttributeValue :=
  match type with
  | .string => some (.string text)
  | .integer =>
    (Decimal.readInt Word.leastInt64 Word.greatestInt64 text.toList).map fun n =>
      .integer (Int64.ofInt n)
  | .float => (Decimal.readFloat text.toList).map .float
  | .boolean =>
    if text = "true" then some (.boolean true)
    else if text = "false" then some (.boolean false)
    else none

def decode (type : ValueType) (text : String) : Checked AttributeValue :=
  match ofText? type text with
  | some value => .ok value
  | none => .error (.wrongValue text type)

/-! ### JSON -/

/-- A value as JSON; a double that is no finite number is `null`. -/
def document : AttributeValue → Json.Document
  | .boolean value => .bool value
  | .integer value => .number (.integer value)
  | .float value => if value.isFinite then .number (.real value) else .null
  | .string value => .string value

/-- The value of a number: an integer where it fits, else a double. -/
def ofNumber : Json.Number → AttributeValue
  | .integer value => .integer value
  | .large value _ => .float value.toFloat
  | .real value => .float value

/-- The value that a document is, if it is one. -/
def ofDocument? : Json.Document → Option AttributeValue
  | .bool value => some (.boolean value)
  | .number value => some (ofNumber value)
  | .string value => some (.string value)
  | _ => none

/-- The value that is written, if it is one. -/
def ofSource? : Json.Source → Option AttributeValue
  | .bool value => some (.boolean value)
  | .number value => value.value?.map ofNumber
  | .string pieces => (Json.pieceString pieces).map .string
  | _ => none

end AttributeValue

abbrev AttributeMap : Type := Dictionary AttributeValue

namespace AttributeMap

/-- Entries as JSON, in the order in which they come. -/
def written (entries : List (String × AttributeValue)) : Json.Document :=
  .object (entries.map fun entry => (entry.1, entry.2.document))

/-- A map as JSON, in the order of its keys. -/
def document (attributes : AttributeMap) : Json.Document := written attributes.toList

/-- Put values in under keys one after the other, all of which must be readable. -/
def fill {κ ν : Type} (readKey : κ → Option String) (readValue : ν → Option AttributeValue) :
    List (κ × ν) → AttributeMap → Option AttributeMap
  | [], filled => some filled
  | (key, value) :: rest, filled =>
    match readKey key, readValue value with
    | some name, some content => fill readKey readValue rest (filled.insert name content)
    | _, _ => none

/-- The map that a document is, if it is one. -/
def ofDocument? : Json.Document → Option AttributeMap
  | .object members => fill some AttributeValue.ofDocument? members .empty
  | _ => none

/-- The map that is written, if it is one; of a repeated key the last value counts. -/
def ofSource? : Json.Source → Option AttributeMap
  | .object members => fill Json.pieceString AttributeValue.ofSource? members .empty
  | _ => none

/-- The map that a JSON text is, if it is one. -/
def ofText? (text : String) : Option AttributeMap := (Json.Source.ofText text).bind ofSource?

/-- Whether every key of one map is in another with an equal value. -/
def requiredIn (required actual : AttributeMap) : Bool :=
  required.toList.all fun entry => (actual.find? entry.1).any (· == entry.2)

end AttributeMap

end AccessControl

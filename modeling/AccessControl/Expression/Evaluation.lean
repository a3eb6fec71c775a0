/-
**The value of an expression.**

* `Environment` — the names that stand for values; of two the one bound last counts.
* `Term.evaluate` — the value of a term, operands from left to right. A disjunction that begins
  true, and a conditional, leave a part unevaluated; a conjunction never does. A call of a function
  that does not exist is refused before its receiver is looked at.
-/

import AccessControl.Expression.Function

namespace AccessControl.Expression

/-- The names that stand for values, the one bound last in front. -/
abbrev Environment : Type := List (String × Value)

def Environment.find (environment : Environment) (name : String) : Outcome Value :=
  orRefuse (environment.lookup name) .undeclaredReference

namespace Value

/-- The value selected by a name: under that key of a map; else the function of that name, if there
is one, remembering its receiver. -/
def select (value : Value) (field : String) : Outcome Value :=
  let member := match value with
    | .map _ entries => Keyed.find? (.string field) entries
    | _ => none
  match member with
  | some found => .ok found
  | none =>
    if (Builtin.ofName? field).isSome then .ok (.function field value) else refuse .noSuchKey

/-- The value under a key of a map; an integer also finds the other kind of integer. -/
def underKey (entries : List (Key × Value)) (key : Key) : Value :=
  let other : Option Key := match key with
    | .int n => (Word.uint64? n.toInt).map .uint
    | .uint n => (Word.int64? n.toNat).map .int
    | _ => none
  match Keyed.find? key entries, other.bind fun key => Keyed.find? key entries with
  | some value, _ => value
  | none, some value => value
  | none, none => .null

/-- The character of one byte at a place counted in bytes. -/
def charAtByte : List Char → Nat → Option Char
  | [], _ => none
  | c :: _, 0 => if c.utf8Size = 1 then some c else none
  | c :: rest, place + 1 =>
    if place + 1 < c.utf8Size then none else charAtByte rest (place + 1 - c.utf8Size)

/-- The value at an index; `null` where there is nothing. -/
def index : Value → Value → Outcome Value
  | .list _ items, .int n =>
    .ok (if n < 0 then .null else items[n.toInt.toNat]?.getD .null)
  | .list .., _ => refuse .unsupportedListIndex
  | .string text, .int n =>
    if n = Int64.maxValue then breakOff .addOverflow
    else if n < 0 then .ok .null
    else .ok (match charAtByte text.toList n.toInt.toNat with
      | some c => .string (String.singleton c)
      | none => .null)
  | .map _ entries, key =>
    match key.key? with
    | some key => .ok (underKey entries key)
    | none => refuse .unsupportedMapIndex
  | _, _ => refuse .unsupportedIndex

end Value

def keyOf (value : Value) : Outcome Key := orRefuse value.key? .unsupportedKeyType

/-- The name that a term is, if it is one. -/
def Term.name? : Term → Option String
  | .name text => some text
  | _ => none

mutual

/-- The value of a term where some names stand for values. -/
def Term.evaluate (environment : Environment) : Term → Making Value
  | .atom value => pure (.ofAtom value)
  | .name text => .ofOutcome (environment.find text)
  | .list items => do Value.anew (.list .new (← evaluateItems environment items))
  | .map entries => do Value.anew (.map .new (← evaluateEntries environment entries []))
  | .select operand field => do
    let value ← operand.evaluate environment
    value.select field
  | .index operand key => do
    let value ← operand.evaluate environment
    let place ← key.evaluate environment
    value.index place
  | .construct operand => do
    let _ ← operand.evaluate environment
    Making.ofOutcome (refuse .unsupportedFieldsConstruction)
  | .call function arguments =>
    match Builtin.ofName? function with
    | some builtin => builtin.apply ⟨none, argumentsOf environment arguments⟩
    | none => .ofOutcome (refuse .undeclaredReference)
  | .callOn target function arguments =>
    match Builtin.ofName? function with
    | some builtin => do
      let receiver ← target.evaluate environment
      builtin.apply ⟨some receiver, argumentsOf environment arguments⟩
    | none => .ofOutcome (refuse .undeclaredReference)
  | .unary operator operand => do
    let value ← operand.evaluate environment
    operator.apply value
  | .binary operator left right => do
    let first ← left.evaluate environment
    let second ← right.evaluate environment
    Value.anew (← operator.apply first second)
  | .relation relation left right => do
    let first ← left.evaluate environment
    let second ← right.evaluate environment
    return .bool (← relation.holds first second)
  | .conjunction left right => do
    let first ← left.evaluate environment
    let second ← right.evaluate environment
    return .bool (first.truth && second.truth)
  | .disjunction left right => do
    let first ← left.evaluate environment
    if first.truth then pure first else right.evaluate environment
  | .conditional condition whenTrue whenFalse => do
    let value ← condition.evaluate environment
    if value.truth then whenTrue.evaluate environment else whenFalse.evaluate environment

def evaluateItems (environment : Environment) : List Term → Making (List Value)
  | [] => pure []
  | item :: rest => do
    let value ← item.evaluate environment
    let values ← evaluateItems environment rest
    pure (value :: values)

/-- The entries of a map put in one after the other, each key before its value. -/
def evaluateEntries (environment : Environment) :
    List (Term × Term) → List (Key × Value) → Making (List (Key × Value))
  | [], filled => pure filled
  | (key, content) :: rest, filled => do
    let place ← keyOf (← key.evaluate environment)
    let value ← content.evaluate environment
    evaluateEntries environment rest (Keyed.insert place value filled)

/-- The arguments of a call, not yet evaluated. -/
def argumentsOf (environment : Environment) : List Term → List Argument
  | [] => []
  | argument :: rest =>
    { name := argument.name?
      value := fun _ => argument.evaluate environment
      valueWith := fun name value => argument.evaluate ((name, value) :: environment) } ::
      argumentsOf environment rest

end

end AccessControl.Expression

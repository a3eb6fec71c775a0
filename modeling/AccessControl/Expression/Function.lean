/-
**The functions of expressions.**

* `Argument` — an argument that is evaluated only when a function asks for it, perhaps with a name
  bound to a value.
* `Call` — the receiver and the arguments of a call. A call without a receiver takes its first
  argument for one.
* `Builtin` — the functions; `Builtin.apply` — the value of a call.
-/

import AccessControl.Expression.Arithmetic
import AccessControl.Expression.Making
import AccessControl.Pattern.Grammar
import AccessControl.Time.Rfc3339
import AccessControl.Time.SpanText

namespace AccessControl.Expression

/-- An argument not yet evaluated: the name that it is, if it is one, its value, and its value where
a name stands for a given value. -/
structure Argument where
  name : Option String
  value : Unit → Making Value
  valueWith : String → Value → Making Value

/-- A call: the value before the dot, if there is one, and the arguments. -/
structure Call where
  target : Option Value
  arguments : List Argument

namespace Call

def argument (call : Call) (place : Nat) : Making Value :=
  match call.arguments[place]? with
  | some argument => argument.value ()
  | none => .ofOutcome (refuse .invalidArgumentCount)

/-- The receiver, and the arguments after it. Whatever is refused in an argument taken for the
receiver counts as its absence; a fault stays. -/
def receiver (call : Call) : Making (Value × List Argument) :=
  match call.target, call.arguments with
  | some value, arguments => pure (value, arguments)
  | none, first :: others => do
    let value ← (first.value ()).catchFailure fun failure =>
      .ofOutcome (match failure with
        | .refusal _ => refuse .missingArgumentOrTarget
        | .fault kind => breakOff kind)
    pure (value, others)
  | none, [] => .ofOutcome (refuse .missingArgumentOrTarget)

def text : Value → Outcome String
  | .string value => .ok value
  | _ => refuse .unexpectedType

/-- The receiver and the first argument after it. -/
def withOne (call : Call) : Making (Value × Value) := do
  let (receiver, others) ← call.receiver
  let value ← Call.argument ⟨none, others⟩ 0
  pure (receiver, value)

/-- The receiver and the first argument after it, which must both be texts. -/
def twoTexts (call : Call) : Making (String × String) := do
  let (receiver, others) ← call.receiver
  let first ← text receiver
  let second ← text (← Call.argument ⟨none, others⟩ 0)
  pure (first, second)

/-- A receiver, the name that runs over its items, and the argument evaluated for each of them. -/
def overItems (call : Call) : Making (Value × (Value → Making Value)) := do
  let (receiver, others) ← call.receiver
  match others with
  | [] => .ofOutcome (breakOff .other)
  | binder :: rest =>
    let name ← orRefuse binder.name .unexpectedType
    match rest with
    | [] => .ofOutcome (breakOff .other)
    | body :: _ => pure (receiver, body.valueWith name)

end Call

/-- A function. -/
inductive Builtin where
  | size
  | contains
  | startsWith
  | endsWith
  | matches
  | has
  | map
  | filter
  | all
  | exists
  | existsOne
  | max
  | string
  | int
  | uint
  | double
  | bytes
  | duration
  | timestamp
  deriving Repr, DecidableEq

namespace Builtin

def ofName? (name : String) : Option Builtin :=
  match name with
  | "size" => some .size
  | "contains" => some .contains
  | "startsWith" => some .startsWith
  | "endsWith" => some .endsWith
  | "matches" => some .matches
  | "has" => some .has
  | "map" => some .map
  | "filter" => some .filter
  | "all" => some .all
  | "exists" => some .exists
  | "exists_one" => some .existsOne
  | "max" => some .max
  | "string" => some .string
  | "int" => some .int
  | "uint" => some .uint
  | "double" => some .double
  | "bytes" => some .bytes
  | "duration" => some .duration
  | "timestamp" => some .timestamp
  | _ => none

/-! ### Collections and texts -/

/-- The size of a collection; of a text, its bytes. -/
def sizeOf : Value → Outcome Value
  | .list _ items => .ok (.int (Int64.ofNat items.length))
  | .map _ entries => .ok (.int (Int64.ofNat entries.length))
  | .string text => .ok (.int (Int64.ofNat text.utf8ByteSize))
  | .bytes content => .ok (.int (Int64.ofNat content.length))
  | _ => refuse .functionError

/-- Whether a value contains another. Asking bytes for no bytes is a fault. -/
def doesContain : Value → Value → Outcome Bool
  | .list _ items, value => .ok (value.isAmong items)
  | .map _ entries, value =>
    match value.key? with
    | some key => .ok (Keyed.find? key entries).isSome
    | none => refuse .unsupportedKeyType
  | .string text, .string part => .ok (Text.isInfix part.toList text.toList)
  | .bytes _, .bytes [] => breakOff .other
  | .bytes content, .bytes part => .ok (Text.isInfix part content)
  | _, _ => .ok false

def doesMatch (text pattern : String) : Outcome Bool :=
  orRefuse (Pattern.occurs? pattern text) .functionError

/-- Whether an argument has a value; the absence of a key is no error here. -/
def hasValue (making : Making Value) : Making Bool :=
  (do
    let _ ← making
    pure true : Making Bool).catchFailure fun failure =>
      .ofOutcome (if failure = .refusal .noSuchKey then .ok false else .error failure)

def listItems : Value → Outcome (List Value)
  | .list _ items => .ok items
  | _ => refuse .unexpectedType

/-- The items of a list, or the keys of a map in the order in which they are visited. -/
def itemsOrKeys : Value → Making (List Value)
  | .list _ items => pure items
  | .map origin entries => Value.keysOf origin entries
  | _ => .ofOutcome (refuse .unexpectedType)

def isTrue : Value → Bool
  | .bool true => true
  | _ => false

def isFalse : Value → Bool
  | .bool false => true
  | _ => false

def eachItem (step : Value → Making Value) : List Value → Making (List Value)
  | [] => pure []
  | item :: rest => do
    let result ← step item
    let results ← eachItem step rest
    pure (result :: results)

/-- The items whose result is `true`. -/
def keepTrue (step : Value → Making Value) : List Value → Making (List Value)
  | [] => pure []
  | item :: rest => do
    let result ← step item
    let kept ← keepTrue step rest
    pure (if isTrue result then item :: kept else kept)

/-- Whether no item has the result `false`; the first that has ends it. -/
def noneFalse (step : Value → Making Value) : List Value → Making Bool
  | [] => pure true
  | item :: rest => do
    let result ← step item
    if isFalse result then pure false else noneFalse step rest

/-- Whether some item has the result `true`; the first that has ends it. -/
def someTrue (step : Value → Making Value) : List Value → Making Bool
  | [] => pure false
  | item :: rest => do
    let result ← step item
    if isTrue result then pure true else someTrue step rest

/-- Whether exactly one item has the result `true`, given whether there was one before; the second
that has ends it. -/
def oneTrue (step : Value → Making Value) : Bool → List Value → Making Bool
  | found, [] => pure found
  | found, item :: rest => do
    let result ← step item
    match isTrue result, found with
    | true, true => pure false
    | true, false => oneTrue step true rest
    | false, _ => oneTrue step found rest

/-- The largest of some values; of equal ones the last. -/
def largest : Value → List Value → Outcome Value
  | greatest, [] => .ok greatest
  | greatest, value :: rest => do
    let order ← orRefuse (greatest.compare? value) .valuesNotComparable
    largest (if order = .gt then greatest else value) rest

/-- The largest of the arguments, or of the items of the only one. -/
def maximum (values : List Value) : Outcome Value :=
  let candidates := match values with
    | [.list _ items] => items
    | _ => values
  match candidates with
  | [] => .ok .null
  | first :: rest => largest first rest

/-! ### Conversions -/

def toText : Value → Outcome String
  | .string text => .ok text
  | .int n => .ok (Decimal.ofInt n.toInt)
  | .uint n => .ok (Decimal.ofNat n.toNat)
  | .double x => .ok (Decimal.positional x)
  | .bytes content => .ok (String.ofList (Text.ofUtf8Lossy content))
  | .duration span => orBreakOff span.text? .multiplyOverflow
  | .timestamp instant => .ok instant.text
  | _ => refuse .functionError

/-- A double within limits, themselves doubles; what is not a number counts as within. -/
def withinLimits (x low high : Float) : Bool := !(high < x) && !(x < low)

/-- A value as an integer with a sign; a double is cut toward zero. -/
def toInt : Value → Outcome Int64
  | .string text =>
    (orRefuse (Decimal.readInt Word.leastInt64 Word.greatestInt64 text.toList)
      .functionError).map Int64.ofInt
  | .double x =>
    if withinLimits x Int64.minValue.toFloat Int64.maxValue.toFloat then .ok x.toInt64
    else refuse .functionError
  | .int n => .ok n
  | .uint n => orRefuse (Word.int64? n.toNat) .functionError
  | _ => refuse .functionError

/-- A value as an integer without a sign; a double is cut toward zero. -/
def toUint : Value → Outcome UInt64
  | .string text =>
    (orRefuse (Decimal.readNatUpTo Word.greatestUInt64 text.toList) .functionError).map UInt64.ofNat
  | .double x =>
    if withinLimits x 0 (UInt64.ofNat Word.greatestUInt64).toFloat then .ok x.toUInt64
    else refuse .functionError
  | .int n => orRefuse (Word.uint64? n.toInt) .functionError
  | .uint n => .ok n
  | _ => refuse .functionError

def toDouble : Value → Outcome Float
  | .string text => orRefuse (Decimal.readFloat text.toList) .functionError
  | .double x => .ok x
  | .int n => .ok n.toFloat
  | .uint n => .ok n.toFloat
  | _ => refuse .functionError

/-! ### Calls -/

/-- The value of a call. Arguments are evaluated in their order, only those that the function
has. -/
def apply (function : Builtin) (call : Call) : Making Value :=
  match function with
  | .size => do sizeOf (← call.argument 0)
  | .contains => do
    let (receiver, value) ← call.withOne
    return .bool (← doesContain receiver value)
  | .startsWith => do
    let (text, part) ← call.twoTexts
    pure (.bool (part.toList.isPrefixOf text.toList))
  | .endsWith => do
    let (text, part) ← call.twoTexts
    pure (.bool (part.toList.isSuffixOf text.toList))
  | .matches => do
    let (text, pattern) ← call.twoTexts
    return .bool (← doesMatch text pattern)
  | .has => return .bool (← hasValue (call.argument 0))
  | .map => do
    let (receiver, step) ← call.overItems
    Value.anew (.list .new (← eachItem step (← listItems receiver)))
  | .filter => do
    let (receiver, step) ← call.overItems
    Value.anew (.list .new (← keepTrue step (← listItems receiver)))
  | .all => do
    let (receiver, step) ← call.overItems
    return .bool (← noneFalse step (← itemsOrKeys receiver))
  | .exists => do
    let (receiver, step) ← call.overItems
    return .bool (← someTrue step (← itemsOrKeys receiver))
  | .existsOne => do
    let (receiver, step) ← call.overItems
    return .bool (← oneTrue step false (← itemsOrKeys receiver))
  | .max => do maximum (← call.arguments.mapM fun argument => argument.value ())
  | .string => return .string (← toText (← call.receiver).1)
  | .int => return .int (← toInt (← call.receiver).1)
  | .uint => return .uint (← toUint (← call.receiver).1)
  | .double => return .double (← toDouble (← call.receiver).1)
  | .bytes => do pure (.bytes (Text.utf8 (← Call.text (← call.argument 0)).toList))
  | .duration => do
    let text ← Call.text (← call.argument 0)
    return .duration (← orRefuse (Time.Span.ofText? text) .functionError)
  | .timestamp => do
    let text ← Call.text (← call.argument 0)
    return .timestamp (← orRefuse (Time.Instant.ofText? text) .functionError)

end Builtin

end AccessControl.Expression

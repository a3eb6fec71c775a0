/-
**Operators on values.**

* `Operator.apply` — sums, differences, products, quotients, remainders; also sums of strings,
  lists, maps and spans of time. Integers of one kind stay what they are or fault; a double makes
  the other operand one.
* `UnaryOperator.apply`, `Relation.apply` — the operators in front, and the relations.
-/

import AccessControl.Expression.Failure
import AccessControl.Expression.Term
import AccessControl.Expression.Value

namespace AccessControl.Expression

/-! ### Integers -/

namespace Operator

/-- What happens when the result of an operator does not fit. -/
def overflow : Operator → Fault
  | .add => .addOverflow
  | .subtract => .subtractOverflow
  | .multiply => .multiplyOverflow
  | .divide => .divideOverflow
  | .remainder => .remainderOverflow

/-- The exact result on two integers; a quotient is cut toward zero. -/
def exact (operator : Operator) (a b : Int) : Int :=
  match operator with
  | .add => a + b
  | .subtract => a - b
  | .multiply => a * b
  | .divide => Int.tdiv a b
  | .remainder => Int.tmod a b

/-- The fault of a second operand zero, if there is one. -/
def zeroFault? : Operator → Option Fault
  | .divide => some .divideByZero
  | .remainder => some .remainderByZero
  | _ => none

/-- The result on two integers of one kind. A remainder whose quotient does not fit is a fault as
well. -/
def onIntegers {α : Type} (fit : Int → Option α) (wrap : α → Value) (operator : Operator)
    (a b : Int) : Outcome Value :=
  match operator.zeroFault?, b == 0 with
  | some fault, true => breakOff fault
  | _, _ =>
    let witness := if operator = .remainder then Operator.divide.exact a b else operator.exact a b
    match fit witness, fit (operator.exact a b) with
    | some _, some result => .ok (wrap result)
    | _, _ => breakOff operator.overflow

def onDoubles (operator : Operator) (a b : Float) : Float :=
  match operator with
  | .add => a + b
  | .subtract => a - b
  | .multiply => a * b
  | .divide => a / b
  | .remainder => Decimal.remainder a b

/-- A span within the limits, or a fault. -/
def span (n : Int) : Outcome Value := (orBreakOff (Time.Span.checked n) .other).map .duration

/-- A moved instant within the limits, or a fault. -/
def moved (instant : Time.Instant) (n : Int) : Outcome Value :=
  (orBreakOff (instant.plus n) .other).map .timestamp

/-- The result on two values that are not both numbers. -/
def onOthers : Operator → Value → Value → Outcome Value
  | .add, .string a, .string b => .ok (.string (a ++ b))
  | .add, .list _ a, .list _ b => .ok (.list .new (a ++ b))
  | .add, .map _ a, .map _ b =>
    .ok (.map .new (b.foldl (fun entries entry => Keyed.insert entry.1 entry.2 entries) a))
  | .add, .duration a, .duration b => span (a + b)
  | .add, .timestamp a, .duration b => moved a b
  | .add, .duration a, .timestamp b => moved b a
  | .subtract, .duration a, .duration b => span (a - b)
  | .subtract, .timestamp a, .duration b => moved a (-b)
  | .subtract, .timestamp a, .timestamp b => .ok (.duration (a.minus b))
  | _, _, _ => refuse .unsupportedBinaryOperator

def apply (operator : Operator) : Value → Value → Outcome Value
  | .int a, .int b => operator.onIntegers Word.int64? .int a.toInt b.toInt
  | .uint a, .uint b => operator.onIntegers Word.uint64? .uint a.toNat b.toNat
  | .double a, .double b => .ok (.double (operator.onDoubles a b))
  | .double a, .int b => .ok (.double (operator.onDoubles a b.toFloat))
  | .double a, .uint b => .ok (.double (operator.onDoubles a b.toFloat))
  | .int a, .double b => .ok (.double (operator.onDoubles a.toFloat b))
  | .uint a, .double b => .ok (.double (operator.onDoubles a.toFloat b))
  | a, b => operator.onOthers a b

end Operator

/-- The result of an operator in front. -/
def UnaryOperator.apply : UnaryOperator → Value → Outcome Value
  | .not, value => .ok (.bool (!value.truth))
  | .notNot, value => .ok (.bool value.truth)
  | .minus, .int n => (orBreakOff (Word.int64? (-n.toInt)) .negateOverflow).map .int
  | .minus, .double x => .ok (.double (-x))
  | .minusMinus, .int n => .ok (.int n)
  | .minusMinus, .uint n => .ok (.uint n)
  | .minusMinus, .double x => .ok (.double x)
  | _, _ => refuse .unsupportedUnaryOperator

namespace Relation

/-- Whether a value is within another: a part of a string, an item of a list, a key of a map. -/
def isWithin : Value → Value → Outcome Bool
  | .string part, .string text => .ok (Text.isInfix part.toList text.toList)
  | value, .list _ items => .ok (value.isAmong items)
  | value, .map _ entries =>
    .ok (match value.key? with
      | some key => (Keyed.find? key entries).isSome
      | none => false)
  | _, _ => refuse .valuesNotComparable

/-- Whether two values are ordered in one of some ways. -/
def ordered (accepted : Ordering → Bool) (a b : Value) : Outcome Bool :=
  (orRefuse (a.compare? b) .valuesNotComparable).map accepted

def holds : Relation → Value → Value → Outcome Bool
  | .less, a, b => ordered Ordering.isLT a b
  | .lessEqual, a, b => ordered Ordering.isLE a b
  | .greater, a, b => ordered Ordering.isGT a b
  | .greaterEqual, a, b => ordered Ordering.isGE a b
  | .equal, a, b => .ok (a.equal b)
  | .notEqual, a, b => .ok (!a.equal b)
  | .within, a, b => isWithin a b

end Relation

end AccessControl.Expression

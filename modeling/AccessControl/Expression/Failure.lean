/-
**Why an expression has no value.**

* `Refusal` — the evaluation found something that it does not do; an expression can ask for some of
  these.
* `Fault` — arithmetic without a result, or a broken rule of the evaluator; nothing inside an
  expression catches it.
* `Failure` — either of them.
-/

namespace AccessControl.Expression

/-- What an evaluation refuses. -/
inductive Refusal where
  | undeclaredReference
  | noSuchKey
  | missingArgumentOrTarget
  | invalidArgumentCount
  | unexpectedType
  | functionError
  | valuesNotComparable
  | unsupportedBinaryOperator
  | unsupportedUnaryOperator
  | unsupportedKeyType
  | unsupportedIndex
  | unsupportedMapIndex
  | unsupportedListIndex
  | unsupportedFieldsConstruction
  deriving Repr, DecidableEq

def Refusal.name : Refusal → String
  | .undeclaredReference => "UndeclaredReference"
  | .noSuchKey => "NoSuchKey"
  | .missingArgumentOrTarget => "MissingArgumentOrTarget"
  | .invalidArgumentCount => "InvalidArgumentCount"
  | .unexpectedType => "UnexpectedType"
  | .functionError => "FunctionError"
  | .valuesNotComparable => "ValuesNotComparable"
  | .unsupportedBinaryOperator => "UnsupportedBinaryOperator"
  | .unsupportedUnaryOperator => "UnsupportedUnaryOperator"
  | .unsupportedKeyType => "UnsupportedKeyType"
  | .unsupportedIndex => "UnsupportedIndex"
  | .unsupportedMapIndex => "UnsupportedMapIndex"
  | .unsupportedListIndex => "UnsupportedListIndex"
  | .unsupportedFieldsConstruction => "UnsupportedFieldsConstruction"

/-- What breaks an evaluation off. -/
inductive Fault where
  | addOverflow
  | subtractOverflow
  | multiplyOverflow
  | divideOverflow
  | negateOverflow
  | remainderOverflow
  | divideByZero
  | remainderByZero
  | other
  deriving Repr, DecidableEq

/-- What was attempted, where it is known. -/
def Fault.attempt? : Fault → Option String
  | .addOverflow => some "attempt to add with overflow"
  | .subtractOverflow => some "attempt to subtract with overflow"
  | .multiplyOverflow => some "attempt to multiply with overflow"
  | .divideOverflow => some "attempt to divide with overflow"
  | .negateOverflow => some "attempt to negate with overflow"
  | .remainderOverflow => some "attempt to calculate the remainder with overflow"
  | .divideByZero => some "attempt to divide by zero"
  | .remainderByZero => some "attempt to calculate the remainder with a divisor of zero"
  | .other => none

/-- Why an evaluation has no value. -/
inductive Failure where
  | refusal (reason : Refusal)
  | fault (kind : Fault)
  deriving Repr, DecidableEq

def Failure.text : Failure → String
  | .refusal reason => reason.name
  | .fault kind =>
    match kind.attempt? with
    | some attempt => "interpreter panicked: " ++ attempt
    | none => "interpreter panicked"

/-- A value, or why there is none. -/
abbrev Outcome (α : Type) : Type := Except Failure α

def refuse {α : Type} (reason : Refusal) : Outcome α := .error (.refusal reason)

def breakOff {α : Type} (kind : Fault) : Outcome α := .error (.fault kind)

def orRefuse {α : Type} (value : Option α) (reason : Refusal) : Outcome α :=
  match value with
  | some found => .ok found
  | none => refuse reason

def orBreakOff {α : Type} (value : Option α) (kind : Fault) : Outcome α :=
  match value with
  | some found => .ok found
  | none => breakOff kind

end AccessControl.Expression

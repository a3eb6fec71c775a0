/-
**Terms: expressions as trees.**

* `Term` — constants, names, lists and maps, selections, calls, operators and the conditional.
* `Operator`, `Relation`, `UnaryOperator` — the operators that evaluate their operands first.
-/

import AccessControl.Expression.Literal

namespace AccessControl.Expression

inductive Operator where
  | add
  | subtract
  | multiply
  | divide
  | remainder
  deriving Repr, DecidableEq

inductive Relation where
  | less
  | lessEqual
  | greater
  | greaterEqual
  | equal
  | notEqual
  | within
  deriving Repr, DecidableEq

/-- An operator in front of its operand, single or doubled. -/
inductive UnaryOperator where
  | not
  | notNot
  | minus
  | minusMinus
  deriving Repr, DecidableEq

/-- An expression. A construction `operand { … }` is kept without its fields, which are never
evaluated. -/
inductive Term where
  | atom (value : Atom)
  | name (text : String)
  | list (items : List Term)
  | map (entries : List (Term × Term))
  | select (operand : Term) (field : String)
  | index (operand key : Term)
  | construct (operand : Term)
  | call (function : String) (arguments : List Term)
  | callOn (target : Term) (function : String) (arguments : List Term)
  | unary (operator : UnaryOperator) (operand : Term)
  | binary (operator : Operator) (left right : Term)
  | relation (relation : Relation) (left right : Term)
  | conjunction (left right : Term)
  | disjunction (left right : Term)
  | conditional (condition whenTrue whenFalse : Term)
  deriving Repr

end AccessControl.Expression

/-
**The fewest decimal digits that read back as the same double.**

* `Interval` — the numbers that round to a double: its neighbours' midpoints, ends included exactly
  when the mantissa is even.
* `shortest` — the first grid of 1, 2, … 17 digits on which a neighbour of the double lies in the
  interval; of two hits the nearer, and of two equally near ones the one that `Tie` names.
-/

import AccessControl.Decimal.Double

namespace AccessControl.Decimal

/-- Which of two equally near digit strings is taken. -/
inductive Tie where
  | up
  | even
  deriving Repr, DecidableEq

/-- The numbers that round to a positive double, over a common denominator. -/
structure Interval where
  low : Nat
  value : Nat
  high : Nat
  denominator : Nat
  closed : Bool

/-- The interval of `mantissa · 2 ^ exponent`. Below a power of two the gap is half as wide. -/
def interval (mantissa : Nat) (exponent : Int) : Interval :=
  let narrow := mantissa = hiddenBit ∧ leastExponent < exponent
  let (unit, denominator) := scaled 2 1 4 exponent
  { low := (4 * mantissa - if narrow then 1 else 2) * unit
    value := 4 * mantissa * unit
    high := (4 * mantissa + 2) * unit
    denominator := denominator
    closed := mantissa % 2 = 0 }

namespace Interval

/-- Whether `digits · 10 ^ exponent` rounds to the double. -/
def contains (i : Interval) (digits : Nat) (exponent : Int) : Bool :=
  let (n, d) := scaled 10 digits 1 exponent
  let point := n * i.denominator
  if i.closed then decide (i.low * d ≤ point ∧ point ≤ i.high * d)
  else decide (i.low * d < point ∧ point < i.high * d)

/-- The place of the decimal point: the least power of ten above the double is `10 ^ position`. -/
def position (i : Interval) : Int :=
  let whole := i.value / i.denominator
  if 0 < whole then (Nat.toDigits 10 whole).length
  else 1 - ((Nat.toDigits 10 ((i.denominator - 1) / i.value)).length : Int)

def onGrid (i : Interval) (tie : Tie) (exponent : Int) : Option Nat :=
  let (n, d) := scaled 10 i.value i.denominator (-exponent)
  let below := n / d
  let twice := 2 * (n % d)
  let upper := match tie with
    | .up => decide (d ≤ twice)
    | .even => decide (d < twice ∨ (twice = d ∧ below % 2 = 1))
  match i.contains below exponent, i.contains (below + 1) exponent with
  | true, true => some (if upper then below + 1 else below)
  | true, false => some below
  | false, true => some (below + 1)
  | false, false => none

def search (i : Interval) (tie : Tie) : Nat → Nat → Nat × Int
  | 0, count => (i.value / i.denominator, i.position - count)
  | fuel + 1, count =>
    match i.onGrid tie (i.position - count) with
    | some digits => (digits, i.position - count)
    | none => search i tie fuel (count + 1)

end Interval

/-- Digits without their last zeros, the exponent counting them. -/
def withoutZeros : Nat → Nat → Int → Nat × Int
  | 0, digits, exponent => (digits, exponent)
  | fuel + 1, digits, exponent =>
    if digits % 10 = 0 ∧ 0 < digits then withoutZeros fuel (digits / 10) (exponent + 1)
    else (digits, exponent)

/-- The fewest digits that read back as the positive double `mantissa · 2 ^ exponent`, with their
power of ten; seventeen digits always do. -/
def shortest (tie : Tie) (mantissa : Nat) (exponent : Int) : Nat × Int :=
  let found := (interval mantissa exponent).search tie 17 1
  withoutZeros 18 found.1 found.2

end AccessControl.Decimal

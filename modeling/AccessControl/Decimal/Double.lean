/-
**Doubles as exact numbers: taking them apart, and rounding a quotient to the nearest one.**

* `parts` — a double is not a number, infinite, or `± mantissa · 2 ^ exponent`.
* `nearest` — the double nearest to a quotient of natural numbers, a tie going to the even mantissa.
* `remainder` — what is left of a double after taking a divisor off as often as it goes; exact.
-/

namespace AccessControl.Decimal

/-- What a double stands for. -/
inductive Parts where
  | nan
  | infinite (negative : Bool)
  | finite (negative : Bool) (mantissa : Nat) (exponent : Int)
  deriving Repr, DecidableEq

def leastExponent : Int := -1074

/-- The first bit of a normal double's mantissa, which its bits leave out. In the bits the exponent
counts in steps of it, and the sign stands above 2048 of them. -/
def hiddenBit : Nat := 0x10000000000000

def parts (x : Float) : Parts :=
  let bits := x.toBits.toNat
  let negative := decide (2048 * hiddenBit ≤ bits)
  let field := bits / hiddenBit % 2048
  let fraction := bits % hiddenBit
  if field = 2047 then
    if fraction = 0 then .infinite negative else .nan
  else if field = 0 then .finite negative fraction leastExponent
  else .finite negative (fraction + hiddenBit) (leastExponent + (field - 1 : Nat))

/-- A product with a power of a base, on the side of a quotient that keeps it whole: the numerator
and the denominator of `numerator / denominator · base ^ exponent`. -/
def scaled (base numerator denominator : Nat) (exponent : Int) : Nat × Nat :=
  if 0 ≤ exponent then (numerator * Nat.pow base exponent.toNat, denominator)
  else (numerator, denominator * Nat.pow base (-exponent).toNat)

/-- The natural number nearest to a quotient, a tie going to the even one. -/
def roundEven (numerator denominator : Nat) : Nat :=
  let quotient := numerator / denominator
  let twice := 2 * (numerator % denominator)
  if denominator < twice ∨ (twice = denominator ∧ quotient % 2 = 1) then quotient + 1 else quotient

/-- The double nearest to `numerator / denominator`, a tie going to the even mantissa; infinite
beyond the largest double. The bits of `mantissa · 2 ^ exponent` are `mantissa` plus the exponent's
steps above the least one, also when rounding carries into the next power of two. -/
def nearest (numerator denominator : Nat) : Float :=
  if numerator = 0 then 0
  else
    let guess : Int := (numerator.log2 : Int) - denominator.log2 - 53
    let (n, d) := scaled 2 numerator denominator (-guess)
    let exponent := max leastExponent (if n / d < 2 * hiddenBit then guess else guess + 1)
    let (n, d) := scaled 2 numerator denominator (-exponent)
    let bits := roundEven n d + (exponent - leastExponent).toNat * hiddenBit
    Float.ofBits (UInt64.ofNat (min bits (2047 * hiddenBit)))

def signed (negative : Bool) (x : Float) : Float := if negative then -x else x

/-- The double nearest to `± mantissa · 2 ^ exponent`. -/
def ofDyadic (negative : Bool) (mantissa : Nat) (exponent : Int) : Float :=
  let (n, d) := scaled 2 mantissa 1 exponent
  signed negative (nearest n d)

/-- The remainder of a double by another, with the sign of the first. It is exact: both are whole
multiples of the smaller of their units. -/
def remainder (x y : Float) : Float :=
  match parts x, parts y with
  | .finite negative m e, .finite _ n f =>
    if n = 0 then 0 / 0
    else
      let unit := min e f
      let left := m * Nat.pow 2 (e - unit).toNat % (n * Nat.pow 2 (f - unit).toNat)
      ofDyadic negative left unit
  | .finite .., .infinite _ => x
  | _, _ => 0 / 0

end AccessControl.Decimal

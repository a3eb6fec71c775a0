/-
**Numbers as text.**

* `ofInt` — an integer in decimal.
* `positional` — a double in its fewest digits, never with an exponent and without a fraction when
  it is whole: `1`, `0.1`, `1000000000000000000000`, `-0`, `NaN`, `inf`.
* `scientific` — a double in its fewest digits as a JSON number: a fraction is always shown, and far
  from one an exponent: `1.0`, `0.00001`, `1e21`, `1.5e-7`.
-/

import AccessControl.Decimal.Shortest

namespace AccessControl.Decimal

def ofNat (n : Nat) : String := String.ofList (Nat.toDigits 10 n)

def ofInt : Int → String
  | .ofNat n => ofNat n
  | .negSucc n => "-" ++ ofNat (n + 1)

def zeros (count : Nat) : String := String.ofList (List.replicate count '0')

/-- The digits of `digits · 10 ^ exponent` around a point, with a given fraction for a whole
number. -/
def plain (wholeFraction : String) (digits : Nat) (exponent : Int) : String :=
  let text := Nat.toDigits 10 digits
  let point := (text.length : Int) + exponent
  if 0 ≤ exponent then String.ofList text ++ zeros exponent.toNat ++ wholeFraction
  else if 0 < point then
    String.ofList (text.take point.toNat) ++ "." ++ String.ofList (text.drop point.toNat)
  else "0." ++ zeros (-point).toNat ++ String.ofList text

/-- The digits of `digits · 10 ^ exponent` with the point after the first one and an exponent. -/
def withExponent (digits : Nat) (exponent : Int) : String :=
  match Nat.toDigits 10 digits with
  | [] => "0"
  | first :: rest =>
    let fraction := if rest.isEmpty then "" else "." ++ String.ofList rest
    String.singleton first ++ fraction ++ "e" ++ ofInt (exponent + rest.length)

def withSign (negative : Bool) (text : String) : String := if negative then "-" ++ text else text

/-- A double in its fewest digits, all of them positional; a tie goes up. -/
def positional (x : Float) : String :=
  match parts x with
  | .nan => "NaN"
  | .infinite negative => withSign negative "inf"
  | .finite negative mantissa exponent =>
    if mantissa = 0 then withSign negative "0"
    else
      let found := shortest .up mantissa exponent
      withSign negative (plain "" found.1 found.2)

/-- A finite double in its fewest digits, as a JSON number; a tie goes to the even digit. The point
is shown in place when the number is at least `10 ^ -5` and below `10 ^ 16`. -/
def scientific (x : Float) : Option String :=
  match parts x with
  | .nan | .infinite _ => none
  | .finite negative mantissa exponent =>
    if mantissa = 0 then some (withSign negative "0.0")
    else
      let found := shortest .even mantissa exponent
      let point := ((Nat.toDigits 10 found.1).length : Int) + found.2
      some (withSign negative
        (if -5 < point ∧ point ≤ 16 then plain ".0" found.1 found.2
          else withExponent found.1 found.2))

end AccessControl.Decimal

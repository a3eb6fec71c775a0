/-
**Whole numbers that fit a machine word.**

* `leastInt64`, `greatestInt64`, … — the limits of words of 32 and 64 bits, with a sign and without.
* `int64?`, `uint64?` — the word of 64 bits that a whole number is, if it fits one.
* `unsigned` — a word with a sign read as one without.
-/

namespace AccessControl.Word

abbrev leastInt32 : Int := -0x80000000

abbrev greatestInt32 : Int := 0x7fffffff

abbrev greatestUInt32 : Nat := 0xffffffff

abbrev leastInt64 : Int := -0x8000000000000000

abbrev greatestInt64 : Int := 0x7fffffffffffffff

abbrev greatestUInt64 : Nat := 0xffffffffffffffff

def int64? (n : Int) : Option Int64 :=
  if leastInt64 ≤ n ∧ n ≤ greatestInt64 then some (Int64.ofInt n) else none

def uint64? (n : Int) : Option UInt64 :=
  if 0 ≤ n ∧ n ≤ greatestUInt64 then some (UInt64.ofNat n.toNat) else none

/-- A number of 64 bits with a sign, read as one without: what is below zero is counted down from
the end of the words. -/
def unsigned (n : Int) : Nat := (n % (greatestUInt64 + 1)).toNat

end AccessControl.Word

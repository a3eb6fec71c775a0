/-
**Sets of characters.**

* `CharSet` — inclusive ranges of code points in ascending order, with gaps between them.
* `CharSet.ofRanges` — any ranges, sorted and joined where they meet.
* `CharSet.complement`, `CharSet.union`, `CharSet.intersection`, `CharSet.difference`,
  `CharSet.symmetricDifference` — what is made of sets.
* `CharSet.contains` — whether a character belongs to a set.
-/

namespace AccessControl.Text

abbrev Ranges : Type := List (Nat × Nat)

namespace Ranges

/-- A range joined with those after it that it meets, all of them in ascending order. -/
def joinFrom : Nat × Nat → Ranges → Ranges
  | current, [] => [current]
  | current, next :: rest =>
    if next.1 ≤ current.2 + 1 then joinFrom (current.1, max current.2 next.2) rest
    else current :: joinFrom next rest

/-- Ranges in ascending order, joined where they meet. -/
def joined : Ranges → Ranges
  | [] => []
  | first :: rest => joinFrom first rest

def greatest : Nat := 0x10FFFF

/-- What lies between ranges in ascending order, from a code point on. -/
def gapsFrom : Nat → Ranges → Ranges
  | start, [] => if start ≤ greatest then [(start, greatest)] else []
  | start, (first, last) :: rest =>
    if start < first then (start, first - 1) :: gapsFrom (last + 1) rest
    else gapsFrom (last + 1) rest

def everySecond (range : Nat × Nat) : Ranges :=
  (List.range ((range.2 - range.1) / 2 + 1)).map fun n => (range.1 + 2 * n, range.1 + 2 * n)

end Ranges

/-- A set of characters. -/
structure CharSet where
  ranges : Ranges
  deriving Repr, DecidableEq

namespace CharSet

/-- The set of the characters in some ranges. -/
def ofRanges (ranges : Ranges) : CharSet :=
  ⟨Ranges.joined (ranges.mergeSort fun left right => left.1 ≤ right.1)⟩

/-- The set of the characters in some ranges, and of every second one in some others. -/
def ofRuns (whole alternating : Ranges) : CharSet :=
  ofRanges (whole ++ alternating.flatMap Ranges.everySecond)

/-- The set of the characters with some codes. -/
def ofCodes (codes : List Nat) : CharSet := ofRanges (codes.map fun code => (code, code))

def hasCode (set : CharSet) (code : Nat) : Bool :=
  set.ranges.any fun range => range.1 ≤ code && code ≤ range.2

/-- Whether a character belongs to a set. -/
def contains (set : CharSet) (c : Char) : Bool := set.hasCode c.toNat

def empty : CharSet := ⟨[]⟩

/-- The characters from one to another. -/
def range (first last : Char) : CharSet := ⟨[(first.toNat, last.toNat)]⟩

def single (c : Char) : CharSet := range c c

/-- What belongs to one of some sets. -/
def unionAll (sets : List CharSet) : CharSet := ofRanges (sets.flatMap CharSet.ranges)

/-- What belongs to one of two sets. -/
def union (left right : CharSet) : CharSet := unionAll [left, right]

def complement (set : CharSet) : CharSet := ⟨Ranges.gapsFrom 0 set.ranges⟩

/-- What belongs to both of two sets. -/
def intersection (left right : CharSet) : CharSet :=
  (left.complement.union right.complement).complement

/-- What belongs to the first set and not to the second. -/
def difference (left right : CharSet) : CharSet := left.intersection right.complement

/-- What belongs to exactly one of two sets. -/
def symmetricDifference (left right : CharSet) : CharSet :=
  (left.difference right).union (right.difference left)

def negateIf (negated : Bool) (set : CharSet) : CharSet := if negated then set.complement else set

/-- Whether a set has characters of ASCII only. -/
def isAscii (set : CharSet) : Bool := set.ranges.all fun range => range.2 < 128

end CharSet

end AccessControl.Text

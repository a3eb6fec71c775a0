/-
**Blank characters, and texts without blank ends.**

* `blanks`, `isBlank` — the characters with the Unicode property White_Space (U+200B and U+FEFF are
  not among them, U+0085, U+00A0 and U+3000 are).
* `trim` — a text without the blank characters at its two ends.
-/

import AccessControl.Text.CharSet

namespace AccessControl.Text

/-- The characters with the Unicode property White_Space. -/
def blanks : CharSet :=
  ⟨[(0x09, 0x0D), (0x20, 0x20), (0x85, 0x85), (0xA0, 0xA0), (0x1680, 0x1680), (0x2000, 0x200A),
    (0x2028, 0x2029), (0x202F, 0x202F), (0x205F, 0x205F), (0x3000, 0x3000)]⟩

def asciiBlanks : CharSet := ⟨[(0x09, 0x0D), (0x20, 0x20)]⟩

def isBlank (c : Char) : Bool := blanks.contains c

/-- Characters without the blank ones in front. -/
def dropBlank (text : List Char) : List Char := text.dropWhile isBlank

/-- Characters without the blank ones at the two ends. -/
def trimmed (text : List Char) : List Char := (dropBlank (dropBlank text).reverse).reverse

/-- A text without the blank characters at its two ends. -/
def trim (text : String) : String := String.ofList (trimmed text.toList)

end AccessControl.Text

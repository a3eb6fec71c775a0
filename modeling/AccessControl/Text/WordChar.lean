/-
**Word characters.**

* `wordChars` — letters and other characters of alphabets, marks, decimal digits, punctuation that
  connects words, and the two joiners.
* `asciiWordChars` — those of ASCII: letters, digits and the underscore.
-/

import AccessControl.Text.LetterProperty
import AccessControl.Text.NameProperty

namespace AccessControl.Text

def wordChars : CharSet := .unionAll [alphabetic, marks, decimalDigits, connectors, joiners]

def asciiWordChars : CharSet := ⟨[(0x30, 0x39), (0x41, 0x5A), (0x5F, 0x5F), (0x61, 0x7A)]⟩

end AccessControl.Text

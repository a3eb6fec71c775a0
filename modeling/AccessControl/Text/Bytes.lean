/-
**Texts as bytes: UTF-8, and one list inside another.**

* `utf8` — the bytes of a text.
* `ofUtf8Lossy` — the text of some bytes; every maximal piece that begins no character becomes one
  U+FFFD.
* `isInfix` — whether one list occurs, unbroken, in another.
-/

namespace AccessControl.Text

def utf8 (text : List Char) : List UInt8 := text.flatMap String.utf8EncodeChar

/-- A character being read: how many bytes are due, the range of the next one, the bits so far. -/
structure PartialChar where
  due : Nat
  low : Nat
  high : Nat
  bits : Nat

/-- The character that replaces what cannot be read. -/
def replacement : Char := '\uFFFD'

/-- What a byte begins: the characters that it completes by itself, and the character it leaves
open. A byte that begins no character is replaced. -/
def opening (byte : UInt8) : List Char × Option PartialChar :=
  let b := byte.toNat
  if b < 0x80 then ([Char.ofNat b], none)
  else if 0xC2 ≤ b ∧ b ≤ 0xDF then ([], some ⟨1, 0x80, 0xBF, b - 0xC0⟩)
  else if b = 0xE0 then ([], some ⟨2, 0xA0, 0xBF, 0⟩)
  else if b = 0xED then ([], some ⟨2, 0x80, 0x9F, 0xD⟩)
  else if 0xE1 ≤ b ∧ b ≤ 0xEF then ([], some ⟨2, 0x80, 0xBF, b - 0xE0⟩)
  else if b = 0xF0 then ([], some ⟨3, 0x90, 0xBF, 0⟩)
  else if 0xF1 ≤ b ∧ b ≤ 0xF3 then ([], some ⟨3, 0x80, 0xBF, b - 0xF0⟩)
  else if b = 0xF4 then ([], some ⟨3, 0x80, 0x8F, 4⟩)
  else ([replacement], none)

/-- Read bytes, with the character begun so far if there is one. A byte that does not continue the
open character ends it, replaced, and begins anew. -/
def readUtf8 : Option PartialChar → List UInt8 → List Char
  | none, [] => []
  | some _, [] => [replacement]
  | none, byte :: rest => (opening byte).1 ++ readUtf8 (opening byte).2 rest
  | some pending, byte :: rest =>
    let bits := pending.bits * 64 + byte.toNat % 64
    if pending.low ≤ byte.toNat ∧ byte.toNat ≤ pending.high then
      if pending.due ≤ 1 then Char.ofNat bits :: readUtf8 none rest
      else readUtf8 (some ⟨pending.due - 1, 0x80, 0xBF, bits⟩) rest
    else replacement :: (opening byte).1 ++ readUtf8 (opening byte).2 rest

/-- The text of some bytes, with U+FFFD for what begins no character. -/
def ofUtf8Lossy (bytes : List UInt8) : List Char := readUtf8 none bytes

/-- Whether a list occurs, unbroken, in another. -/
def isInfix {α : Type} [BEq α] (part : List α) : List α → Bool
  | [] => part.isEmpty
  | first :: rest => part.isPrefixOf (first :: rest) || isInfix part rest

end AccessControl.Text

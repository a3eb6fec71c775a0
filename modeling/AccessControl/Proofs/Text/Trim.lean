/-
**Texts without blank ends.**

* `Text.Bare` — neither the first nor the last character is blank.
* `Text.bare_trimmed`, `Text.trimmed_of_bare` — so are the characters that are left when the blank
  ones are cut off at both ends, and then there is nothing to cut off.
* `Text.trim_trim` — hence **to cut twice is to cut once**, on every text.
* `Text.Proper`, `Text.proper_trim` — what can be a name or a key, and what becomes of a text that
  is not blank.
-/

import AccessControl.Text.Blank
import Mathlib.Data.List.DropRight

namespace AccessControl.Text

/-- Neither the first character nor the last one is blank. -/
structure Bare (text : List Char) : Prop where
  first : ∀ c, text.head? = some c → isBlank c = false
  last : ∀ c, text.getLast? = some c → isBlank c = false

variable {text : List Char}

theorem head?_dropBlank {c : Char} (front : (dropBlank text).head? = some c) :
    isBlank c = false := by
  have bare := List.head?_dropWhile_not isBlank text
  rw [show (text.dropWhile isBlank).head? = some c from front] at bare
  exact bare

theorem dropBlank_of_head (bare : ∀ c, text.head? = some c → isBlank c = false) :
    dropBlank text = text := by
  cases text with
  | nil => rfl
  | cons c rest => exact List.dropWhile_cons_of_neg (Bool.eq_false_iff.mp (bare c rfl))

/-- **What is left when the blank characters are cut off has none at its ends.** -/
theorem bare_trimmed (text : List Char) : Bare (trimmed text) where
  first c front := by
    obtain ⟨rest, whole⟩ : trimmed text <+: dropBlank text := List.rdropWhile_prefix _ _
    have begins : (dropBlank text).head? = some c := by
      rw [← whole, List.head?_append, front, Option.some_or]
    exact head?_dropBlank begins
  last c back := by
    unfold trimmed at back
    rw [List.getLast?_reverse] at back
    exact head?_dropBlank back

/-- **Nothing is cut off where no end is blank.** -/
theorem trimmed_of_bare (bare : Bare text) : trimmed text = text := by
  have backwards : dropBlank text.reverse = text.reverse := by
    refine dropBlank_of_head fun c back => bare.last c ?_
    rw [← List.head?_reverse]
    exact back
  unfold trimmed
  rw [dropBlank_of_head bare.first, backwards, List.reverse_reverse]

/-- **To cut the blank characters off twice is to cut them off once.** -/
theorem trim_trim (text : String) : trim (trim text) = trim text := by
  unfold trim
  rw [String.toList_ofList, trimmed_of_bare (bare_trimmed _)]

/-- A text that can be a name or a key: it is not empty, and it has no blank ends to cut off. -/
structure Proper (text : String) : Prop where
  solid : text ≠ ""
  trimmed : trim text = text
  bare : Bare text.toList

/-- **What is left of a text that is not blank is proper.** -/
theorem proper_trim {text : String} (solid : (trim text).isEmpty = false) :
    Proper (trim text) where
  solid empty := by
    rw [empty] at solid
    cases solid
  trimmed := trim_trim text
  bare := by
    unfold trim
    rw [String.toList_ofList]
    exact bare_trimmed _

end AccessControl.Text

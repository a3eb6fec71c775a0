/-
**Values as they are written, read back.**

* `AttributeValue.reread?` — what a value is read as after it was written. Booleans, integers and
  texts are read as they were; a double may be read as another one, or not at all.
* `AttributeValue.type_reread` — **no value is read back as one of another type.**
* `AttributeValue.ofText?_encode` — a value is read back from its text beside its type, a double if
  its text is read as it.
* `AttributeMap.reread?` — the same for all the values of a map; the keys stay.
* `AttributeMap.ofSource?_perm` — a map is read back from its values in whatever order they stand.
* `AttributeMap.Exact` — the doubles of a map are read back as they were; exactly then the map is.
-/

import AccessControl.Attribute
import AccessControl.Proofs.Dictionary
import AccessControl.Proofs.Json.Reading

namespace AccessControl

open Json (Source NumberText)

namespace AttributeValue

/-- What a value is read as after it was written. -/
def reread? (value : AttributeValue) : Option AttributeValue := ofSource? value.document.source

theorem reread?_boolean (value : Bool) : (boolean value).reread? = some (boolean value) := rfl

theorem reread?_string (value : String) : (string value).reread? = some (string value) := by
  show (Json.pieceString (Json.pieces value)).map string = _
  rw [Json.pieceString_pieces]
  rfl

theorem reread?_integer (value : Int64) : (integer value).reread? = some (integer value) := by
  show ofSource? (Json.Number.integer value).source = _
  rw [Json.Number.source_integer]
  show (NumberText.value? _).map ofNumber = _
  rw [Json.value?_ofInt]
  rfl

/-- **A double is read back as a double**, if it is finite and its text within range. -/
theorem reread?_float (x : Float) :
    (float x).reread? = if x.isFinite then (Json.rereadFloat? x).map float else none := by
  have document : (float x).document =
      if x.isFinite then .number (.real x) else .null := rfl
  unfold reread?
  rw [document]
  split
  · show ofSource? (Json.Number.real x).source = _
    rcases Json.source_real x with ⟨written, source, value⟩ | ⟨source, unread⟩
    · rw [source]
      show written.value?.map ofNumber = _
      rw [value, Option.map_map]
      rfl
    · rw [source, unread]
      rfl
  · rfl

/-- **No value is read back as one of another type.** -/
theorem type_reread {value again : AttributeValue} (read : value.reread? = some again) :
    again.type = value.type := by
  cases value with
  | boolean value =>
    rw [reread?_boolean] at read
    exact Option.some.inj read ▸ rfl
  | integer value =>
    rw [reread?_integer] at read
    exact Option.some.inj read ▸ rfl
  | string value =>
    rw [reread?_string] at read
    exact Option.some.inj read ▸ rfl
  | float x =>
    rw [reread?_float] at read
    split at read
    · obtain ⟨y, -, rfl⟩ := Option.map_eq_some_iff.mp read
      rfl
    · cases read

/-- **A value is read back as it was unless it is a double** that is not finite or whose text is
read as another one. -/
theorem reread?_eq_self_iff {value : AttributeValue} :
    value.reread? = some value ↔
      ∀ x, value = float x → x.isFinite = true ∧ Json.rereadFloat? x = some x := by
  cases value with
  | boolean value => exact iff_of_true (reread?_boolean value) nofun
  | integer value => exact iff_of_true (reread?_integer value) nofun
  | string value => exact iff_of_true (reread?_string value) nofun
  | float x =>
    rw [reread?_float]
    constructor
    · intro same y double
      obtain rfl := float.inj double
      split at same
      · rename_i finite
        obtain ⟨again, read, own⟩ := Option.map_eq_some_iff.mp same
        exact ⟨finite, float.inj own ▸ read⟩
      · cases same
    · intro double
      obtain ⟨finite, read⟩ := double x rfl
      rw [if_pos finite, read]
      rfl

/-! ### Text beside its type -/

/-- The text of a double is read as it again. -/
def Legible (value : AttributeValue) : Prop :=
  ∀ x, value = float x → Decimal.readFloat (Decimal.positional x).toList = some x

/-- **A value is read back from its text and its type**, a double if its text is read as it. -/
theorem ofText?_encode {value : AttributeValue} (legible : value.Legible) :
    ofText? value.type value.encode = some value := by
  cases value with
  | boolean value => cases value <;> rfl
  | string value => rfl
  | integer value =>
    have least : Word.leastInt64 ≤ value.toInt := value.le_toInt
    have greatest : value.toInt ≤ Word.greatestInt64 := Int.le_of_lt_add_one value.toInt_lt
    show (Decimal.readInt _ _ (Decimal.ofInt value.toInt).toList).map _ = _
    rw [Decimal.readInt_ofInt least greatest, Option.map_some, Int64.ofInt_toInt]
  | float x =>
    show (Decimal.readFloat (Decimal.positional x).toList).map float = _
    rw [legible x rfl]
    rfl

end AttributeValue

/-! ### Maps -/

namespace AttributeMap

/-- What a map is read as after it was written. -/
def reread? (attributes : AttributeMap) : Option AttributeMap :=
  fill some AttributeValue.reread? attributes.toList .empty

/-- The doubles of a map are finite, and the text of each is read as it again. -/
def Exact (attributes : AttributeMap) : Prop :=
  ∀ key x, attributes.find? key = some (.float x) →
    x.isFinite = true ∧ Json.rereadFloat? x = some x

/-- What is put in is found, as it was read, over what was there. -/
theorem find?_fill {entries : List (String × AttributeValue)}
    (different : (entries.map Prod.fst).Nodup) {filled again : AttributeMap}
    (read : fill some AttributeValue.reread? entries filled = some again) (key : String) :
    again.find? key =
      match Keyed.find? key entries with
      | some value => value.reread?
      | none => filled.find? key := by
  induction entries generalizing filled with
  | nil => exact Option.some.inj read ▸ rfl
  | cons entry rest ih =>
    obtain ⟨new, tail⟩ := List.nodup_cons.mp different
    unfold fill at read
    cases content : entry.2.reread? with
    | none =>
      rw [content] at read
      cases read
    | some value =>
      rw [content] at read
      rw [ih tail read, Dictionary.find?_cons, Dictionary.find?_insert]
      by_cases same : key = entry.1
      · have absent : Keyed.find? key rest = none :=
          Keyed.find?_eq_none.mpr fun other member hit =>
            new (same ▸ hit ▸ List.mem_map_of_mem member)
        rw [if_pos same, if_pos same, absent]
        exact content.symm
      · rw [if_neg same, if_neg same]

/-- Values can be put in exactly when all of them are readable. -/
theorem fill_eq_none_iff {entries : List (String × AttributeValue)} {filled : AttributeMap} :
    fill some AttributeValue.reread? entries filled = none ↔
      ∃ entry ∈ entries, entry.2.reread? = none := by
  induction entries generalizing filled with
  | nil => simp [fill]
  | cons entry rest ih =>
    unfold fill
    cases content : entry.2.reread? with
    | none => simp [content]
    | some value => simp [content, ih]

/-- **It makes no difference in which order values under different keys are put in.** -/
theorem fill_perm {entries others : List (String × AttributeValue)} (order : entries.Perm others)
    (different : (entries.map Prod.fst).Nodup) (filled : AttributeMap) :
    fill some AttributeValue.reread? entries filled =
      fill some AttributeValue.reread? others filled := by
  have also : (others.map Prod.fst).Nodup := (order.map Prod.fst).nodup different
  cases read : fill some AttributeValue.reread? entries filled with
  | none =>
    obtain ⟨entry, member, unread⟩ := fill_eq_none_iff.mp read
    exact (fill_eq_none_iff.mpr ⟨entry, order.mem_iff.mp member, unread⟩).symm
  | some first =>
    cases other : fill some AttributeValue.reread? others filled with
    | none =>
      obtain ⟨entry, member, unread⟩ := fill_eq_none_iff.mp other
      rw [fill_eq_none_iff.mpr ⟨entry, order.mem_iff.mpr member, unread⟩] at read
      cases read
    | some second =>
      refine congrArg some (Dictionary.ext_find? fun key => ?_)
      rw [find?_fill different read, find?_fill also other, Dictionary.find?_perm order different]

/-- What is written one after the other is read as the map that the values read back make. -/
theorem ofSource?_written (entries : List (String × AttributeValue)) :
    ofSource? (written entries).source = fill some AttributeValue.reread? entries .empty := by
  have all (filled : AttributeMap) :
      fill Json.pieceString AttributeValue.ofSource?
        (Json.memberSources (entries.map fun entry => (entry.1, entry.2.document))) filled =
        fill some AttributeValue.reread? entries filled := by
    induction entries generalizing filled with
    | nil => rfl
    | cons entry rest ih =>
      have same : AttributeValue.ofSource? entry.2.document.source = entry.2.reread? := rfl
      rw [List.map_cons, Json.memberSources, fill, fill, Json.pieceString_pieces, same]
      cases entry.2.reread? with
      | none => rfl
      | some value => exact ih _
  exact all .empty

/-- **The text of a map is read as the map with its values read back**, in whatever order they are
written. -/
theorem ofSource?_perm {attributes : AttributeMap} {entries : List (String × AttributeValue)}
    (order : entries.Perm attributes.toList) :
    ofSource? (written entries).source = attributes.reread? := by
  rw [ofSource?_written]
  exact (fill_perm order.symm (Dictionary.nodup_keys attributes) .empty).symm

/-- Under each key of a map that was read back its value read back is found. -/
theorem find?_reread {attributes again : AttributeMap} (read : attributes.reread? = some again)
    (key : String) : again.find? key = (attributes.find? key).bind AttributeValue.reread? := by
  rw [find?_fill (Dictionary.nodup_keys attributes) read key]
  show (match attributes.find? key with
    | some value => value.reread?
    | none => none) = _
  cases attributes.find? key <;> rfl

/-- A map cannot be read back exactly when one of its values cannot. -/
theorem reread?_eq_none_iff {attributes : AttributeMap} :
    attributes.reread? = none ↔
      ∃ key value, attributes.find? key = some value ∧ value.reread? = none := by
  unfold reread?
  rw [fill_eq_none_iff]
  constructor
  · rintro ⟨⟨key, value⟩, member, unread⟩
    exact ⟨key, value, Dictionary.mem_toList_iff.mp member, unread⟩
  · rintro ⟨key, value, found, unread⟩
    exact ⟨(key, value), Dictionary.mem_toList_iff.mpr found, unread⟩

/-- **A map is read back as it was exactly when its doubles are.** -/
theorem reread?_eq_self_iff {attributes : AttributeMap} :
    attributes.reread? = some attributes ↔ attributes.Exact := by
  have values : attributes.Exact ↔
      ∀ key value, attributes.find? key = some value → value.reread? = some value := by
    constructor
    · intro doubles key value found
      exact AttributeValue.reread?_eq_self_iff.mpr fun x same => doubles key x (same ▸ found)
    · intro values key x found
      exact AttributeValue.reread?_eq_self_iff.mp (values key _ found) x rfl
  rw [values]
  constructor
  · intro read key value found
    have same := find?_reread read key
    rw [found] at same
    exact same.symm
  · intro values
    cases read : attributes.reread? with
    | none =>
      obtain ⟨key, value, found, unread⟩ := reread?_eq_none_iff.mp read
      rw [values key value found] at unread
      cases unread
    | some again =>
      refine congrArg some (Dictionary.ext_find? fun key => ?_)
      rw [find?_reread read key]
      cases found : attributes.find? key with
      | none => rfl
      | some value => exact values key value found

end AttributeMap

end AccessControl

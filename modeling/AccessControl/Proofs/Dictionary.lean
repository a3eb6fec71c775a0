/-
**What stands in a dictionary.**

* `Dictionary.mem_toList_iff` — a pair stands in a dictionary exactly when its value is the one
  found under its key: keys are in increasing order, so that none hides another.
* `Dictionary.find?_perm` — among pairs with different keys the same is found in every order.
* `Dictionary.find?_ofList` — filling a dictionary with pairs of different keys loses none of them.
* `Dictionary.ext_find?` — dictionaries in which the same is found are the same.
-/

import AccessControl.Dictionary
import Mathlib.Data.List.Nodup

namespace AccessControl.Dictionary

variable {α : Type}

theorem find?_cons (key : String) (entry : String × α) (rest : List (String × α)) :
    Keyed.find? key (entry :: rest) =
      if key = entry.1 then some entry.2 else Keyed.find? key rest := rfl

/-- Among pairs with different keys every one is found under its key. -/
theorem find?_of_mem {entries : List (String × α)} (different : (entries.map Prod.fst).Nodup)
    {key : String} {value : α} (member : (key, value) ∈ entries) :
    Keyed.find? key entries = some value := by
  induction entries with
  | nil => cases member
  | cons entry rest ih =>
    obtain ⟨new, tail⟩ := List.nodup_cons.mp different
    rw [find?_cons]
    rcases List.mem_cons.mp member with rfl | later
    · rw [if_pos rfl]
    · have other : key ≠ entry.1 := fun same => new (same ▸ List.mem_map_of_mem later)
      rw [if_neg other]
      exact ih tail later

/-- What is found under a key stands there with it. -/
theorem mem_of_find? {entries : List (String × α)} {key : String} {value : α}
    (found : Keyed.find? key entries = some value) : (key, value) ∈ entries := by
  induction entries with
  | nil => cases found
  | cons entry rest ih =>
    rw [find?_cons] at found
    split at found
    · rename_i same
      rw [same, ← Option.some.inj found]
      exact List.mem_cons_self
    · exact List.mem_cons_of_mem _ (ih found)

theorem nodup_keys (content : Dictionary α) : (content.toList.map Prod.fst).Nodup :=
  List.pairwise_map.mpr (content.sorted.imp String.ne_of_lt)

/-- **A pair stands in a dictionary exactly when its value is found under its key.** -/
theorem mem_toList_iff {content : Dictionary α} {key : String} {value : α} :
    (key, value) ∈ content.toList ↔ content.find? key = some value :=
  ⟨find?_of_mem (nodup_keys content), mem_of_find?⟩

/-- **Where the keys are different, it makes no difference in which order the pairs stand.** -/
theorem find?_perm {entries others : List (String × α)} (order : entries.Perm others)
    (different : (entries.map Prod.fst).Nodup) (key : String) :
    Keyed.find? key entries = Keyed.find? key others := by
  have also : (others.map Prod.fst).Nodup := (order.map Prod.fst).nodup different
  refine Option.ext fun value => ⟨fun found => ?_, fun found => ?_⟩
  · exact find?_of_mem also (order.mem_iff.mp (mem_of_find? found))
  · exact find?_of_mem different (order.mem_iff.mpr (mem_of_find? found))

/-- What pairs of different keys are put over stays found under the other keys. -/
theorem find?_foldl_insert {entries : List (String × α)}
    (different : (entries.map Prod.fst).Nodup) (content : Dictionary α) (key : String) :
    (entries.foldl (fun content entry => content.insert entry.1 entry.2) content).find? key =
      (Keyed.find? key entries).or (content.find? key) := by
  induction entries generalizing content with
  | nil => rfl
  | cons entry rest ih =>
    obtain ⟨new, tail⟩ := List.nodup_cons.mp different
    rw [List.foldl_cons, ih tail, find?_insert, find?_cons]
    by_cases same : key = entry.1
    · have absent : Keyed.find? key rest = none :=
        Keyed.find?_eq_none.mpr fun other member hit =>
          new (same ▸ hit ▸ List.mem_map_of_mem member)
      rw [if_pos same, if_pos same, absent]
      rfl
    · rw [if_neg same, if_neg same]

/-- **Of pairs with different keys none is lost in a dictionary.** -/
theorem find?_ofList {entries : List (String × α)} (different : (entries.map Prod.fst).Nodup)
    (key : String) : (ofList entries).find? key = Keyed.find? key entries := by
  unfold ofList
  rw [find?_foldl_insert different, find?_empty, Option.or_none]

/-- **Dictionaries in which the same is found under every key are the same.** -/
theorem ext_find? {first second : Dictionary α} (same : ∀ key, first.find? key = second.find? key) :
    first = second := by
  have distinct (content : Dictionary α) : content.toList.Nodup :=
    List.Nodup.of_map Prod.fst (nodup_keys content)
  have permuted : first.toList.Perm second.toList :=
    (List.perm_ext_iff_of_nodup (distinct first) (distinct second)).mpr fun (key, value) => by
      rw [mem_toList_iff, mem_toList_iff, same]
  refine ext (permuted.eq_of_pairwise (fun one two _ _ less more => ?_) first.sorted second.sorted)
  exact absurd (String.lt_trans less more) (String.lt_irrefl _)

/-- A look-up among changed values finds the changed one. -/
theorem find?_map {β : Type} (change : α → β) (entries : List (String × α)) (key : String) :
    Keyed.find? key (entries.map fun entry => (entry.1, change entry.2)) =
      (Keyed.find? key entries).map change := by
  induction entries with
  | nil => rfl
  | cons entry rest ih =>
    rw [List.map_cons, find?_cons, find?_cons]
    split
    · rfl
    · exact ih

end AccessControl.Dictionary

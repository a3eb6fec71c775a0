/-
**The integrity of tables in memory.**

* `Tables.Filed` — the rows of a table stand under their own ids, in the order in which the ids were
  issued.
* `Tables.Sound` — every table is filed, names and links are not repeated, and whatever a row refers
  to is there; a stored fact is where its owner and its key say.
* `Tables.Sound.step` — every step of a call keeps this, a deletion because it is refused or takes
  along what refers to the deleted row.
* `Tables.Reachable.sound` — **all reachable tables are sound.**
-/

import AccessControl.Proofs.Dictionary
import AccessControl.Proofs.Tables.Step

namespace AccessControl.Tables

/-! ### Rows under their ids -/

section Rows

variable {ρ : Type} {idOf : ρ → Int} {last id : Int} {rows : List ρ}

/-- Ids as they are issued: from one on, each once, the last one last. -/
structure Issued (last : Int) (ids : List Int) : Prop where
  ascending : ids.Pairwise (· < ·)
  positive : ∀ id ∈ ids, 0 < id
  atMost : ∀ id ∈ ids, id ≤ last

namespace Issued

variable {ids : List Int}

theorem nil : Issued last [] := ⟨.nil, by simp, by simp⟩

theorem later (issued : Issued last ids) : Issued (last + 1) ids where
  ascending := issued.ascending
  positive := issued.positive
  atMost id member := Int.le_trans (issued.atMost id member) (by omega)

/-- The sequence goes on with the next id. -/
theorem next (issued : Issued last ids) (start : 0 ≤ last) :
    Issued (last + 1) (ids ++ [last + 1]) where
  ascending := by
    refine List.pairwise_append.mpr ⟨issued.ascending, List.pairwise_singleton _ _, ?_⟩
    intro id member other same
    have bound := issued.atMost id member
    rw [List.mem_singleton] at same
    omega
  positive id member := by
    rcases List.mem_append.mp member with old | new
    · exact issued.positive id old
    · rw [List.mem_singleton] at new
      omega
  atMost id member := by
    rcases List.mem_append.mp member with old | new
    · have bound := issued.atMost id old
      omega
    · rw [List.mem_singleton] at new
      omega

theorem sublist {fewer : List Int} (issued : Issued last ids) (some_ : fewer.Sublist ids) :
    Issued last fewer where
  ascending := issued.ascending.sublist some_
  positive id member := issued.positive id (some_.subset member)
  atMost id member := issued.atMost id (some_.subset member)

end Issued

/-- Rows kept in the order of their ids: under each id a look-up finds the row that has it. -/
structure Filed (idOf : ρ → Int) (last : Int) (rows : List ρ) : Prop where
  found : ∀ row ∈ rows, rows.find? (idOf · = idOf row) = some row
  issued : Issued last (rows.map idOf)

/-- Where ids ascend, no row hides another. -/
theorem filed_of_issued (issued : Issued last (rows.map idOf)) : Filed idOf last rows where
  issued := issued
  found row member := by
    have ascending := issued.ascending
    clear issued
    induction rows with
    | nil => cases member
    | cons first rest ih =>
      rw [List.map_cons, List.pairwise_cons] at ascending
      rcases List.mem_cons.mp member with rfl | later
      · simp
      · have above := ascending.1 (idOf row) (List.mem_map_of_mem later)
        rw [List.find?_cons_of_neg (by simp; omega)]
        exact ih later ascending.2

namespace Filed

theorem eq_of_id (filed : Filed idOf last rows) {first second : ρ} (one : first ∈ rows)
    (two : second ∈ rows) (same : idOf first = idOf second) : first = second := by
  have found := filed.found first one
  rw [same, filed.found second two] at found
  exact (Option.some.inj found).symm

/-- What is found under an id is the row that has it. -/
theorem find?_iff (filed : Filed idOf last rows) {row : ρ} :
    rows.find? (idOf · = id) = some row ↔ row ∈ rows ∧ idOf row = id := by
  constructor
  · intro found
    exact ⟨List.mem_of_find?_eq_some found, by simpa using List.find?_some found⟩
  · rintro ⟨member, rfl⟩
    exact filed.found row member

theorem nil : Filed idOf last [] := filed_of_issued .nil

theorem later (filed : Filed idOf last rows) : Filed idOf (last + 1) rows :=
  filed_of_issued filed.issued.later

theorem append (filed : Filed idOf last rows) (start : 0 ≤ last) {row : ρ}
    (next : idOf row = last + 1) : Filed idOf (last + 1) (rows ++ [row]) := by
  refine filed_of_issued ?_
  rw [List.map_append, List.map_singleton, next]
  exact filed.issued.next start

theorem filter (filed : Filed idOf last rows) (stays : ρ → Bool) :
    Filed idOf last (rows.filter stays) :=
  filed_of_issued (filed.issued.sublist (List.filter_sublist.map idOf))

end Filed

/-- What a row has in common with the one it replaces, the table still has. -/
theorem map_replaced {κ : Type} {view : ρ → κ} {row : ρ}
    (same : ∀ old ∈ rows, idOf old = id → view row = view old) :
    (rows.map fun old => if idOf old = id then row else old).map view = rows.map view := by
  rw [List.map_map]
  refine List.map_congr_left fun old member => ?_
  by_cases hit : idOf old = id
  · simp [hit, same old member hit]
  · simp [hit]

theorem nodup_map_replaced {κ : Type} {view : ρ → κ} {row : ρ} (different : (rows.map view).Nodup)
    (same : ∀ old ∈ rows, idOf old = id → view row = view old) :
    ((rows.map fun old => if idOf old = id then row else old).map view).Nodup := by
  rw [map_replaced same]
  exact different

/-- What all rows and the replacement have, all rows have after it. -/
theorem forall_replaced {property : ρ → Prop} {row : ρ} (all : ∀ old ∈ rows, property old)
    (new : property row) :
    ∀ other ∈ rows.map fun old => if idOf old = id then row else old, property other := by
  intro other member
  obtain ⟨old, stored, rfl⟩ := List.mem_map.mp member
  split
  · exact new
  · exact all old stored

theorem mem_ids_replaced {row : ρ} {value : Int} (own : idOf row = id)
    (member : value ∈ rows.map idOf) :
    value ∈ (rows.map fun old => if idOf old = id then row else old).map idOf := by
  rw [map_replaced fun _ _ hit => own.trans hit.symm]
  exact member

theorem Filed.replaced (filed : Filed idOf last rows) {row : ρ} (own : idOf row = id) :
    Filed idOf last (rows.map fun old => if idOf old = id then row else old) := by
  refine filed_of_issued ?_
  rw [map_replaced fun _ _ hit => own.trans hit.symm]
  exact filed.issued

/-- Names stay different when a row takes one that no other row has. -/
theorem Filed.nodup_replaced {nameOf : ρ → String} (filed : Filed idOf last rows)
    (different : (rows.map nameOf).Nodup) {row : ρ}
    (free : ∀ other ∈ rows, nameOf other = nameOf row → idOf other = id) :
    ((rows.map fun old => if idOf old = id then row else old).map nameOf).Nodup := by
  have ascending := List.pairwise_map.mp filed.issued.ascending
  have names := List.pairwise_map.mp different
  refine List.pairwise_map.mpr (List.pairwise_map.mpr ?_)
  refine (ascending.and names).imp_of_mem fun {first second} one two apart => ?_
  by_cases hitFirst : idOf first = id
  · have missed : idOf second ≠ id := by have := apart.1; omega
    rw [if_pos hitFirst, if_neg missed]
    exact fun same => missed (free second two same.symm)
  · by_cases hitSecond : idOf second = id
    · rw [if_neg hitFirst, if_pos hitSecond]
      exact fun same => hitFirst (free first one same)
    · rw [if_neg hitFirst, if_neg hitSecond]
      exact apart.2

theorem mem_map_append {κ : Type} {view : ρ → κ} {value : κ} {row : ρ}
    (member : value ∈ rows.map view) : value ∈ (rows ++ [row]).map view := by
  rw [List.map_append]
  exact List.mem_append_left _ member

/-- What all rows and one more have, all rows have when it is put at the end. -/
theorem forall_append {property : ρ → Prop} {row : ρ} (all : ∀ old ∈ rows, property old)
    (new : property row) : ∀ other ∈ rows ++ [row], property other := by
  intro other member
  rcases List.mem_append.mp member with old | last
  · exact all other old
  · rw [List.mem_singleton] at last
    exact last ▸ new

theorem mem_ids_removed {other : Int} (member : other ∈ rows.map idOf) (apart : other ≠ id) :
    other ∈ (rows.filter (idOf · ≠ id)).map idOf := by
  obtain ⟨row, found, rfl⟩ := List.mem_map.mp member
  exact List.mem_map_of_mem (List.mem_filter.mpr ⟨found, decide_eq_true apart⟩)

theorem nodup_append_singleton {items : List ρ} {item : ρ} (different : items.Nodup)
    (new : item ∉ items) : (items ++ [item]).Nodup := by
  refine List.nodup_append.mpr ⟨different, List.nodup_cons.mpr ⟨by simp, .nil⟩, ?_⟩
  intro old member other single same
  rw [List.mem_singleton] at single
  exact new (single ▸ same ▸ member)

theorem nodup_map_append {κ : Type} {view : ρ → κ} {row : ρ} (different : (rows.map view).Nodup)
    (new : view row ∉ rows.map view) : ((rows ++ [row]).map view).Nodup := by
  rw [List.map_append]
  exact nodup_append_singleton different new

end Rows

/-! ### Sound tables -/

/-- The role, the resource and the action of a grant. -/
def triple (permission : Permission) : Id × Id × Id :=
  (permission.role, permission.resource, permission.action)

/-- Tables whose rows can be told apart and refer to rows that are there. -/
structure Sound (tables : Tables) : Prop where
  start : 0 ≤ tables.lastId
  users : Filed User.id tables.lastId tables.users
  resources : Filed Resource.id tables.lastId tables.resources
  actions : Filed Action.id tables.lastId tables.actions
  roles : Filed Role.id tables.lastId tables.roles
  permissions : Filed Permission.id tables.lastId tables.permissions
  audit : Filed AuditEntry.id tables.lastId tables.audit
  usernames : (tables.users.map User.username).Nodup
  resourceNames : (tables.resources.map Resource.name).Nodup
  actionNames : (tables.actions.map Action.name).Nodup
  roleNames : (tables.roles.map Role.name).Nodup
  parents : ∀ resource ∈ tables.resources, ∀ parent, resource.parent = some parent →
    parent ∈ tables.resources.map Resource.id
  permissionRoles : ∀ permission ∈ tables.permissions,
    permission.role ∈ tables.roles.map Role.id
  permissionResources : ∀ permission ∈ tables.permissions,
    permission.resource ∈ tables.resources.map Resource.id
  permissionActions : ∀ permission ∈ tables.permissions,
    permission.action ∈ tables.actions.map Action.id
  triples : (tables.permissions.map triple).Nodup
  links : tables.links.Nodup
  linkUsers : ∀ link ∈ tables.links, link.user ∈ tables.users.map User.id
  linkRoles : ∀ link ∈ tables.links, link.role ∈ tables.roles.map Role.id
  edges : tables.edges.Nodup
  edgeParents : ∀ edge ∈ tables.edges, edge.parent ∈ tables.roles.map Role.id
  edgeChildren : ∀ edge ∈ tables.edges, edge.child ∈ tables.roles.map Role.id
  facts : ∀ owner id key fact, (tables.facts owner id).find? key = some fact →
    tables.hasOwner owner id = true ∧ fact.owner = owner ∧ fact.ownerId = id ∧ fact.key = key ∧
      fact.type = fact.value.type

namespace Sound

theorem empty : Sound Tables.empty where
  start := Int.le_refl 0
  users := .nil
  resources := .nil
  actions := .nil
  roles := .nil
  permissions := .nil
  audit := .nil
  usernames := .nil
  resourceNames := .nil
  actionNames := .nil
  roleNames := .nil
  parents _ member := nomatch member
  permissionRoles _ member := nomatch member
  permissionResources _ member := nomatch member
  permissionActions _ member := nomatch member
  triples := .nil
  links := .nil
  linkUsers _ member := nomatch member
  linkRoles _ member := nomatch member
  edges := .nil
  edgeParents _ member := nomatch member
  edgeChildren _ member := nomatch member
  facts _ _ _ _ found := nomatch found

variable {tables : Tables}

/-- An id is taken from the sequence and not yet given to a row. -/
theorem issue (sound : Sound tables) : Sound { tables with lastId := tables.lastId + 1 } :=
  { sound with
    start := Int.le_add_one sound.start
    users := sound.users.later
    resources := sound.resources.later
    actions := sound.actions.later
    roles := sound.roles.later
    permissions := sound.permissions.later
    audit := sound.audit.later }

/-- Stored facts stay in place when no owner of facts goes. -/
theorem facts_of_owners (sound : Sound tables) {after : Tables} (same : after.facts = tables.facts)
    (stay : ∀ owner id, tables.hasOwner owner id = true → after.hasOwner owner id = true) :
    ∀ owner id key fact, (after.facts owner id).find? key = some fact →
      after.hasOwner owner id = true ∧ fact.owner = owner ∧ fact.ownerId = id ∧ fact.key = key ∧
        fact.type = fact.value.type := by
  intro owner id key fact found
  rw [same] at found
  obtain ⟨owned, rest⟩ := sound.facts owner id key fact found
  exact ⟨stay owner id owned, rest⟩

theorem insertUser (sound : Sound tables) {username : String}
    (free : username ∉ tables.users.map User.username) :
    Sound { tables with
      lastId := tables.lastId + 1
      users := tables.users ++ [⟨tables.lastId + 1, username⟩] } :=
  { sound.issue with
    users := sound.users.append sound.start rfl
    usernames := nodup_map_append sound.usernames free
    linkUsers := fun link member => mem_map_append (sound.linkUsers link member)
    facts := sound.facts_of_owners rfl fun owner id owned => by
      cases owner with
      | user => exact isSome_find?_id.mpr (mem_map_append (isSome_find?_id.mp owned))
      | resource => exact owned }

theorem insertResource (sound : Sound tables) {new : NewResource}
    (free : new.name ∉ tables.resources.map Resource.name)
    (inside : ∀ parent, new.parent = some parent → parent ∈ tables.resources.map Resource.id) :
    Sound { tables with
      lastId := tables.lastId + 1
      resources := tables.resources ++
        [⟨tables.lastId + 1, new.name, new.description, new.parent⟩] } :=
  { sound.issue with
    resources := sound.resources.append sound.start rfl
    resourceNames := nodup_map_append sound.resourceNames free
    parents := forall_append
      (fun resource stored parent within =>
        mem_map_append (sound.parents resource stored parent within))
      fun parent within => mem_map_append (inside parent within)
    permissionResources := fun permission member =>
      mem_map_append (sound.permissionResources permission member)
    facts := sound.facts_of_owners rfl fun owner id owned => by
      cases owner with
      | user => exact owned
      | resource => exact isSome_find?_id.mpr (mem_map_append (isSome_find?_id.mp owned)) }

theorem updateResource (sound : Sound tables) {id : Id} {new : NewResource}
    (free : ∀ resource ∈ tables.resources, resource.name = new.name → resource.id = id)
    (inside : ∀ parent, new.parent = some parent → parent ∈ tables.resources.map Resource.id) :
    Sound { tables with
      resources := tables.resources.map fun row =>
        if row.id = id then ⟨id, new.name, new.description, new.parent⟩ else row } :=
  { sound with
    resources := sound.resources.replaced rfl
    resourceNames := sound.resources.nodup_replaced sound.resourceNames free
    parents := forall_replaced
      (fun resource stored parent within =>
        mem_ids_replaced rfl (sound.parents resource stored parent within))
      fun parent within => mem_ids_replaced rfl (inside parent within)
    permissionResources := fun permission member =>
      mem_ids_replaced rfl (sound.permissionResources permission member)
    facts := sound.facts_of_owners rfl fun owner other owned => by
      cases owner with
      | user => exact owned
      | resource => exact isSome_find?_id.mpr (mem_ids_replaced rfl (isSome_find?_id.mp owned)) }

theorem deleteResource (sound : Sound tables) {id : Id}
    (childless : ∀ resource ∈ tables.resources, resource.parent ≠ some id)
    (unused : ∀ permission ∈ tables.permissions, permission.resource ≠ id) :
    Sound { tables with
      resources := tables.resources.filter (·.id ≠ id)
      facts := fun owner other =>
        if owner = .resource ∧ other = id then .empty else tables.facts owner other } :=
  { sound with
    resources := sound.resources.filter _
    resourceNames := (List.filter_sublist.map _).nodup sound.resourceNames
    parents := fun resource member parent within => by
      have stored := (List.mem_filter.mp member).1
      refine mem_ids_removed (sound.parents resource stored parent within) fun same => ?_
      exact childless resource stored (same ▸ within)
    permissionResources := fun permission member =>
      mem_ids_removed (sound.permissionResources permission member) (unused permission member)
    facts := fun owner other key fact found => by
      by_cases gone : owner = .resource ∧ other = id
      · simp only [if_pos gone] at found
        cases found
      · simp only [if_neg gone] at found
        obtain ⟨owned, rest⟩ := sound.facts owner other key fact found
        refine ⟨?_, rest⟩
        cases owner with
        | user => exact owned
        | resource =>
          exact isSome_find?_id.mpr
            (mem_ids_removed (isSome_find?_id.mp owned) fun same => gone ⟨rfl, same⟩) }

theorem insertAction (sound : Sound tables) {new : NewAction}
    (free : new.name ∉ tables.actions.map Action.name) :
    Sound { tables with
      lastId := tables.lastId + 1
      actions := tables.actions ++ [⟨tables.lastId + 1, new.name, new.description⟩] } :=
  { sound.issue with
    actions := sound.actions.append sound.start rfl
    actionNames := nodup_map_append sound.actionNames free
    permissionActions := fun permission member =>
      mem_map_append (sound.permissionActions permission member) }

theorem updateAction (sound : Sound tables) {id : Id} {new : NewAction}
    (free : ∀ action ∈ tables.actions, action.name = new.name → action.id = id) :
    Sound { tables with
      actions := tables.actions.map fun row =>
        if row.id = id then ⟨id, new.name, new.description⟩ else row } :=
  { sound with
    actions := sound.actions.replaced rfl
    actionNames := sound.actions.nodup_replaced sound.actionNames free
    permissionActions := fun permission member =>
      mem_ids_replaced rfl (sound.permissionActions permission member) }

theorem deleteAction (sound : Sound tables) {id : Id}
    (unused : ∀ permission ∈ tables.permissions, permission.action ≠ id) :
    Sound { tables with actions := tables.actions.filter (·.id ≠ id) } :=
  { sound with
    actions := sound.actions.filter _
    actionNames := (List.filter_sublist.map _).nodup sound.actionNames
    permissionActions := fun permission member =>
      mem_ids_removed (sound.permissionActions permission member) (unused permission member) }

theorem insertRole (sound : Sound tables) {new : NewRole}
    (free : new.name ∉ tables.roles.map Role.name) :
    Sound { tables with
      lastId := tables.lastId + 1
      roles := tables.roles ++ [⟨tables.lastId + 1, new.name, new.description, new.status⟩] } :=
  { sound.issue with
    roles := sound.roles.append sound.start rfl
    roleNames := nodup_map_append sound.roleNames free
    permissionRoles := fun permission member =>
      mem_map_append (sound.permissionRoles permission member)
    linkRoles := fun link member => mem_map_append (sound.linkRoles link member)
    edgeParents := fun edge member => mem_map_append (sound.edgeParents edge member)
    edgeChildren := fun edge member => mem_map_append (sound.edgeChildren edge member) }

theorem setRoleStatus (sound : Sound tables) {id : Id} {status : Status} {role : Role}
    (present : tables.role? id = some role) :
    Sound { tables with
      roles := tables.roles.map fun row =>
        if row.id = id then { role with status := status } else row } :=
  have found := sound.roles.find?_iff.mp present
  { sound with
    roles := sound.roles.replaced found.2
    roleNames := nodup_map_replaced sound.roleNames fun old stored hit => by
      obtain rfl := sound.roles.eq_of_id found.1 stored (found.2.trans hit.symm)
      rfl
    permissionRoles := fun permission member =>
      mem_ids_replaced found.2 (sound.permissionRoles permission member)
    linkRoles := fun link member => mem_ids_replaced found.2 (sound.linkRoles link member)
    edgeParents := fun edge member => mem_ids_replaced found.2 (sound.edgeParents edge member)
    edgeChildren := fun edge member => mem_ids_replaced found.2 (sound.edgeChildren edge member) }

theorem deleteRole (sound : Sound tables) {id : Id}
    (unused : ∀ permission ∈ tables.permissions, permission.role ≠ id) :
    Sound { tables with
      roles := tables.roles.filter (·.id ≠ id)
      links := tables.links.filter (·.role ≠ id)
      edges := tables.edges.filter fun edge => edge.parent ≠ id ∧ edge.child ≠ id } :=
  { sound with
    roles := sound.roles.filter _
    roleNames := (List.filter_sublist.map _).nodup sound.roleNames
    permissionRoles := fun permission member =>
      mem_ids_removed (sound.permissionRoles permission member) (unused permission member)
    links := List.filter_sublist.nodup sound.links
    linkUsers := fun link member => sound.linkUsers link (List.mem_filter.mp member).1
    linkRoles := fun link member => by
      obtain ⟨stored, apart⟩ := List.mem_filter.mp member
      exact mem_ids_removed (sound.linkRoles link stored) (of_decide_eq_true apart)
    edges := List.filter_sublist.nodup sound.edges
    edgeParents := fun edge member => by
      obtain ⟨stored, apart⟩ := List.mem_filter.mp member
      exact mem_ids_removed (sound.edgeParents edge stored) (of_decide_eq_true apart).1
    edgeChildren := fun edge member => by
      obtain ⟨stored, apart⟩ := List.mem_filter.mp member
      exact mem_ids_removed (sound.edgeChildren edge stored) (of_decide_eq_true apart).2 }

theorem assignRole (sound : Sound tables) {user role : Id}
    (someone : user ∈ tables.users.map User.id) (present : role ∈ tables.roles.map Role.id)
    (fresh : ⟨user, role⟩ ∉ tables.links) :
    Sound { tables with links := tables.links ++ [⟨user, role⟩] } :=
  { sound with
    links := nodup_append_singleton sound.links fresh
    linkUsers := forall_append sound.linkUsers someone
    linkRoles := forall_append sound.linkRoles present }

theorem filterLinks (sound : Sound tables) (stays : Link → Bool) :
    Sound { tables with links := tables.links.filter stays } :=
  { sound with
    links := List.filter_sublist.nodup sound.links
    linkUsers := fun link member => sound.linkUsers link (List.mem_filter.mp member).1
    linkRoles := fun link member => sound.linkRoles link (List.mem_filter.mp member).1 }

theorem insertEdge (sound : Sound tables) {edge : Edge}
    (parent : edge.parent ∈ tables.roles.map Role.id)
    (child : edge.child ∈ tables.roles.map Role.id) (fresh : edge ∉ tables.edges) :
    Sound { tables with edges := tables.edges ++ [edge] } :=
  { sound with
    edges := nodup_append_singleton sound.edges fresh
    edgeParents := forall_append sound.edgeParents parent
    edgeChildren := forall_append sound.edgeChildren child }

theorem filterEdges (sound : Sound tables) (stays : Edge → Bool) :
    Sound { tables with edges := tables.edges.filter stays } :=
  { sound with
    edges := List.filter_sublist.nodup sound.edges
    edgeParents := fun edge member => sound.edgeParents edge (List.mem_filter.mp member).1
    edgeChildren := fun edge member => sound.edgeChildren edge (List.mem_filter.mp member).1 }

theorem insertPermission (sound : Sound tables) {new : NewPermission}
    (role : new.role ∈ tables.roles.map Role.id)
    (resource : new.resource ∈ tables.resources.map Resource.id)
    (action : new.action ∈ tables.actions.map Action.id)
    (fresh : ∀ permission ∈ tables.permissions,
      permission.grants new.role new.resource new.action = false) :
    Sound { tables with
      lastId := tables.lastId + 1
      permissions := tables.permissions ++
        [⟨tables.lastId + 1, new.role, new.resource, new.action, new.status, new.condition,
          new.priority⟩] } :=
  { sound.issue with
    permissions := sound.permissions.append sound.start rfl
    permissionRoles := forall_append sound.permissionRoles role
    permissionResources := forall_append sound.permissionResources resource
    permissionActions := forall_append sound.permissionActions action
    triples := nodup_map_append sound.triples fun member => by
      obtain ⟨permission, stored, same⟩ := List.mem_map.mp member
      have other := fresh permission stored
      simp only [triple, Prod.mk.injEq] at same
      simp [Permission.grants, Permission.targets, same] at other }

theorem setPermissionStatus (sound : Sound tables) {id : Id} {status : Status}
    {permission : Permission} (present : tables.permission? id = some permission) :
    Sound { tables with
      permissions := tables.permissions.map fun row =>
        if row.id = id then { permission with status := status } else row } :=
  have found := sound.permissions.find?_iff.mp present
  { sound with
    permissions := sound.permissions.replaced found.2
    permissionRoles := forall_replaced sound.permissionRoles
      (sound.permissionRoles permission found.1)
    permissionResources := forall_replaced sound.permissionResources
      (sound.permissionResources permission found.1)
    permissionActions := forall_replaced sound.permissionActions
      (sound.permissionActions permission found.1)
    triples := nodup_map_replaced sound.triples fun old stored hit => by
      obtain rfl := sound.permissions.eq_of_id found.1 stored (found.2.trans hit.symm)
      rfl }

theorem filterPermissions (sound : Sound tables) (stays : Permission → Bool) :
    Sound { tables with permissions := tables.permissions.filter stays } :=
  { sound with
    permissions := sound.permissions.filter stays
    permissionRoles := fun permission member =>
      sound.permissionRoles permission (List.mem_filter.mp member).1
    permissionResources := fun permission member =>
      sound.permissionResources permission (List.mem_filter.mp member).1
    permissionActions := fun permission member =>
      sound.permissionActions permission (List.mem_filter.mp member).1
    triples := (List.filter_sublist.map _).nodup sound.triples }

theorem setAttribute (sound : Sound tables) {owner : Owner} {id : Id} {key : String}
    {value : AttributeValue} (present : tables.hasOwner owner id = true) :
    Sound { tables with
      facts := fun other number =>
        if other = owner ∧ number = id then
          (tables.facts owner id).insert key ⟨owner, id, key, value, value.type⟩
        else tables.facts other number } :=
  { sound with
    facts := fun other number name fact found => by
      by_cases here : other = owner ∧ number = id
      · obtain ⟨rfl, rfl⟩ := here
        simp only [true_and, if_true] at found
        rw [Dictionary.find?_insert] at found
        split at found
        · obtain rfl := Option.some.inj found
          rename_i same
          exact ⟨present, rfl, rfl, same.symm, rfl⟩
        · exact sound.facts other number name fact found
      · simp only [if_neg here] at found
        exact sound.facts other number name fact found }

theorem appendAudit (sound : Sound tables) (new : NewAuditEntry) :
    Sound { tables with
      lastId := tables.lastId + 1
      audit := tables.audit ++ [⟨new, tables.lastId + 1⟩] } :=
  { sound.issue with audit := sound.audit.append sound.start rfl }

/-- **Every step of a call leaves sound tables sound.** -/
theorem step {after : Tables} {call : Store.Call} (sound : Sound tables)
    (step : Step tables call after) : Sound after := by
  cases step with
  | look _ => exact sound
  | insertUser free => exact sound.insertUser free
  | insertResource free inside => exact sound.insertResource free inside
  | updateResource _ free inside =>
    exact sound.updateResource free fun parent within => (inside parent within).1
  | deleteResource _ childless unused => exact sound.deleteResource childless unused
  | insertAction free => exact sound.insertAction free
  | updateAction _ free => exact sound.updateAction free
  | deleteAction _ unused => exact sound.deleteAction unused
  | insertRole free => exact sound.insertRole free
  | setRoleStatus present => exact sound.setRoleStatus present
  | deleteRole _ unused => exact sound.deleteRole unused
  | assignRole someone present fresh => exact sound.assignRole someone present fresh
  | unassignRole _ => exact sound.filterLinks _
  | insertEdge parent child fresh _ => exact sound.insertEdge parent child fresh
  | deleteEdge _ => exact sound.filterEdges _
  | insertPermission role resource action fresh =>
    exact sound.insertPermission role resource action fresh
  | deletePermission _ _ => exact sound.filterPermissions _
  | setPermissionStatus present => exact sound.setPermissionStatus present
  | setAttribute present => exact sound.setAttribute present
  | appendAudit => exact sound.appendAudit _

end Sound

theorem Reachable.sound {tables : Tables} (reachable : Reachable tables) : Sound tables :=
  reachable.induction Sound .empty fun step sound => sound.step step

/-- **Integrity of every run**: whatever is asked of empty tables, in whatever order and with
whatever success, leaves sound tables, as long as fewer than `2 ^ 63 - 1` ids are taken. -/
theorem sound_after (calls : List Store.Call) : Sound (store.after calls empty) :=
  (Reachable.start.after calls).sound

end AccessControl.Tables

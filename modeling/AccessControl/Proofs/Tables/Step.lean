/-
**The steps of tables in memory.**

* `Store.Call`, `Store.call`, `Store.after` — everything that can be asked of a place for the
  tables, and asking it once or several times; the answers are dropped, what is left is what the
  calls do to the state.
* `Tables.Step` — what each call may make of the tables, guards included. A call that only looks
  makes nothing of them.
* `Tables.call_leads` — **every call fails without a trace or takes its step.**
* `Tables.look_keeps` — a call that only looks leaves the tables as they are.
* `Tables.Reachable` — the tables that some calls, failed ones among them, make of empty ones.
-/

import AccessControl.Proofs.Effect
import AccessControl.Tables.Changes

namespace AccessControl

/-! ### Calls -/

/-- What can be asked of a place for the tables. -/
inductive Store.Call where
  | insertUser (username : String)
  | user (id : Id)
  | insertResource (new : NewResource)
  | updateResource (id : Id) (new : NewResource)
  | deleteResource (id : Id)
  | resource (id : Id)
  | resourceByName (name : String)
  | resources
  | childResources (id : Id)
  | insertAction (new : NewAction)
  | updateAction (id : Id) (new : NewAction)
  | deleteAction (id : Id)
  | action (id : Id)
  | actionByName (name : String)
  | actions
  | insertRole (new : NewRole)
  | setRoleStatus (id : Id) (status : Status)
  | deleteRole (id : Id)
  | role (id : Id)
  | roleByName (name : String)
  | roles
  | assignRole (user role : Id)
  | unassignRole (user role : Id)
  | userRoles (user : Id)
  | insertEdge (edge : Edge)
  | deleteEdge (edge : Edge)
  | edges
  | insertPermission (new : NewPermission)
  | deletePermission (role resource action : Id)
  | setPermissionStatus (id : Id) (status : Status)
  | permission (id : Id)
  | rolePermissions (role : Id)
  | setAttribute (owner : Owner) (id : Id) (key : String) (value : AttributeValue)
  | attributes (owner : Owner) (id : Id)
  | appendAudit (new : NewAuditEntry)
  | auditEntries (query : AuditQuery)
  | auditStats

/-- Whether a call only looks at the tables. -/
def Store.Call.looks : Store.Call → Bool
  | .user _ | .resource _ | .resourceByName _ | .resources | .childResources _ | .action _
  | .actionByName _ | .actions | .role _ | .roleByName _ | .roles | .userRoles _ | .edges
  | .permission _ | .rolePermissions _ | .attributes .. | .auditEntries _ | .auditStats => true
  | _ => false

/-- An effect whose result is not waited for. -/
def Effect.dropped {ε σ α : Type} (effect : Effect ε σ α) : Effect ε σ Unit := do
  let _ ← effect
  pure ()

/-- Ask something of a place for the tables. -/
def Store.call {σ : Type} (store : Store σ) : Store.Call → Effect Error σ Unit
  | .insertUser username => (store.insertUser username).dropped
  | .user id => (store.user id).dropped
  | .insertResource new => (store.insertResource new).dropped
  | .updateResource id new => (store.updateResource id new).dropped
  | .deleteResource id => store.deleteResource id
  | .resource id => (store.resource id).dropped
  | .resourceByName name => (store.resourceByName name).dropped
  | .resources => store.resources.dropped
  | .childResources id => (store.childResources id).dropped
  | .insertAction new => (store.insertAction new).dropped
  | .updateAction id new => (store.updateAction id new).dropped
  | .deleteAction id => store.deleteAction id
  | .action id => (store.action id).dropped
  | .actionByName name => (store.actionByName name).dropped
  | .actions => store.actions.dropped
  | .insertRole new => (store.insertRole new).dropped
  | .setRoleStatus id status => (store.setRoleStatus id status).dropped
  | .deleteRole id => store.deleteRole id
  | .role id => (store.role id).dropped
  | .roleByName name => (store.roleByName name).dropped
  | .roles => store.roles.dropped
  | .assignRole user role => store.assignRole user role
  | .unassignRole user role => store.unassignRole user role
  | .userRoles user => (store.userRoles user).dropped
  | .insertEdge edge => store.insertEdge edge
  | .deleteEdge edge => store.deleteEdge edge
  | .edges => store.edges.dropped
  | .insertPermission new => (store.insertPermission new).dropped
  | .deletePermission role resource action => store.deletePermission role resource action
  | .setPermissionStatus id status => (store.setPermissionStatus id status).dropped
  | .permission id => (store.permission id).dropped
  | .rolePermissions role => (store.rolePermissions role).dropped
  | .setAttribute owner id key value => (store.setAttribute owner id key value).dropped
  | .attributes owner id => (store.attributes owner id).dropped
  | .appendAudit new => (store.trail.append new).dropped
  | .auditEntries query => (store.trail.entries query).dropped
  | .auditStats => store.trail.stats.dropped

/-- What is left after several calls, whatever each comes to. -/
def Store.after {σ : Type} (store : Store σ) (calls : List Store.Call) (state : σ) : σ :=
  calls.foldl (fun state call => (store.call call state).2) state

namespace Effect

variable {ε σ α : Type}

theorem leads_dropped {effect : Effect ε σ α} {state : σ} {allowed : σ → Prop}
    (leads : effect.Leads state fun _ after => allowed after) :
    effect.dropped.Leads state fun _ after => allowed after := by
  rw [leads_iff] at leads ⊢
  unfold dropped
  rw [bind_apply]
  obtain ⟨result, after, ended, fine⟩ | ⟨cause, failed⟩ := leads
  · rw [ended]
    exact .inl ⟨(), after, rfl, fine⟩
  · rw [failed]
    exact .inr ⟨cause, rfl⟩

end Effect

namespace Tables

/-! ### Steps -/

/-- What a call may make of tables. -/
inductive Step (tables : Tables) : Store.Call → Tables → Prop where
  | look {call : Store.Call} (looks : call.looks) : Step tables call tables
  | insertUser {username : String} (free : username ∉ tables.users.map User.username) :
      Step tables (.insertUser username)
        { tables with
          lastId := tables.lastId + 1
          users := tables.users ++ [⟨tables.lastId + 1, username⟩] }
  | insertResource {new : NewResource} (free : new.name ∉ tables.resources.map Resource.name)
      (inside : ∀ parent, new.parent = some parent → parent ∈ tables.resources.map Resource.id) :
      Step tables (.insertResource new)
        { tables with
          lastId := tables.lastId + 1
          resources := tables.resources ++
            [⟨tables.lastId + 1, new.name, new.description, new.parent⟩] }
  | updateResource {id : Id} {new : NewResource} (present : id ∈ tables.resources.map Resource.id)
      (free : ∀ resource ∈ tables.resources, resource.name = new.name → resource.id = id)
      (inside : ∀ parent, new.parent = some parent →
        parent ∈ tables.resources.map Resource.id ∧ tables.isWithin id parent = false) :
      Step tables (.updateResource id new)
        { tables with
          resources := tables.resources.map fun row =>
            if row.id = id then ⟨id, new.name, new.description, new.parent⟩ else row }
  | deleteResource {id : Id} (present : id ∈ tables.resources.map Resource.id)
      (childless : ∀ resource ∈ tables.resources, resource.parent ≠ some id)
      (unused : ∀ permission ∈ tables.permissions, permission.resource ≠ id) :
      Step tables (.deleteResource id)
        { tables with
          resources := tables.resources.filter (·.id ≠ id)
          facts := fun owner other =>
            if owner = .resource ∧ other = id then .empty else tables.facts owner other }
  | insertAction {new : NewAction} (free : new.name ∉ tables.actions.map Action.name) :
      Step tables (.insertAction new)
        { tables with
          lastId := tables.lastId + 1
          actions := tables.actions ++ [⟨tables.lastId + 1, new.name, new.description⟩] }
  | updateAction {id : Id} {new : NewAction} (present : id ∈ tables.actions.map Action.id)
      (free : ∀ action ∈ tables.actions, action.name = new.name → action.id = id) :
      Step tables (.updateAction id new)
        { tables with
          actions := tables.actions.map fun row =>
            if row.id = id then ⟨id, new.name, new.description⟩ else row }
  | deleteAction {id : Id} (present : id ∈ tables.actions.map Action.id)
      (unused : ∀ permission ∈ tables.permissions, permission.action ≠ id) :
      Step tables (.deleteAction id)
        { tables with actions := tables.actions.filter (·.id ≠ id) }
  | insertRole {new : NewRole} (free : new.name ∉ tables.roles.map Role.name) :
      Step tables (.insertRole new)
        { tables with
          lastId := tables.lastId + 1
          roles := tables.roles ++ [⟨tables.lastId + 1, new.name, new.description, new.status⟩] }
  | setRoleStatus {id : Id} {status : Status} {role : Role}
      (present : tables.role? id = some role) :
      Step tables (.setRoleStatus id status)
        { tables with
          roles := tables.roles.map fun row =>
            if row.id = id then { role with status := status } else row }
  | deleteRole {id : Id} (present : id ∈ tables.roles.map Role.id)
      (unused : ∀ permission ∈ tables.permissions, permission.role ≠ id) :
      Step tables (.deleteRole id)
        { tables with
          roles := tables.roles.filter (·.id ≠ id)
          links := tables.links.filter (·.role ≠ id)
          edges := tables.edges.filter fun edge => edge.parent ≠ id ∧ edge.child ≠ id }
  | assignRole {user role : Id} (someone : user ∈ tables.users.map User.id)
      (present : role ∈ tables.roles.map Role.id) (fresh : ⟨user, role⟩ ∉ tables.links) :
      Step tables (.assignRole user role)
        { tables with links := tables.links ++ [⟨user, role⟩] }
  | unassignRole {user role : Id} (linked : ⟨user, role⟩ ∈ tables.links) :
      Step tables (.unassignRole user role)
        { tables with links := tables.links.filter (· ≠ ⟨user, role⟩) }
  | insertEdge {edge : Edge} (parent : edge.parent ∈ tables.roles.map Role.id)
      (child : edge.child ∈ tables.roles.map Role.id) (fresh : edge ∉ tables.edges)
      (harmless : RoleGraph.wouldCreateCycle tables.edges edge.parent edge.child = false) :
      Step tables (.insertEdge edge) { tables with edges := tables.edges ++ [edge] }
  | deleteEdge {edge : Edge} (stored : edge ∈ tables.edges) :
      Step tables (.deleteEdge edge)
        { tables with edges := tables.edges.filter (· ≠ edge) }
  | insertPermission {new : NewPermission} (role : new.role ∈ tables.roles.map Role.id)
      (resource : new.resource ∈ tables.resources.map Resource.id)
      (action : new.action ∈ tables.actions.map Action.id)
      (fresh : ∀ permission ∈ tables.permissions,
        permission.grants new.role new.resource new.action = false) :
      Step tables (.insertPermission new)
        { tables with
          lastId := tables.lastId + 1
          permissions := tables.permissions ++
            [⟨tables.lastId + 1, new.role, new.resource, new.action, new.status, new.condition,
              new.priority⟩] }
  | deletePermission {role resource action : Id} {permission : Permission}
      (stored : permission ∈ tables.permissions)
      (about : permission.grants role resource action = true) :
      Step tables (.deletePermission role resource action)
        { tables with permissions := tables.permissions.filter (·.id ≠ permission.id) }
  | setPermissionStatus {id : Id} {status : Status} {permission : Permission}
      (present : tables.permission? id = some permission) :
      Step tables (.setPermissionStatus id status)
        { tables with
          permissions := tables.permissions.map fun row =>
            if row.id = id then { permission with status := status } else row }
  | setAttribute {owner : Owner} {id : Id} {key : String} {value : AttributeValue}
      (present : tables.hasOwner owner id = true) :
      Step tables (.setAttribute owner id key value)
        { tables with
          facts := fun other number =>
            if other = owner ∧ number = id then
              (tables.facts owner id).insert key ⟨owner, id, key, value, value.type⟩
            else tables.facts other number }
  | appendAudit {new : NewAuditEntry} :
      Step tables (.appendAudit new)
        { tables with
          lastId := tables.lastId + 1
          audit := tables.audit ++ [⟨new, tables.lastId + 1⟩] }

/-! ### What the checks of a call find out -/

section Rows

variable {ρ : Type} {idOf : ρ → Id} {rows : List ρ} {id : Id}

theorem isSome_find?_id : (rows.find? (idOf · = id)).isSome = true ↔ id ∈ rows.map idOf := by
  rw [List.find?_isSome]
  simp only [decide_eq_true_eq, List.mem_map]

theorem not_any {test : ρ → Bool} : (!rows.any test) = true ↔ ∀ row ∈ rows, test row = false := by
  rw [Bool.not_eq_true', List.any_eq_false]
  simp only [Bool.not_eq_true]

theorem not_any_name {nameOf : ρ → String} {name : String} :
    (!rows.any fun row => nameOf row = name) = true ↔ name ∉ rows.map nameOf := by
  rw [not_any]
  simp only [decide_eq_false_iff_not, List.mem_map, not_exists, not_and]

theorem not_any_other {nameOf : ρ → String} {name : String} :
    (!rows.any fun row => nameOf row = name && some (idOf row) ≠ some id) = true ↔
      ∀ row ∈ rows, nameOf row = name → idOf row = id := by
  rw [not_any]
  grind

end Rows

theorem not_contains {κ : Type} [DecidableEq κ] {items : List κ} {item : κ} :
    (!items.contains item) = true ↔ item ∉ items := by
  rw [Bool.not_eq_true', List.contains_eq_mem, decide_eq_false_iff_not]

variable {tables : Tables}

theorem resourceNameTaken_none {name : String} :
    (!tables.resourceNameTaken name none) = true ↔ name ∉ tables.resources.map Resource.name := by
  rw [← not_any_name, resourceNameTaken]
  simp

theorem actionNameTaken_none {name : String} :
    (!tables.actionNameTaken name none) = true ↔ name ∉ tables.actions.map Action.name := by
  rw [← not_any_name, actionNameTaken]
  simp

/-! ### Every call takes its step -/

theorem insertUser_leads (username : String) :
    (insertUser username).Leads tables fun _ after => Step tables (.insertUser username) after := by
  refine Effect.leads_reading_bind (Effect.leads_ensure_bind fun free => ?_)
  exact Effect.leads_of_value rfl (.insertUser (not_any_name.mp free))

theorem insertResource_leads (new : NewResource) :
    (insertResource new).Leads tables fun _ after => Step tables (.insertResource new) after := by
  refine Effect.leads_reading_bind (Effect.leads_ensure_bind fun free => ?_)
  have free := resourceNameTaken_none.mp free
  cases within : new.parent with
  | some parent =>
    refine Effect.leads_ensure_bind fun present => ?_
    have present := isSome_find?_id.mp present
    refine Effect.leads_of_value rfl ?_
    rw [← within]
    refine .insertResource free ?_
    simpa [within] using present
  | none =>
    refine Effect.leads_of_value rfl ?_
    rw [← within]
    exact .insertResource free (by simp [within])

theorem updateResource_leads (id : Id) (new : NewResource) :
    (updateResource id new).Leads tables
      fun _ after => Step tables (.updateResource id new) after := by
  refine Effect.leads_reading_bind (Effect.leads_ensure_bind fun present => ?_)
  refine Effect.leads_ensure_bind fun free => ?_
  have present := isSome_find?_id.mp present
  have free := not_any_other.mp free
  cases within : new.parent with
  | some parent =>
    refine Effect.leads_ensure_bind fun standing => Effect.leads_ensure_bind fun outside => ?_
    have standing := isSome_find?_id.mp standing
    refine Effect.leads_of_value rfl ?_
    rw [← within]
    refine .updateResource present free fun other same => ?_
    obtain rfl : parent = other := Option.some.inj (within.symm.trans same)
    exact ⟨standing, by simpa using outside⟩
  | none =>
    refine Effect.leads_of_value rfl ?_
    rw [← within]
    exact .updateResource present free (by simp [within])

theorem deleteResource_leads (id : Id) :
    (deleteResource id).Leads tables fun _ after => Step tables (.deleteResource id) after := by
  refine Effect.leads_reading_bind (Effect.leads_ensure_bind fun present => ?_)
  refine Effect.leads_ensure_bind fun childless => Effect.leads_ensure_bind fun unused => ?_
  refine Effect.leads_of_value rfl (.deleteResource (isSome_find?_id.mp present) ?_ ?_)
  · simpa using not_any.mp childless
  · simpa using not_any.mp unused

theorem insertAction_leads (new : NewAction) :
    (insertAction new).Leads tables fun _ after => Step tables (.insertAction new) after := by
  refine Effect.leads_reading_bind (Effect.leads_ensure_bind fun free => ?_)
  exact Effect.leads_of_value rfl (.insertAction (actionNameTaken_none.mp free))

theorem updateAction_leads (id : Id) (new : NewAction) :
    (updateAction id new).Leads tables fun _ after => Step tables (.updateAction id new) after := by
  refine Effect.leads_reading_bind (Effect.leads_ensure_bind fun present => ?_)
  refine Effect.leads_ensure_bind fun free => Effect.leads_of_value rfl ?_
  exact .updateAction (isSome_find?_id.mp present) (not_any_other.mp free)

theorem deleteAction_leads (id : Id) :
    (deleteAction id).Leads tables fun _ after => Step tables (.deleteAction id) after := by
  refine Effect.leads_reading_bind (Effect.leads_ensure_bind fun present => ?_)
  refine Effect.leads_ensure_bind fun unused => Effect.leads_of_value rfl ?_
  refine .deleteAction (isSome_find?_id.mp present) ?_
  simpa using not_any.mp unused

theorem insertRole_leads (new : NewRole) :
    (insertRole new).Leads tables fun _ after => Step tables (.insertRole new) after := by
  refine Effect.leads_reading_bind (Effect.leads_ensure_bind fun free => ?_)
  exact Effect.leads_of_value rfl (.insertRole (not_any_name.mp free))

theorem setRoleStatus_leads (id : Id) (status : Status) :
    (setRoleStatus id status).Leads tables
      fun _ after => Step tables (.setRoleStatus id status) after := by
  refine Effect.leads_reading_bind (Effect.leads_require_bind fun role present => ?_)
  exact Effect.leads_of_value rfl (.setRoleStatus present)

theorem deleteRole_leads (id : Id) :
    (deleteRole id).Leads tables fun _ after => Step tables (.deleteRole id) after := by
  refine Effect.leads_reading_bind (Effect.leads_ensure_bind fun present => ?_)
  refine Effect.leads_ensure_bind fun unused => Effect.leads_of_value rfl ?_
  refine .deleteRole (isSome_find?_id.mp present) ?_
  simpa using not_any.mp unused

theorem assignRole_leads (user role : Id) :
    (assignRole user role).Leads tables
      fun _ after => Step tables (.assignRole user role) after := by
  refine Effect.leads_reading_bind (Effect.leads_ensure_bind fun someone => ?_)
  refine Effect.leads_ensure_bind fun present => Effect.leads_ensure_bind fun fresh => ?_
  exact Effect.leads_of_value rfl (.assignRole (isSome_find?_id.mp someone)
    (isSome_find?_id.mp present) (not_contains.mp fresh))

theorem unassignRole_leads (user role : Id) :
    (unassignRole user role).Leads tables
      fun _ after => Step tables (.unassignRole user role) after := by
  refine Effect.leads_reading_bind (Effect.leads_ensure_bind fun linked => ?_)
  exact Effect.leads_of_value rfl (.unassignRole (List.contains_iff_mem.mp linked))

theorem insertEdge_leads (edge : Edge) :
    (insertEdge edge).Leads tables fun _ after => Step tables (.insertEdge edge) after := by
  refine Effect.leads_reading_bind (Effect.leads_ensure_bind fun parent => ?_)
  refine Effect.leads_ensure_bind fun child => Effect.leads_ensure_bind fun _ => ?_
  refine Effect.leads_ensure_bind fun fresh => Effect.leads_ensure_bind fun harmless => ?_
  exact Effect.leads_of_value rfl (.insertEdge (isSome_find?_id.mp parent)
    (isSome_find?_id.mp child) (not_contains.mp fresh) (by simpa using harmless))

theorem deleteEdge_leads (edge : Edge) :
    (deleteEdge edge).Leads tables fun _ after => Step tables (.deleteEdge edge) after := by
  refine Effect.leads_reading_bind (Effect.leads_ensure_bind fun stored => ?_)
  exact Effect.leads_of_value rfl (.deleteEdge (List.contains_iff_mem.mp stored))

theorem insertPermission_leads (new : NewPermission) :
    (insertPermission new).Leads tables
      fun _ after => Step tables (.insertPermission new) after := by
  refine Effect.leads_reading_bind (Effect.leads_ensure_bind fun role => ?_)
  refine Effect.leads_ensure_bind fun resource => Effect.leads_ensure_bind fun action => ?_
  refine Effect.leads_ensure_bind fun fresh => Effect.leads_of_value rfl ?_
  exact .insertPermission (isSome_find?_id.mp role) (isSome_find?_id.mp resource)
    (isSome_find?_id.mp action) (not_any.mp fresh)

theorem deletePermission_leads (role resource action : Id) :
    (deletePermission role resource action).Leads tables
      fun _ after => Step tables (.deletePermission role resource action) after := by
  refine Effect.leads_reading_bind (Effect.leads_require_bind fun permission found => ?_)
  have about : permission.grants role resource action = true :=
    List.find?_some (p := fun row : Permission => row.grants role resource action) found
  exact Effect.leads_of_value rfl (.deletePermission (List.mem_of_find?_eq_some found) about)

theorem setPermissionStatus_leads (id : Id) (status : Status) :
    (setPermissionStatus id status).Leads tables
      fun _ after => Step tables (.setPermissionStatus id status) after := by
  refine Effect.leads_reading_bind (Effect.leads_require_bind fun permission present => ?_)
  exact Effect.leads_of_value rfl (.setPermissionStatus present)

theorem setAttribute_leads (owner : Owner) (id : Id) (key : String) (value : AttributeValue) :
    (setAttribute owner id key value).Leads tables
      fun _ after => Step tables (.setAttribute owner id key value) after := by
  refine Effect.leads_reading_bind (Effect.leads_ensure_bind fun present => ?_)
  exact Effect.leads_of_value rfl (.setAttribute present)

theorem appendAudit_leads (new : NewAuditEntry) :
    (appendAudit new).Leads tables fun _ after => Step tables (.appendAudit new) after :=
  Effect.leads_of_value rfl .appendAudit

/-- **Every call fails without a trace or takes its step.** -/
theorem call_leads (call : Store.Call) (tables : Tables) :
    (store.call call).Leads tables fun _ after => Step tables call after := by
  cases call with
  | insertUser username => exact Effect.leads_dropped (insertUser_leads username)
  | insertResource new => exact Effect.leads_dropped (insertResource_leads new)
  | updateResource id new => exact Effect.leads_dropped (updateResource_leads id new)
  | deleteResource id => exact deleteResource_leads id
  | insertAction new => exact Effect.leads_dropped (insertAction_leads new)
  | updateAction id new => exact Effect.leads_dropped (updateAction_leads id new)
  | deleteAction id => exact deleteAction_leads id
  | insertRole new => exact Effect.leads_dropped (insertRole_leads new)
  | setRoleStatus id status => exact Effect.leads_dropped (setRoleStatus_leads id status)
  | deleteRole id => exact deleteRole_leads id
  | assignRole user role => exact assignRole_leads user role
  | unassignRole user role => exact unassignRole_leads user role
  | insertEdge edge => exact insertEdge_leads edge
  | deleteEdge edge => exact deleteEdge_leads edge
  | insertPermission new => exact Effect.leads_dropped (insertPermission_leads new)
  | deletePermission role resource action => exact deletePermission_leads role resource action
  | setPermissionStatus id status =>
    exact Effect.leads_dropped (setPermissionStatus_leads id status)
  | setAttribute owner id key value =>
    exact Effect.leads_dropped (setAttribute_leads owner id key value)
  | appendAudit new => exact Effect.leads_dropped (appendAudit_leads new)
  | _ => exact Effect.leads_of_value rfl (.look rfl)

theorem Step.eq_of_looks {before after : Tables} {call : Store.Call} (step : Step before call after)
    (looks : call.looks = true) : after = before := by
  cases step with
  | look _ => rfl
  | _ => cases looks

/-- A call that only looks leaves the tables as they are. -/
theorem look_keeps {kept : Tables → Prop} (call : Store.Call) (looks : call.looks = true) :
    Effect.Keeps kept (store.call call) := by
  intro tables holds
  obtain ⟨_, after, ended, step⟩ | ⟨cause, failed⟩ := Effect.leads_iff.mp (call_leads call tables)
  · rw [ended]
    exact (step.eq_of_looks looks).symm ▸ holds
  · rw [failed]
    exact holds

/-! ### Runs -/

/-- The tables that some calls, whatever each comes to, make of empty ones. -/
inductive Reachable : Tables → Prop where
  | start : Reachable empty
  | call {tables : Tables} (call : Store.Call) (before : Reachable tables) :
      Reachable (store.call call tables).2

theorem Reachable.after {tables : Tables} (reachable : Reachable tables)
    (calls : List Store.Call) : Reachable (store.after calls tables) := by
  induction calls generalizing tables with
  | nil => exact reachable
  | cons call rest ih => exact ih (reachable.call call)

/-- What empty tables have and every step keeps, all reachable tables have. -/
theorem Reachable.induction (kept : Tables → Prop) (start : kept empty)
    (step : ∀ {before after : Tables} {call : Store.Call},
      Step before call after → kept before → kept after)
    {tables : Tables} (reachable : Reachable tables) : kept tables := by
  induction reachable with
  | start => exact start
  | @call before call _ ih =>
    obtain ⟨_, after, ended, taken⟩ | ⟨cause, failed⟩ :=
      Effect.leads_iff.mp (call_leads call before)
    · rw [ended]
      exact step taken ih
    · rw [failed]
      exact ih

end Tables

end AccessControl

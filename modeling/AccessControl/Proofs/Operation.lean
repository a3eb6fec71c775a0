/-
**What an operation makes of the tables.**

* `Operation.Asks` — the one call of an operation that may change the tables, its names and keys
  without the blanks at their ends. A check and a call of the logger ask for an entry of the log,
  and the operations that only look ask for nothing.
* `Authority.perform_step` — **an operation leaves the tables as they were, or it is answered and
  takes the step of the call that it asks for.**
* `Moment`, `Authority.moments` — the operations of a run, each with the tables that it found and
  with its ending.
-/

import AccessControl.Proofs.Audit.Independence

namespace AccessControl

open Check (World)

/-- The call by which an operation may change the tables. -/
inductive Operation.Asks : Operation → Store.Call → Prop where
  | createUser {username : String} : Asks (.createUser username) (.insertUser (Text.trim username))
  | createRole {new : NewRole} :
      Asks (.createRole new) (.insertRole { new with name := Text.trim new.name })
  | setRoleStatus {id : Id} {status : Status} :
      Asks (.setRoleStatus id status) (.setRoleStatus id status)
  | deleteRole {id : Id} : Asks (.deleteRole id) (.deleteRole id)
  | assignRole {user role : Id} : Asks (.assignRole user role) (.assignRole user role)
  | unassignRole {user role : Id} : Asks (.unassignRole user role) (.unassignRole user role)
  | addInheritance {parent child : Id} :
      Asks (.addInheritance parent child) (.insertEdge ⟨parent, child⟩)
  | removeInheritance {parent child : Id} :
      Asks (.removeInheritance parent child) (.deleteEdge ⟨parent, child⟩)
  | createResource {new : NewResource} :
      Asks (.createResource new) (.insertResource { new with name := Text.trim new.name })
  | updateResource {id : Id} {new : NewResource} :
      Asks (.updateResource id new) (.updateResource id { new with name := Text.trim new.name })
  | deleteResource {id : Id} : Asks (.deleteResource id) (.deleteResource id)
  | createAction {new : NewAction} :
      Asks (.createAction new) (.insertAction { new with name := Text.trim new.name })
  | updateAction {id : Id} {new : NewAction} :
      Asks (.updateAction id new) (.updateAction id { new with name := Text.trim new.name })
  | deleteAction {id : Id} : Asks (.deleteAction id) (.deleteAction id)
  | grant {grant : Administration.Grant} {new : NewPermission} (role : new.role = grant.role)
      (resource : new.resource = grant.resource) (action : new.action = grant.action) :
      Asks (.grant grant) (.insertPermission new)
  | revoke {role resource action : Id} :
      Asks (.revoke role resource action) (.deletePermission role resource action)
  | setPermissionStatus {id : Id} {status : Status} :
      Asks (.setPermissionStatus id status) (.setPermissionStatus id status)
  | setAttribute {owner : Owner} {id : Id} {key : String} {value : AttributeValue} :
      Asks (.setAttribute owner id key value) (.setAttribute owner id (Text.trim key) value)
  | check {request : Check.Request} {entry : NewAuditEntry} :
      Asks (.check request) (.appendAudit entry)
  | logCheck {request : Check.Request} {result : Bool} {reason : String} {entry : NewAuditEntry} :
      Asks (.logCheck request result reason) (.appendAudit entry)

namespace Tables

variable {α β : Type} {call : Store.Call} {effect : Effect Error Tables α}

/-- An effect leaves the tables that are a part of its state as they were, or it ends with a value
and a call takes its step there. -/
def Takes {σ : Type} (part : σ → Tables) (call : Store.Call) (effect : Effect Error σ α) : Prop :=
  ∀ state, part (effect state).2 = part state ∨
    (∃ result, (effect state).1 = .value result) ∧ Step (part state) call (part (effect state).2)

theorem takes_call (call : Store.Call) : Takes id call (store.call call) := by
  intro tables
  obtain ⟨_, after, ended, step⟩ | ⟨cause, failed⟩ := Effect.leads_iff.mp (call_leads call tables)
  · rw [ended]
    exact .inr ⟨⟨(), rfl⟩, step⟩
  · rw [failed]
    exact .inl rfl

theorem takes_of_call (call : Store.Call) (same : store.call call = effect.dropped) :
    Takes id call effect := by
  intro tables
  have takes := takes_call call tables
  rw [same] at takes
  unfold Effect.dropped at takes
  rw [Effect.bind_apply] at takes
  generalize effect tables = run at takes ⊢
  obtain ⟨result | _ | _, after⟩ := run
  · exact takes.imp id fun step => ⟨⟨result, rfl⟩, step.2⟩
  · exact takes.imp id fun step => nomatch step.1
  · exact takes.imp id fun step => nomatch step.1

theorem takes_ensure {condition : Bool} {otherwise : Error} {next : Unit → Effect Error Tables β}
    (takes : Takes id call (next ())) :
    Takes id call (Effect.ensure condition otherwise >>= next) := by
  cases condition with
  | true => exact takes
  | false => exact fun _ => .inl rfl

/-- A name is looked at before it is used, and used without the blanks at its ends. -/
theorem takes_properName {entity : Entity} {name : String} {next : String → Effect Error Tables β}
    (takes : Takes id call (next (Text.trim name))) :
    Takes id call (Administration.properName entity name >>= next) := by
  unfold Administration.properName
  cases (!(Text.trim name).isEmpty)
  · exact fun _ => .inl rfl
  · exact takes

end Tables

namespace Authority

open Tables (Step Takes takes_call takes_of_call takes_ensure takes_properName)

theorem takes_onTables {α : Type} {effect : Effect Error Tables α} {call : Store.Call}
    (answer : α → Answer) (takes : Takes id call effect) :
    Takes (Prod.fst : World Tables → Tables) call (onTables answer effect) := by
  intro world
  rw [onTables_apply]
  rcases takes world.1 with alone | ⟨⟨result, ended⟩, step⟩
  · exact .inl alone
  · exact .inr ⟨⟨answer result, congrArg (Ending.map answer) ended⟩, step⟩

/-- **An operation on the tables is answered, or it fails and leaves the world as it was.** -/
theorem onTables_ends {α : Type} (answer : α → Answer) {effect : Effect Error Tables α}
    {allowed : Tables → α → Tables → Prop}
    (leads : ∀ tables, effect.Leads tables (allowed tables)) (world : World Tables) :
    (∃ row rest, allowed world.1 row rest ∧
      onTables answer effect world = (.value (answer row), rest, world.2)) ∨
      ∃ cause, onTables answer effect world = (.error cause, world) := by
  rw [onTables_apply]
  obtain ⟨row, rest, ended, fine⟩ | ⟨cause, failed⟩ := Effect.leads_iff.mp (leads world.1)
  · rw [ended]
    exact .inl ⟨row, rest, fine, rfl⟩
  · rw [failed]
    exact .inr ⟨cause, rfl⟩

/-- An operation that is a call of the store is done in its step, or fails and changes nothing. -/
theorem onTablesOnly_ends (call : Store.Call) (world : World Tables) :
    (∃ after, Step world.1 call after ∧
      onTablesOnly (Tables.store.call call) world = (.value .done, after, world.2)) ∨
      ∃ cause, onTablesOnly (Tables.store.call call) world = (.error cause, world) := by
  obtain ⟨-, after, step, ended⟩ | ⟨cause, failed⟩ :=
    onTables_ends (fun _ => .done) (Tables.call_leads call) world
  · exact .inl ⟨after, step, ended⟩
  · exact .inr ⟨cause, failed⟩

theorem perform_looking (settings : Settings) {operation : Operation}
    (looking : operation.looks = true) (world : World Tables) :
    ((ofStore Tables.store settings).perform operation world).2 = world := by
  have same := @perform_looks _ (· = world.1) Tables.store (· = world.2) Tables.look_keeps settings
    operation looking world ⟨rfl, rfl⟩
  exact Prod.ext same.1 same.2

theorem perform_check (settings : Settings) (request : Check.Request) (world : World Tables) :
    (ofStore Tables.store settings).perform (.check request) world =
      ((Check.check Tables.store (ofStore Tables.store settings).logger request world).1.map
          .decision,
        (Check.check Tables.store (ofStore Tables.store settings).logger request world).2) :=
  Effect.map_apply _ _ world

/-- A call of the logger always comes to an end, having recorded what it found if it is enabled. -/
theorem perform_logCheck (settings : Settings) (request : Check.Request) (result : Bool)
    (reason : String) (world : World Tables) :
    (ofStore Tables.store settings).perform (.logCheck request result reason) world =
      (.value .done,
        if settings.enableAudit then
          world.1.recording ((ofStore Tables.store settings).logger.found request.user
            request.resource request.action result reason request.context world.1).1
        else world.1,
        world.2) := by
  have run := onTables_apply (fun _ => .done) ((AuditLogger.ofStore Tables.store
    settings.enableAudit).log request.user request.resource request.action result reason
      request.context) world
  rw [AuditLogger.log_ofStore] at run
  exact run

/-- **An operation leaves the tables as they were, or it is answered and takes the step of the call
that it asks for.** -/
theorem perform_step (settings : Settings) (operation : Operation) (world : World Tables) :
    ((ofStore Tables.store settings).perform operation world).2.1 = world.1 ∨
      (∃ answer, ((ofStore Tables.store settings).perform operation world).1 = .value answer) ∧
        ∃ call, operation.Asks call ∧
          Step world.1 call ((ofStore Tables.store settings).perform operation world).2.1 := by
  have answers := AuditLogger.answers_ofStore settings.enableAudit
  have records := AuditLogger.onlyRecords_ofStore settings.enableAudit
  have asked {call : Store.Call} (asks : operation.Asks call)
      (takes : Takes Prod.fst call ((ofStore Tables.store settings).perform operation)) :
      ((ofStore Tables.store settings).perform operation world).2.1 = world.1 ∨
        (∃ answer, ((ofStore Tables.store settings).perform operation world).1 = .value answer) ∧
          ∃ call, operation.Asks call ∧
            Step world.1 call ((ofStore Tables.store settings).perform operation world).2.1 :=
    (takes world).imp id fun step => ⟨step.1, call, asks, step.2⟩
  cases operation with
  | createUser username =>
    exact asked .createUser
      (takes_onTables _ (takes_properName (takes_of_call (.insertUser _) rfl)))
  | createRole new =>
    exact asked .createRole
      (takes_onTables _ (takes_properName (takes_of_call (.insertRole _) rfl)))
  | setRoleStatus id status =>
    exact asked .setRoleStatus (takes_onTables _ (takes_of_call (.setRoleStatus id status) rfl))
  | deleteRole id => exact asked .deleteRole (takes_onTables _ (takes_call (.deleteRole id)))
  | assignRole user role =>
    exact asked .assignRole (takes_onTables _ (takes_call (.assignRole user role)))
  | unassignRole user role =>
    exact asked .unassignRole (takes_onTables _ (takes_call (.unassignRole user role)))
  | addInheritance parent child =>
    exact asked .addInheritance (takes_onTables _ (takes_call (.insertEdge ⟨parent, child⟩)))
  | removeInheritance parent child =>
    exact asked .removeInheritance (takes_onTables _ (takes_call (.deleteEdge ⟨parent, child⟩)))
  | createResource new =>
    exact asked .createResource
      (takes_onTables _ (takes_properName (takes_of_call (.insertResource _) rfl)))
  | updateResource id new =>
    exact asked .updateResource
      (takes_onTables _ (takes_properName (takes_of_call (.updateResource id _) rfl)))
  | deleteResource id =>
    exact asked .deleteResource (takes_onTables _ (takes_call (.deleteResource id)))
  | createAction new =>
    exact asked .createAction
      (takes_onTables _ (takes_properName (takes_of_call (.insertAction _) rfl)))
  | updateAction id new =>
    exact asked .updateAction
      (takes_onTables _ (takes_properName (takes_of_call (.updateAction id _) rfl)))
  | deleteAction id => exact asked .deleteAction (takes_onTables _ (takes_call (.deleteAction id)))
  | grant grant =>
    exact asked (.grant rfl rfl rfl) (takes_onTables _ (takes_of_call (.insertPermission _) rfl))
  | revoke role resource action =>
    exact asked .revoke (takes_onTables _ (takes_call (.deletePermission role resource action)))
  | setPermissionStatus id status =>
    exact asked .setPermissionStatus
      (takes_onTables _ (takes_of_call (.setPermissionStatus id status) rfl))
  | setAttribute owner id key value =>
    exact asked .setAttribute
      (takes_onTables _ (takes_ensure (takes_of_call (.setAttribute owner id _ value) rfl)))
  | check request =>
    rw [perform_check]
    rcases Check.check_leaves answers records request world with
      alone | ⟨⟨decision, ended⟩, -, entry, -, -, more⟩
    · exact .inl alone
    · refine .inr ⟨⟨_, congrArg (Ending.map Answer.decision) ended⟩, .appendAudit entry, .check, ?_⟩
      exact more ▸ Step.appendAudit
  | logCheck request result reason =>
    rw [perform_logCheck]
    split
    · exact .inr ⟨⟨_, rfl⟩, .appendAudit _, .logCheck, .appendAudit⟩
    · exact .inl rfl
  | clearCache => exact .inl rfl
  | _ => exact .inl (congrArg Prod.fst (perform_looking settings rfl world))

end Authority

/-! ### The moments of a run -/

/-- One operation of a run: the tables that it found, and how it ended. -/
structure Moment where
  tables : Tables
  operation : Operation
  ending : Ending Error Answer

namespace Authority

def moment (authority : Authority Tables) (operation : Operation) (world : World Tables) : Moment :=
  ⟨world.1, operation, (authority.perform operation world).1⟩

def moments (authority : Authority Tables) : List Operation → World Tables → List Moment
  | [], _ => []
  | operation :: rest, world =>
    authority.moment operation world :: authority.moments rest (authority.perform operation world).2

/-- A run that goes on. -/
theorem run_append (authority : Authority Tables) (operations more : List Operation)
    (world : World Tables) :
    (authority.run (operations ++ more) world).2 =
      (authority.run more (authority.run operations world).2).2 := by
  induction operations generalizing world with
  | nil => rfl
  | cons operation rest ih => exact ih _

end Authority

end AccessControl

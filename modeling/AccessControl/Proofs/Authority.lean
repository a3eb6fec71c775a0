/-
**What every run of an authority keeps.**

* `Operation.looks`, `Authority.perform_looks` — an operation that only looks does to the tables
  only what looking calls of the store do, and nothing to the expression engine.
* `Authority.perform_keeps` — an operation does to the tables only what calls of the store do, and
  to the expression engine only what answering and forgetting do: what all calls keep of the tables,
  every operation keeps, beside a faithful engine.
* `Authority.Reachable` — the worlds that operations of an authority over tables in memory, and
  calls to its store from elsewhere, make of the first one.
* `Authority.Reachable.keeping` — **in a reachable world the tables are reachable and the engine is
  faithful.**
-/

import AccessControl.Authority
import AccessControl.Proofs.Condition
import AccessControl.Proofs.Tables.Step

namespace AccessControl

open Check (World)
open Effect

variable {σ : Type}

/-! ### What calls keep, operations keep -/

section Keeping

variable {kept : σ → Prop} {store : Store σ}

/-- A call keeps what it keeps when its result is dropped. -/
theorem Store.keeps_of_call {α : Type} {effect : Effect Error σ α} {call : Store.Call}
    (keeps : Keeps kept (store.call call)) (same : store.call call = effect.dropped) :
    Keeps kept effect := by
  intro state holds
  have after := keeps state holds
  rw [same] at after
  unfold dropped at after
  rw [bind_apply] at after
  generalize effect state = run at after ⊢
  obtain ⟨_ | _ | _, _⟩ := run <;> exact after

namespace Administration

theorem keeps_properName (entity : Entity) (name : String) :
    Keeps kept (properName entity name : Effect Error σ String) :=
  keeps_bind (keeps_ensure _ _) fun _ => keeps_pure _

theorem keeps_found {α : Type} {lookUp : Effect Error σ (Option α)} (looks : Keeps kept lookUp)
    (otherwise : Error) : Keeps kept (found lookUp otherwise) :=
  keeps_bind looks fun content => keeps_require content otherwise

variable (looks : ∀ call : Store.Call, call.looks = true → Keeps kept (store.call call))

include looks

theorem keeps_user (id : Id) : Keeps kept (user store id) :=
  keeps_found (store.keeps_of_call (looks (.user id) rfl) rfl) _

theorem keeps_role (id : Id) : Keeps kept (role store id) :=
  keeps_found (store.keeps_of_call (looks (.role id) rfl) rfl) _

theorem keeps_resource (id : Id) : Keeps kept (resource store id) :=
  keeps_found (store.keeps_of_call (looks (.resource id) rfl) rfl) _

theorem keeps_resourceByName (name : String) : Keeps kept (resourceByName store name) :=
  keeps_found (store.keeps_of_call (looks (.resourceByName name) rfl) rfl) _

theorem keeps_actionByName (name : String) : Keeps kept (actionByName store name) :=
  keeps_found (store.keeps_of_call (looks (.actionByName name) rfl) rfl) _

theorem keeps_rolesWithIds (ids : List Id) : Keeps kept (rolesWithIds store ids) :=
  keeps_bind (keeps_forEach (fun id => store.keeps_of_call (looks (.role id) rfl) rfl) ids)
    fun _ => keeps_pure _

/-- The relatives of a role are found by looking. -/
theorem keeps_relatives (id : Id) (relatives : List Edge → List Id) :
    Keeps kept (do
      let _ ← role store id
      let edges ← store.edges
      rolesWithIds store (relatives edges)) :=
  keeps_bind (keeps_role looks id) fun _ =>
    keeps_bind (store.keeps_of_call (looks .edges rfl) rfl) fun _ => keeps_rolesWithIds looks _

theorem keeps_detail (permission : Permission) : Keeps kept (detail store permission) := by
  refine keeps_bind (keeps_found (store.keeps_of_call (looks (.resource _) rfl) rfl) _) fun _ => ?_
  refine keeps_bind (keeps_found (store.keeps_of_call (looks (.action _) rfl) rfl) _) fun _ => ?_
  refine keeps_bind ?_ fun _ => keeps_pure _
  cases permission.condition with
  | none => exact keeps_pure _
  | some text => exact keeps_bind (keeps_ending _) fun _ => keeps_pure _

theorem keeps_activeDetails (permissions : List Permission) :
    Keeps kept (activeDetails store permissions) :=
  keeps_forEach (keeps_detail looks) _

end Administration

/-- What is recorded about a check is a call of the store. -/
theorem AuditLogger.keeps_log (calls : ∀ call, Keeps kept (store.call call)) {enabled : Bool}
    {user : Id} {resource action : String} {result : Bool} {reason context : String} :
    Keeps kept ((ofStore store enabled).log user resource action result reason context) := by
  unfold log
  split
  · refine keeps_bind (keeps_recover _ (keeps_bind ?_ fun _ => keeps_pure _)) fun _ => ?_
    · exact store.keeps_of_call (calls (.resourceByName resource)) rfl
    refine keeps_bind (keeps_recover _ (keeps_bind ?_ fun _ => keeps_pure _)) fun _ => ?_
    · exact store.keeps_of_call (calls (.actionByName action)) rfl
    exact keeps_recover _ (calls (.appendAudit _))
  · exact keeps_pure _

/-! ### The engine beside the tables -/

/-- What holds of a world: of its tables what is given, and its engine is faithful. -/
def Check.World.Keeping (kept : σ → Prop) (world : World σ) : Prop :=
  kept world.1 ∧ world.2.Faithful

namespace Check

theorem keeps_firstHolding (circumstances : Id → Circumstances) (permissions : List Permission) :
    Keeps Expression.Engine.Faithful (firstHolding circumstances permissions) := by
  induction permissions with
  | nil => exact keeps_pure _
  | cons permission rest ih =>
    refine keeps_bind (fun engine faithful => ?_) fun holding => ?_
    · exact (Condition.holds_faithful faithful (circumstances permission.id) permission.condition).2
    · cases holding with
      | true => exact keeps_pure _
      | false => exact ih

section Looking

variable {keptEngine : Expression.Engine → Prop}
  (looks : ∀ call : Store.Call, call.looks = true → Keeps kept (store.call call))
  (asks : ∀ circumstances permissions, Keeps keptEngine (firstHolding circumstances permissions))

include looks

theorem keeps_resolve (request : Request) : Keeps kept (resolve store request) :=
  keeps_bind (Administration.keeps_user looks _) fun _ =>
    keeps_bind (Administration.keeps_resourceByName looks _) fun _ =>
      keeps_bind (Administration.keeps_actionByName looks _) fun _ => keeps_pure _

include asks

theorem keeps_firstGrant (resource action : Id) (circumstances : Id → Circumstances)
    (roles : List Role) :
    Keeps (fun world => kept world.1 ∧ keptEngine world.2)
      (firstGrant store resource action circumstances roles) := by
  induction roles with
  | nil => exact keeps_pure _
  | cons role rest ih =>
    have permissions : Keeps kept (store.rolePermissions role.id) :=
      store.keeps_of_call (looks (.rolePermissions role.id) rfl) rfl
    refine keeps_bind (keeps_onFirst permissions) fun _ => ?_
    refine keeps_bind (keeps_onSecond (asks circumstances _)) fun found => ?_
    cases found with
    | some permission => exact keeps_pure _
    | none => exact ih

/-- A decision is found by looking, and by asking the engine. -/
theorem keeps_decide (request : Request) :
    Keeps (fun world => kept world.1 ∧ keptEngine world.2) (decide store request) := by
  refine keeps_bind (keeps_onFirst (keeps_resolve looks request)) fun (user, resource, _) => ?_
  have roles : Keeps kept (store.userRoles user) :=
    store.keeps_of_call (looks (.userRoles user) rfl) rfl
  have facts (owner : Owner) (id : Id) : Keeps kept (store.attributes owner id) :=
    store.keeps_of_call (looks (.attributes owner id) rfl) rfl
  refine keeps_bind (keeps_onFirst roles) fun _ => ?_
  dsimp only
  split
  · exact keeps_pure _
  · refine keeps_bind (keeps_onFirst (facts .user user)) fun _ => ?_
    refine keeps_bind (keeps_onFirst (facts .resource resource)) fun _ => ?_
    exact keeps_bind (keeps_firstGrant looks asks _ _ _ _) fun _ => keeps_pure _

end Looking

theorem keeps_check (calls : ∀ call, Keeps kept (store.call call)) (enabled : Bool)
    (request : Request) :
    Keeps (World.Keeping kept) (check store (.ofStore store enabled) request) :=
  keeps_bind (keeps_decide (fun call _ => calls call) keeps_firstHolding request) fun _ =>
    keeps_bind (keeps_onFirst (AuditLogger.keeps_log calls)) fun _ => keeps_pure _

end Check

/-- Whether an operation only looks. -/
def Operation.looks : Operation → Bool
  | .getUser _ | .getRole _ | .getRoleByName _ | .listRoles | .getUserRoles _
  | .getRoleHierarchy _ | .getRoleChildren _ | .getResource _ | .getResourceByName _
  | .listResources | .getResourceChildren _ | .getAction _ | .getActionByName _ | .listActions
  | .getPermission _ | .getRolePermissions _ | .getUserPermissions _ | .getAttributes ..
  | .recentEntries _ | .auditStats => true
  | _ => false

namespace Authority

/-- An operation on the tables leaves the engine alone. -/
theorem onTables_apply {α : Type} (answer : α → Answer) (effect : Effect Error σ α)
    (world : World σ) :
    onTables answer effect world =
      ((effect world.1).1.map answer, (effect world.1).2, world.2) := by
  unfold onTables
  rw [bind_apply]
  unfold onFirst
  generalize effect world.1 = run
  obtain ⟨_ | _ | _, after⟩ := run <;> rfl

theorem keeps_onTables {keptEngine : Expression.Engine → Prop} {α : Type}
    {effect : Effect Error σ α} (answer : α → Answer) (keeps : Keeps kept effect) :
    Keeps (fun world => kept world.1 ∧ keptEngine world.2) (onTables answer effect) :=
  keeps_bind (keeps_onFirst keeps) fun _ => keeps_pure _

open Administration in
/-- **What looking calls of a store keep, every looking operation keeps**, and whatever holds of the
engine still does. -/
theorem perform_looks {keptEngine : Expression.Engine → Prop}
    (looks : ∀ call : Store.Call, call.looks = true → Keeps kept (store.call call))
    (settings : Settings) {operation : Operation} (looking : operation.looks = true) :
    Keeps (fun world => kept world.1 ∧ keptEngine world.2)
      ((ofStore store settings).perform operation) := by
  have ask {α : Type} {effect : Effect Error σ α} (call : Store.Call) (look : call.looks = true)
      (same : store.call call = effect.dropped) : Keeps kept effect :=
    store.keeps_of_call (looks call look) same
  cases operation with
  | getUser id => exact keeps_onTables _ (keeps_user looks id)
  | getRole id => exact keeps_onTables _ (keeps_role looks id)
  | getRoleByName name => exact keeps_onTables _ (keeps_found (ask (.roleByName name) rfl rfl) _)
  | listRoles => exact keeps_onTables _ (ask .roles rfl rfl)
  | getUserRoles id =>
    exact keeps_onTables _ (keeps_bind (keeps_user looks id) fun _ =>
      keeps_bind (ask (.userRoles id) rfl rfl) fun _ => keeps_pure _)
  | getRoleHierarchy id =>
    exact keeps_onTables _ (keeps_relatives looks id fun edges => RoleGraph.ancestors edges id)
  | getRoleChildren id =>
    exact keeps_onTables _ (keeps_relatives looks id fun edges => RoleGraph.children edges id)
  | getResource id => exact keeps_onTables _ (keeps_resource looks id)
  | getResourceByName name => exact keeps_onTables _ (keeps_resourceByName looks name)
  | listResources => exact keeps_onTables _ (ask .resources rfl rfl)
  | getResourceChildren id =>
    exact keeps_onTables _ (keeps_bind (keeps_resource looks id) fun _ =>
      ask (.childResources id) rfl rfl)
  | getAction id => exact keeps_onTables _ (keeps_found (ask (.action id) rfl rfl) _)
  | getActionByName name => exact keeps_onTables _ (keeps_actionByName looks name)
  | listActions => exact keeps_onTables _ (ask .actions rfl rfl)
  | getPermission id => exact keeps_onTables _ (keeps_found (ask (.permission id) rfl rfl) _)
  | getRolePermissions id =>
    exact keeps_onTables _ (keeps_bind (keeps_role looks id) fun _ =>
      keeps_bind (ask (.rolePermissions id) rfl rfl) fun _ => keeps_activeDetails looks _)
  | getUserPermissions id =>
    refine keeps_onTables _ (keeps_bind (keeps_user looks id) fun _ =>
      keeps_bind (ask (.userRoles id) rfl rfl) fun _ =>
        keeps_bind (keeps_forEach (fun role => ?_) _) fun _ => keeps_pure _)
    exact keeps_bind (ask (.rolePermissions role.id) rfl rfl) fun _ => keeps_activeDetails looks _
  | getAttributes owner id =>
    exact keeps_onTables _ (keeps_bind (ask (.attributes owner id) rfl rfl) fun _ => keeps_pure _)
  | recentEntries query => exact keeps_onTables _ (ask (.auditEntries query) rfl rfl)
  | auditStats => exact keeps_onTables _ (ask .auditStats rfl rfl)
  | _ => cases looking

open Administration in
/-- **What all calls of a store keep, every operation keeps**, and the engine stays faithful. -/
theorem perform_keeps (calls : ∀ call, Keeps kept (store.call call)) (settings : Settings)
    (operation : Operation) :
    Keeps (World.Keeping kept) ((ofStore store settings).perform operation) := by
  have ask {α : Type} {effect : Effect Error σ α} (call : Store.Call)
      (same : store.call call = effect.dropped) : Keeps kept effect :=
    store.keeps_of_call (calls call) same
  cases operation with
  | createUser username =>
    exact keeps_onTables _
      (keeps_bind (keeps_properName _ _) fun name => ask (.insertUser name) rfl)
  | createRole new =>
    exact keeps_onTables _ (keeps_bind (keeps_properName _ _) fun _ => ask (.insertRole _) rfl)
  | setRoleStatus id status => exact keeps_onTables _ (ask (.setRoleStatus id status) rfl)
  | deleteRole id => exact keeps_onTables _ (calls (.deleteRole id))
  | assignRole user role => exact keeps_onTables _ (calls (.assignRole user role))
  | unassignRole user role => exact keeps_onTables _ (calls (.unassignRole user role))
  | addInheritance parent child => exact keeps_onTables _ (calls (.insertEdge ⟨parent, child⟩))
  | removeInheritance parent child => exact keeps_onTables _ (calls (.deleteEdge ⟨parent, child⟩))
  | createResource new =>
    exact keeps_onTables _ (keeps_bind (keeps_properName _ _) fun _ => ask (.insertResource _) rfl)
  | updateResource id new =>
    exact keeps_onTables _ (keeps_bind (keeps_properName _ _) fun _ =>
      ask (.updateResource id _) rfl)
  | deleteResource id => exact keeps_onTables _ (calls (.deleteResource id))
  | createAction new =>
    exact keeps_onTables _ (keeps_bind (keeps_properName _ _) fun _ => ask (.insertAction _) rfl)
  | updateAction id new =>
    exact keeps_onTables _ (keeps_bind (keeps_properName _ _) fun _ => ask (.updateAction id _) rfl)
  | deleteAction id => exact keeps_onTables _ (calls (.deleteAction id))
  | grant grant => exact keeps_onTables _ (ask (.insertPermission _) rfl)
  | revoke role resource action =>
    exact keeps_onTables _ (calls (.deletePermission role resource action))
  | setPermissionStatus id status =>
    exact keeps_onTables _ (ask (.setPermissionStatus id status) rfl)
  | setAttribute owner id key value =>
    exact keeps_onTables _ (keeps_bind (keeps_ensure _ _) fun _ =>
      ask (.setAttribute owner id _ value) rfl)
  | check request => exact keeps_bind (Check.keeps_check calls _ request) fun _ => keeps_pure _
  | logCheck request result reason => exact keeps_onTables _ (AuditLogger.keeps_log calls)
  | clearCache =>
    exact fun world holds => ⟨holds.1, Expression.Engine.faithful_cleared world.2⟩
  | _ => exact perform_looks (fun call _ => calls call) settings rfl

end Authority

end Keeping

/-! ### Reachable worlds -/

namespace Authority

/-- The worlds that operations, and calls of the store from elsewhere, make of the first one,
whatever each comes to. -/
inductive Reachable (authority : Authority Tables) : World Tables → Prop where
  | start : Reachable authority (Tables.empty, authority.engine)
  | perform {world : World Tables} (operation : Operation) (before : Reachable authority world) :
      Reachable authority (authority.perform operation world).2
  | call {world : World Tables} (call : Store.Call) (before : Reachable authority world) :
      Reachable authority ((authority.store.call call world.1).2, world.2)

namespace Reachable

variable {settings : Settings} {world : World Tables}

/-- **In a reachable world the tables are reachable and the engine is faithful.** -/
theorem keeping (reachable : (ofStore Tables.store settings).Reachable world) :
    World.Keeping Tables.Reachable world := by
  have calls (call : Store.Call) : Keeps Tables.Reachable (Tables.store.call call) :=
    fun _ before => before.call call
  induction reachable with
  | start => exact ⟨.start, Expression.Engine.faithful_fresh _⟩
  | perform operation _ ih => exact perform_keeps calls settings operation _ ih
  | call call _ ih => exact ⟨calls call _ ih.1, ih.2⟩

theorem run {authority : Authority Tables} (reachable : authority.Reachable world)
    (operations : List Operation) : authority.Reachable (authority.run operations world).2 := by
  induction operations generalizing world with
  | nil => exact reachable
  | cons operation rest ih => exact ih (reachable.perform operation)

theorem after {authority : Authority Tables} (reachable : authority.Reachable world)
    (calls : List Store.Call) :
    authority.Reachable (authority.store.after calls world.1, world.2) := by
  induction calls generalizing world with
  | nil => exact reachable
  | cons call rest ih => exact ih (reachable.call call)

end Reachable

end Authority

end AccessControl

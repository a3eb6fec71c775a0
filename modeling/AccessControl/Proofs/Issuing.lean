/-
**Ids in sequence.**

* `Numbered`, `Tables.idsOf` — what takes an id, and the ids that the rows of each kind have.
* `Tables.Continues` — between two states of the tables some ids were issued, one after the other.
  It holds over no time at all, over every step, and over what follows one upon the other.
* `Authority.issued` — what a run shows to have been issued: the ids of the rows in its answers, and
  those of the entries that it added to the log.
* `Moment.Mentions`, `Tables.Mentions` — the ids in a decision, in the entries of the log, and in
  the links, edges and grants.
* `Authority.ids_in_sequence` — **the n-th id of a run is n, and an id that something mentions never
  comes to denote anything else.**
-/

import AccessControl.Proofs.Atomicity
import AccessControl.Proofs.Audit.History

namespace AccessControl

open Check (World)
open Tables (Step Sound)

/-! ### What takes an id -/

/-- What takes an id of the sequence. -/
inductive Numbered where
  | user
  | role
  | resource
  | action
  | grant
  | entry
  deriving Repr, DecidableEq

/-- What a call takes an id for, if it does. -/
def Store.Call.numbers? : Store.Call → Option Numbered
  | .insertUser _ => some .user
  | .insertRole _ => some .role
  | .insertResource _ => some .resource
  | .insertAction _ => some .action
  | .insertPermission _ => some .grant
  | .appendAudit _ => some .entry
  | _ => none

def Store.Call.entries (id : Id) : Store.Call → List AuditEntry
  | .appendAudit new => [⟨new, id⟩]
  | _ => []

theorem Store.Call.numbers?_of_looks {call : Store.Call} (looks : call.looks = true) :
    call.numbers? = none := by
  cases call <;> first | rfl | cases looks

namespace Tables

variable {before between after : Tables} {issued later : List (Numbered × Id)}

/-- The ids that the rows of one kind have. -/
def idsOf (tables : Tables) : Numbered → List Id
  | .user => tables.users.map User.id
  | .role => tables.roles.map Role.id
  | .resource => tables.resources.map Resource.id
  | .action => tables.actions.map Action.id
  | .grant => tables.permissions.map Permission.id
  | .entry => tables.audit.map AuditEntry.id

/-- From one state of the tables to a later one ids were issued, the next one first and each one
once; what has an id afterwards had it before or was given one of these. -/
structure Continues (before after : Tables) (issued : List (Numbered × Id)) : Prop where
  consecutive : issued.map Prod.snd =
    (List.range issued.length).map fun place : Nat => before.lastId + 1 + place
  last : after.lastId = before.lastId + issued.length
  denoted : ∀ kind id, id ∈ after.idsOf kind → id ∈ before.idsOf kind ∨ (kind, id) ∈ issued

namespace Continues

theorem still (same : after.lastId = before.lastId)
    (fewer : ∀ kind, after.idsOf kind ⊆ before.idsOf kind) : Continues before after [] where
  consecutive := rfl
  last := same.trans (Int.add_zero _).symm
  denoted kind _ member := .inl (fewer kind member)

/-- One id is issued. -/
theorem next {kind : Numbered} (next : after.lastId = before.lastId + 1)
    (more : ∀ other id, id ∈ after.idsOf other →
      id ∈ before.idsOf other ∨ other = kind ∧ id = before.lastId + 1) :
    Continues before after [(kind, before.lastId + 1)] where
  consecutive := by simp
  last := next
  denoted other id member := (more other id member).imp_right fun ⟨same, own⟩ => by
    rw [same, own]
    exact List.mem_singleton_self _

/-- What was issued first and what was issued then. -/
theorem trans (first : Continues before between issued) (second : Continues between after later) :
    Continues before after (issued ++ later) where
  consecutive := by
    rw [List.map_append, first.consecutive, second.consecutive, List.length_append, List.range_add,
      List.map_append, List.map_map, first.last]
    refine congrArg _ (List.map_congr_left fun place _ => ?_)
    rw [Function.comp_apply, Int.natCast_add]
    have moved (last given place : Int) :
        last + given + 1 + place = last + 1 + (given + place) := by
      omega
    exact moved _ _ _
  last := by
    rw [second.last, first.last, List.length_append, Int.natCast_add]
    exact Int.add_assoc _ _ _
  denoted kind id member := by
    rcases second.denoted kind id member with known | new
    · exact (first.denoted kind id known).imp_right (List.mem_append_left _)
    · exact .inr (List.mem_append_right _ new)

/-- The ids that were issued are beyond all earlier ones. -/
theorem beyond (continues : Continues before after issued) {kind : Numbered} {id : Id}
    (member : (kind, id) ∈ issued) : before.lastId < id ∧ id ≤ after.lastId := by
  have among : id ∈ issued.map Prod.snd := List.mem_map_of_mem member
  rw [continues.consecutive] at among
  obtain ⟨place, inside, rfl⟩ := List.mem_map.mp among
  have bound := List.mem_range.mp inside
  have within (last : Int) : last < last + 1 + place ∧ last + 1 + place ≤ last + issued.length := by
    omega
  rw [continues.last]
  exact within _

/-- An id was issued for one thing only. -/
theorem alone (continues : Continues before after issued) {kind other : Numbered} {id : Id}
    (one : (kind, id) ∈ issued) (two : (other, id) ∈ issued) : kind = other := by
  have different : (issued.map Prod.snd).Nodup := by
    rw [continues.consecutive]
    refine List.Nodup.map (fun first second same => ?_) List.nodup_range
    exact Int.ofNat.inj (Int.add_left_cancel same)
  exact congrArg Prod.fst (List.inj_on_of_nodup_map different one two rfl)

end Continues

/-! ### One step -/

section Rows

variable {ρ : Type} {idOf : ρ → Id} {rows : List ρ} {row : ρ} {id : Id}

theorem mem_ids_added {new : Id} (member : id ∈ (rows ++ [row]).map idOf) (own : idOf row = new) :
    id ∈ rows.map idOf ∨ id = new := by
  rwa [List.map_append, List.mem_append, List.map_singleton, List.mem_singleton, own] at member

theorem mem_ids_kept {other : Id}
    (member : id ∈ (rows.map fun old => if idOf old = other then row else old).map idOf)
    (own : idOf row = other) : id ∈ rows.map idOf := by
  rwa [map_replaced fun _ _ hit => own.trans hit.symm] at member

theorem mem_ids_left {stays : ρ → Bool} (member : id ∈ (rows.filter stays).map idOf) :
    id ∈ rows.map idOf :=
  (List.filter_sublist.map idOf).subset member

end Rows

/-- What has an id after a step had it before or was just given the next one. -/
theorem Step.mem_idsOf {call : Store.Call} (step : Step before call after) {kind : Numbered}
    {id : Id} (member : id ∈ after.idsOf kind) :
    id ∈ before.idsOf kind ∨ call.numbers? = some kind ∧ id = before.lastId + 1 := by
  cases step with
  | insertUser _ =>
    cases kind with
    | user => exact (mem_ids_added member rfl).imp_right (⟨rfl, ·⟩)
    | _ => exact .inl member
  | insertResource _ =>
    cases kind with
    | resource => exact (mem_ids_added member rfl).imp_right (⟨rfl, ·⟩)
    | _ => exact .inl member
  | insertAction _ =>
    cases kind with
    | action => exact (mem_ids_added member rfl).imp_right (⟨rfl, ·⟩)
    | _ => exact .inl member
  | insertRole _ =>
    cases kind with
    | role => exact (mem_ids_added member rfl).imp_right (⟨rfl, ·⟩)
    | _ => exact .inl member
  | insertPermission _ =>
    cases kind with
    | grant => exact (mem_ids_added member rfl).imp_right (⟨rfl, ·⟩)
    | _ => exact .inl member
  | appendAudit =>
    cases kind with
    | entry => exact (mem_ids_added member rfl).imp_right (⟨rfl, ·⟩)
    | _ => exact .inl member
  | updateResource _ _ _ =>
    cases kind with
    | resource => exact .inl (mem_ids_kept member rfl)
    | _ => exact .inl member
  | updateAction _ _ =>
    cases kind with
    | action => exact .inl (mem_ids_kept member rfl)
    | _ => exact .inl member
  | setRoleStatus present =>
    cases kind with
    | role => exact .inl (mem_ids_kept member (by simpa using List.find?_some present))
    | _ => exact .inl member
  | setPermissionStatus present =>
    cases kind with
    | grant => exact .inl (mem_ids_kept member (by simpa using List.find?_some present))
    | _ => exact .inl member
  | deleteResource _ _ _ =>
    cases kind with
    | resource => exact .inl (mem_ids_left member)
    | _ => exact .inl member
  | deleteAction _ _ =>
    cases kind with
    | action => exact .inl (mem_ids_left member)
    | _ => exact .inl member
  | deleteRole _ _ =>
    cases kind with
    | role => exact .inl (mem_ids_left member)
    | _ => exact .inl member
  | deletePermission _ _ =>
    cases kind with
    | grant => exact .inl (mem_ids_left member)
    | _ => exact .inl member
  | _ => exact .inl member

/-- A step takes the next id exactly when its call is one that does. -/
theorem Step.lastId_eq {call : Store.Call} (step : Step before call after) :
    after.lastId = before.lastId + call.numbers?.toList.length := by
  cases step with
  | look looks =>
    rw [Store.Call.numbers?_of_looks looks]
    exact (Int.add_zero _).symm
  | _ => first | rfl | exact (Int.add_zero _).symm

/-- **A step issues the next id to what its call is about, or none.** -/
theorem Step.continues {call : Store.Call} (step : Step before call after) :
    Continues before after (call.numbers?.toList.map fun kind => (kind, before.lastId + 1)) := by
  have last := step.lastId_eq
  have denoted := @Step.mem_idsOf before after call step
  cases numbers : call.numbers? with
  | none =>
    rw [numbers] at last denoted
    refine .still (last.trans (Int.add_zero _)) fun kind id member => ?_
    exact (denoted member).resolve_right nofun
  | some kind =>
    rw [numbers] at last denoted
    refine .next last fun other id member => ?_
    exact (denoted member).imp_right fun ⟨same, own⟩ => ⟨(Option.some.inj same).symm, own⟩

/-- What a call adds to the log has the id that it takes. -/
theorem Step.added {call : Store.Call} (step : Step before call after) :
    after.audit.drop before.audit.length = call.entries (before.lastId + 1) := by
  cases step with
  | appendAudit => exact List.drop_left
  | look looks =>
    rw [List.drop_length]
    cases call <;> first | rfl | cases looks
  | _ => exact List.drop_length

/-! ### Creating a row -/

section Creating

/-- An effect fails and changes nothing, or it creates a row with the next id in the step of a
call. -/
structure Creates {α : Type} (idOf : α → Id) (call : Store.Call) (effect : Effect Error Tables α) :
    Prop where
  leads : ∀ tables, effect.Leads tables fun row after =>
    idOf row = tables.lastId + 1 ∧ Step tables call after

/-- A proper name leads where what is done with it leads. -/
theorem leads_proper {entity : Entity} {proper : String} {α : Type} {tables : Tables}
    {next : String → Effect Error Tables α} {allowed : α → Tables → Prop}
    (leads : (next proper).Leads tables allowed) :
    ((do
        Effect.ensure (!proper.isEmpty) (.blankName entity)
        pure proper : Effect Error Tables String) >>= next).Leads tables allowed := by
  cases (!proper.isEmpty)
  · exact rfl
  · exact leads

-- In these the name without blank ends is made any name, lest the cutting be unfolded.

theorem createUser_creates (username : String) :
    Creates User.id (.insertUser (Text.trim username))
      (Administration.createUser store username) where
  leads tables := by
    unfold Administration.createUser Administration.properName
    generalize Text.trim username = proper
    refine leads_proper (Effect.Leads.and ?_ (insertUser_leads _))
    exact Effect.leads_reading_bind
      (Effect.leads_ensure_bind fun _ => Effect.leads_of_value rfl rfl)

theorem createRole_creates (new : NewRole) :
    Creates Role.id (.insertRole { new with name := Text.trim new.name })
      (Administration.createRole store new) where
  leads tables := by
    unfold Administration.createRole Administration.properName
    generalize Text.trim new.name = proper
    refine leads_proper (Effect.Leads.and ?_ (insertRole_leads _))
    exact Effect.leads_reading_bind
      (Effect.leads_ensure_bind fun _ => Effect.leads_of_value rfl rfl)

theorem createResource_creates (new : NewResource) :
    Creates Resource.id (.insertResource { new with name := Text.trim new.name })
      (Administration.createResource store new) where
  leads tables := by
    unfold Administration.createResource Administration.properName
    generalize Text.trim new.name = proper
    refine leads_proper (Effect.Leads.and ?_ (insertResource_leads _))
    refine Effect.leads_reading_bind (Effect.leads_ensure_bind fun _ => ?_)
    cases new.parent with
    | some parent => exact Effect.leads_ensure_bind fun _ => Effect.leads_of_value rfl rfl
    | none => exact Effect.leads_of_value rfl rfl

theorem createAction_creates (new : NewAction) :
    Creates Action.id (.insertAction { new with name := Text.trim new.name })
      (Administration.createAction store new) where
  leads tables := by
    unfold Administration.createAction Administration.properName
    generalize Text.trim new.name = proper
    refine leads_proper (Effect.Leads.and ?_ (insertAction_leads _))
    exact Effect.leads_reading_bind
      (Effect.leads_ensure_bind fun _ => Effect.leads_of_value rfl rfl)

theorem grant_creates (grant : Administration.Grant) :
    Creates Permission.id
      (.insertPermission
        { role := grant.role
          resource := grant.resource
          action := grant.action
          status := grant.status
          condition := grant.text?
          priority := grant.priority })
      (Administration.grant store grant) where
  leads tables := by
    refine Effect.Leads.and ?_ (insertPermission_leads _)
    refine Effect.leads_reading_bind (Effect.leads_ensure_bind fun _ => ?_)
    refine Effect.leads_ensure_bind fun _ => Effect.leads_ensure_bind fun _ => ?_
    exact Effect.leads_ensure_bind fun _ => Effect.leads_of_value rfl rfl

end Creating

end Tables

/-! ### One operation -/

/-- The row that the answer to an operation shows to have been created. -/
def Operation.created? : Operation → Ending Error Answer → Option (Numbered × Id)
  | .createUser _, .value (.user user) => some (.user, user.id)
  | .createRole _, .value (.role role) => some (.role, role.id)
  | .createResource _, .value (.resource resource) => some (.resource, resource.id)
  | .createAction _, .value (.action action) => some (.action, action.id)
  | .grant _, .value (.permission permission) => some (.grant, permission.id)
  | _, _ => none

theorem Operation.created?_failed {operation : Operation} {ending : Ending Error Answer}
    (failed : ∀ answer, ending ≠ .value answer) : operation.created? ending = none := by
  cases ending with
  | value answer => exact absurd rfl (failed answer)
  | error _ => cases operation <;> rfl
  | broken => cases operation <;> rfl

namespace Authority

variable {settings : Settings} {world : World Tables}

/-- What an operation shows an id to have been issued for: the row that it created, and what it
added to the log. -/
def issuedBy (authority : Authority Tables) (operation : Operation) (world : World Tables) :
    List (Numbered × Id) :=
  let (ending, after) := authority.perform operation world
  (operation.created? ending).toList ++
    (after.1.audit.drop world.1.audit.length).map fun entry => (.entry, entry.id)

/-- What a run shows ids to have been issued for. -/
def issued (authority : Authority Tables) : List Operation → World Tables → List (Numbered × Id)
  | [], _ => []
  | operation :: rest, world =>
    authority.issuedBy operation world ++
      authority.issued rest (authority.perform operation world).2

/-- A row that an operation on the tables creates has the next id. -/
theorem creation_continues {α : Type} {operation : Operation} {answer : α → Answer}
    {effect : Effect Error Tables α} {idOf : α → Id} {kind : Numbered} {call : Store.Call}
    (creates : Tables.Creates idOf call effect)
    (performs : (ofStore Tables.store settings).perform operation = onTables answer effect)
    (shows : ∀ row, operation.created? (.value (answer row)) = some (kind, idOf row))
    (numbers : call.numbers? = some kind) (silent : ∀ id, call.entries id = []) :
    Tables.Continues world.1 ((ofStore Tables.store settings).perform operation world).2.1
      ((ofStore Tables.store settings).issuedBy operation world) := by
  unfold issuedBy
  rw [performs]
  obtain ⟨row, after, ⟨own, step⟩, ended⟩ | ⟨cause, failed⟩ :=
    onTables_ends answer creates.leads world
  · have continues := step.continues
    rw [numbers] at continues
    rw [ended]
    dsimp only
    rw [shows, own, step.added, silent]
    exact continues
  · have nothing : operation.created? (.error cause) = none := Operation.created?_failed nofun
    rw [failed]
    dsimp only
    rw [nothing, List.drop_length]
    exact .still rfl fun _ => List.Subset.refl _

/-- An operation that creates no row takes an id only for what it adds to the log. -/
theorem other_continues {operation : Operation} (mute : ∀ ending, operation.created? ending = none)
    (asked : ∀ call, operation.Asks call → ∀ id, (call.numbers?.toList.map fun kind => (kind, id)) =
      (call.entries id).map fun entry => (.entry, entry.id)) :
    Tables.Continues world.1 ((ofStore Tables.store settings).perform operation world).2.1
      ((ofStore Tables.store settings).issuedBy operation world) := by
  unfold issuedBy
  dsimp only
  rw [mute]
  rcases perform_step settings operation world with alone | ⟨-, call, asks, step⟩
  · rw [alone, List.drop_length]
    exact .still rfl fun _ => List.Subset.refl _
  · rw [step.added]
    exact asked call asks _ ▸ step.continues

/-- **An operation issues the next id for what it creates or adds to the log, and no other.** -/
theorem perform_continues (settings : Settings) (operation : Operation) (world : World Tables) :
    Tables.Continues world.1 ((ofStore Tables.store settings).perform operation world).2.1
      ((ofStore Tables.store settings).issuedBy operation world) := by
  cases operation with
  | createUser username =>
    exact creation_continues (Tables.createUser_creates username) rfl (fun _ => rfl) rfl
      fun _ => rfl
  | createRole new =>
    exact creation_continues (Tables.createRole_creates new) rfl (fun _ => rfl) rfl fun _ => rfl
  | createResource new =>
    exact creation_continues (Tables.createResource_creates new) rfl (fun _ => rfl) rfl fun _ => rfl
  | createAction new =>
    exact creation_continues (Tables.createAction_creates new) rfl (fun _ => rfl) rfl fun _ => rfl
  | grant grant =>
    exact creation_continues (Tables.grant_creates grant) rfl (fun _ => rfl) rfl fun _ => rfl
  | _ => exact other_continues (fun _ => rfl) fun _ asks => by cases asks <;> exact fun _ => rfl

/-- **A run issues one id after the other.** -/
theorem run_continues (settings : Settings) (operations : List Operation) (world : World Tables) :
    Tables.Continues world.1 ((ofStore Tables.store settings).run operations world).2.1
      ((ofStore Tables.store settings).issued operations world) := by
  induction operations generalizing world with
  | nil => exact .still rfl fun _ => List.Subset.refl _
  | cons operation rest ih => exact (perform_continues settings operation world).trans (ih _)

end Authority

/-! ### What is mentioned -/

/-- The ids that a moment of a run mentions: those in the links, edges and grants that it found, of
the grant and the role through which it decided, and in the entries that it added to the log. The
user that the logger is called about is whatever it was called about, and a name that stands for
nothing is recorded as no entity. -/
inductive Moment.Mentions (moment : Moment) (added : List AuditEntry) : Numbered → Id → Prop where
  | linkUser {link : Link} (stored : link ∈ moment.tables.links) :
      Mentions moment added .user link.user
  | linkRole {link : Link} (stored : link ∈ moment.tables.links) :
      Mentions moment added .role link.role
  | parent {edge : Edge} (stored : edge ∈ moment.tables.edges) :
      Mentions moment added .role edge.parent
  | child {edge : Edge} (stored : edge ∈ moment.tables.edges) :
      Mentions moment added .role edge.child
  | grantRole {permission : Permission} (stored : permission ∈ moment.tables.permissions) :
      Mentions moment added .role permission.role
  | grantResource {permission : Permission} (stored : permission ∈ moment.tables.permissions) :
      Mentions moment added .resource permission.resource
  | grantAction {permission : Permission} (stored : permission ∈ moment.tables.permissions) :
      Mentions moment added .action permission.action
  | decidingGrant {request : Check.Request} {decision : Decision} {id : Id}
      (asked : moment.operation = .check request)
      (decided : moment.ending = .value (.decision decision))
      (through : decision.permission? = some id) : Mentions moment added .grant id
  | decidingRole {request : Check.Request} {decision : Decision} {id : Id}
      (asked : moment.operation = .check request)
      (decided : moment.ending = .value (.decision decision))
      (through : decision.role? = some id) : Mentions moment added .role id
  | checkedUser {request : Check.Request} {entry : AuditEntry}
      (asked : moment.operation = .check request) (recorded : entry ∈ added) :
      Mentions moment added .user entry.user
  | recordedResource {entry : AuditEntry} (recorded : entry ∈ added)
      (something : entry.resource ≠ noId) : Mentions moment added .resource entry.resource
  | recordedAction {entry : AuditEntry} (recorded : entry ∈ added)
      (something : entry.action ≠ noId) : Mentions moment added .action entry.action

namespace Moment

/-- What an id in an entry stands for when it is recorded. -/
structure Knows (moment : Moment) (entry : AuditEntry) : Prop where
  user : ∀ request, moment.operation = .check request → entry.user ∈ moment.tables.idsOf .user
  resource : entry.resource ≠ noId → entry.resource ∈ moment.tables.idsOf .resource
  action : entry.action ≠ noId → entry.action ∈ moment.tables.idsOf .action

/-- What is recorded is known at the moment. -/
theorem Adds.knows {moment : Moment} {entries : List AuditEntry} (adds : moment.Adds entries) :
    ∀ entry ∈ entries, moment.Knows entry := by
  cases adds with
  | decided records resolves _ _ =>
    obtain ⟨someone, ⟨row, stored, -, own⟩, ⟨act, known, -, ownAct⟩⟩ := resolves
    intro entry member
    rw [List.mem_singleton] at member
    subst member
    exact
      { user := fun _ _ => records.user ▸ someone
        resource := fun _ => List.mem_map.mpr ⟨row, stored, own⟩
        action := fun _ => List.mem_map.mpr ⟨act, known, ownAct⟩ }
  | logged records resource action =>
    intro entry member
    rw [List.mem_singleton] at member
    subst member
    refine ⟨nofun, fun something => ?_, fun something => ?_⟩
    · generalize entry.resource = id at resource something ⊢
      cases resource with
      | known stored _ => exact List.mem_map_of_mem stored
      | unknown _ => exact absurd rfl something
    · generalize entry.action = id at action something ⊢
      cases action with
      | known stored _ => exact List.mem_map_of_mem stored
      | unknown _ => exact absurd rfl something
  | silent _ => exact fun _ member => nomatch member

end Moment

namespace Authority

variable {settings : Settings} {world : World Tables}

/-- What an operation adds to the log is known at its moment. -/
theorem added_known (reachable : (ofStore Tables.store settings).Reachable world)
    (operation : Operation) :
    ∀ entry ∈ ((ofStore Tables.store settings).perform operation world).2.1.audit.drop
        world.1.audit.length,
      ((ofStore Tables.store settings).moment operation world).Knows entry := by
  cases enabled : settings.enableAudit with
  | true =>
    obtain ⟨entries, adds, left⟩ := perform_adds enabled reachable.keeping.1.sound operation
    rw [left, List.drop_left]
    exact adds.knows
  | false =>
    rw [perform_adds_nothing enabled, List.drop_length]
    exact fun _ member => nomatch member

/-- What a check decides through is there. -/
theorem decided_known (reachable : (ofStore Tables.store settings).Reachable world)
    {request : Check.Request} {decision : Decision}
    (decided : ((ofStore Tables.store settings).perform (.check request) world).1 =
      .value (.decision decision)) :
    (∀ id, decision.permission? = some id → id ∈ world.1.idsOf .grant) ∧
      ∀ id, decision.role? = some id → id ∈ world.1.idsOf .role := by
  have outcome := Check.outcome_of_reachable reachable request
  rw [perform_check] at decided
  generalize (Check.check Tables.store (ofStore Tables.store settings).logger request world).1 =
    ending at decided outcome
  rcases outcome with ⟨-, broken⟩ | ⟨-, answers⟩
  · subst broken
    cases decided
  · cases answers with
    | missing _ => cases decided
    | noRoles _ _ =>
      cases decided
      exact ⟨nofun, nofun⟩
    | noMatchingPermission _ _ _ =>
      cases decided
      exact ⟨nofun, nofun⟩
    | granted _ decides =>
      cases decided
      obtain ⟨role, known, own, -⟩ := decides.supports.eligible.role
      refine ⟨fun id same => ?_, fun id same => ?_⟩
      · obtain rfl := Option.some.inj same
        exact List.mem_map_of_mem decides.supports.eligible.stored
      · obtain rfl := Option.some.inj same
        exact List.mem_map.mpr ⟨role, known, own⟩

/-- **What a moment mentions is there.** -/
theorem mentioned_there (reachable : (ofStore Tables.store settings).Reachable world)
    (operation : Operation) {kind : Numbered} {id : Id}
    (mentions : ((ofStore Tables.store settings).moment operation world).Mentions
      (((ofStore Tables.store settings).perform operation world).2.1.audit.drop
        world.1.audit.length) kind id) :
    id ∈ world.1.idsOf kind := by
  have sound := reachable.keeping.1.sound
  have known := added_known reachable operation
  cases mentions with
  | linkUser stored => exact sound.linkUsers _ stored
  | linkRole stored => exact sound.linkRoles _ stored
  | parent stored => exact sound.edgeParents _ stored
  | child stored => exact sound.edgeChildren _ stored
  | grantRole stored => exact sound.permissionRoles _ stored
  | grantResource stored => exact sound.permissionResources _ stored
  | grantAction stored => exact sound.permissionActions _ stored
  | decidingGrant asked decided through =>
    subst asked
    exact (decided_known reachable decided).1 _ through
  | decidingRole asked decided through =>
    subst asked
    exact (decided_known reachable decided).2 _ through
  | checkedUser asked recorded => exact (known _ recorded).user _ asked
  | recordedResource recorded something => exact (known _ recorded).resource something
  | recordedAction recorded something => exact (known _ recorded).action something

/-! ### A run -/

def reached (authority : Authority Tables) (operations : List Operation) : World Tables :=
  (authority.run operations (Tables.empty, authority.engine)).2

/-- **Ids are issued in sequence and never again.** After any operations on empty tables the ids of
what was created and recorded, in this order, are one, two, three and so on, and the sequence stands
at their number; an operation without an answer has taken none. Whatever has an id was given it, so
that none has the id that stands for no entity. Whatever a moment of the run mentions is there.
However the run goes on, an id denotes nothing else than before, and one that was issued and denotes
nothing any more never denotes anything again. As everywhere, fewer than `2 ^ 63 - 1` ids are
taken. -/
theorem ids_in_sequence (settings : Settings) (earlier : List Operation) :
    let authority := ofStore Tables.store settings
    let world := authority.reached earlier
    let issued := authority.issued earlier (Tables.empty, authority.engine)
    issued.map Prod.snd = (List.range issued.length).map (fun place : Nat => (place : Int) + 1) ∧
      world.1.lastId = issued.length ∧
      (∀ kind id, id ∈ world.1.idsOf kind → (kind, id) ∈ issued ∧ id ≠ noId) ∧
      (∀ operation, (∀ answer, (authority.perform operation world).1 ≠ .value answer) →
        authority.issuedBy operation world = []) ∧
      (∀ operation kind id, (authority.moment operation world).Mentions
        ((authority.perform operation world).2.1.audit.drop world.1.audit.length) kind id →
        id ∈ world.1.idsOf kind) ∧
      ∀ later, let after := authority.reached (earlier ++ later)
        (∀ kind other id, id ∈ world.1.idsOf kind → id ∈ after.1.idsOf other → other = kind) ∧
          ∀ kind id, id ∈ after.1.idsOf kind → id ∈ world.1.idsOf kind ∨ world.1.lastId < id := by
  intro authority world issued
  have reachable : authority.Reachable world := Reachable.start.run earlier
  have begun : Tables.Continues Tables.empty world.1 issued :=
    run_continues settings earlier (Tables.empty, authority.engine)
  have given (kind : Numbered) (id : Id) (member : id ∈ world.1.idsOf kind) :
      (kind, id) ∈ issued := by
    refine (begun.denoted kind id member).resolve_left fun before => ?_
    cases kind <;> exact nomatch before
  refine ⟨?_, ?_, fun kind id member => ⟨given kind id member, ?_⟩, fun operation failed => ?_,
    fun operation kind id => mentioned_there reachable operation, fun later => ?_⟩
  · rw [begun.consecutive]
    exact List.map_congr_left fun place _ => Int.add_comm _ _
  · exact begun.last.trans (Int.zero_add _)
  · exact Int.ne_of_gt (begun.beyond (given kind id member)).1
  · unfold issuedBy
    dsimp only
    rw [Operation.created?_failed failed, perform_atomic settings operation world failed,
      List.drop_length]
    rfl
  · have continued : Tables.Continues world.1 (authority.reached (earlier ++ later)).1
        (authority.issued later world) := by
      unfold reached
      rw [run_append]
      exact run_continues settings later world
    refine ⟨fun kind other id first then_ => ?_, fun kind id member => ?_⟩
    · refine begun.alone (given other id ?_) (given kind id first)
      refine (continued.denoted other id then_).resolve_right fun new => ?_
      exact Int.not_lt.mpr (begun.beyond (given kind id first)).2 (continued.beyond new).1
    · exact (continued.denoted kind id member).imp_right fun new => (continued.beyond new).1

end Authority

end AccessControl

/-
**Names and keys: how they are stored, and what is found by them.**

* `Operation.written?`, `Store.Call.written?` — the name or the key that an operation is given and
  that its call writes.
* `Authority.perform_writes` — **an operation that writes a name or a key fails and changes nothing,
  or its call takes its step**, and what that writes is no blank text and has no blank ends.
* `Tables.Canonical` — every stored name and key is such a text; `Authority.canonical_run` — so it
  is after every run.
* `Operation.Repeats`, `Authority.repeats_fails` — an operation that gives an entity the name of
  another one of its kind fails.
* `Register`, `Register.Faithful` — a kind of entity that is looked up by id and by name, and that
  both look-ups find exactly the entity that has the one or the other.
* `Authority.names_are_keys` — **in every world that operations make, names are canonical and are
  faithful keys.**
-/

import AccessControl.Proofs.Issuing
import AccessControl.Proofs.Check.Answer
import AccessControl.Proofs.Text.Trim

namespace AccessControl

-- No proof below looks into how the blanks at the ends of a text are cut off.
seal Text.trim

open Check (World)
open Tables (Step Sound)

/-! ### What is written -/

/-- The name or the key that an operation is given to write. -/
def Operation.written? : Operation → Option String
  | .createUser username => some username
  | .createRole new => some new.name
  | .createResource new | .updateResource _ new => some new.name
  | .createAction new | .updateAction _ new => some new.name
  | .setAttribute _ _ key _ => some key
  | _ => none

/-- The name or the key that a call writes. -/
def Store.Call.written? : Store.Call → Option String
  | .insertUser username => some username
  | .insertRole new => some new.name
  | .insertResource new | .updateResource _ new => some new.name
  | .insertAction new | .updateAction _ new => some new.name
  | .setAttribute _ _ key _ => some key
  | _ => none

theorem Operation.Asks.written?_eq {operation : Operation} {call : Store.Call}
    (asks : operation.Asks call) : call.written? = operation.written?.map Text.trim := by
  cases asks <;> rfl

namespace Tables

variable {tables before after : Tables} {call : Store.Call} {name : String}

/-- A name is looked at before it is used, and used only if it is not blank. -/
theorem leads_properName {entity : Entity} {α : Type} {next : String → Effect Error Tables α}
    {allowed : α → Tables → Prop} (leads : (next (Text.trim name)).Leads tables allowed) :
    (Administration.properName entity name >>= next).Leads tables
      fun row after => Text.Proper (Text.trim name) ∧ allowed row after := by
  unfold Administration.properName
  cases solid : (Text.trim name).isEmpty with
  | true => exact rfl
  | false => exact leads.imp fun _ _ fine => ⟨Text.proper_trim solid, fine⟩

/-- A key is looked at before it is used, and used only if it is not blank. -/
theorem leads_properKey {α : Type} {effect : Effect Error Tables α} {allowed : α → Tables → Prop}
    (leads : effect.Leads tables allowed) :
    (Effect.ensure (!(Text.trim name).isEmpty) .blankKey >>= fun _ => effect).Leads tables
      fun row after => Text.Proper (Text.trim name) ∧ allowed row after := by
  refine Effect.leads_ensure_bind fun solid => leads.imp fun _ _ fine => ⟨?_, fine⟩
  rw [Bool.not_eq_true'] at solid
  exact Text.proper_trim solid

/-! ### Canonical tables -/

/-- Every stored name is a proper one, and so is every key, which is that of its fact. -/
structure Canonical (tables : Tables) : Prop where
  usernames : ∀ user ∈ tables.users, Text.Proper user.username
  resourceNames : ∀ resource ∈ tables.resources, Text.Proper resource.name
  actionNames : ∀ action ∈ tables.actions, Text.Proper action.name
  roleNames : ∀ role ∈ tables.roles, Text.Proper role.name
  keys : ∀ owner id key fact, (tables.facts owner id).find? key = some fact →
    fact.key = key ∧ Text.Proper key

theorem canonical_empty : Canonical Tables.empty where
  usernames _ member := nomatch member
  resourceNames _ member := nomatch member
  actionNames _ member := nomatch member
  roleNames _ member := nomatch member
  keys _ _ _ _ found := nomatch found

/-- **A step that writes a proper name or key, or none, keeps tables canonical.** Of the keys of an
entity only the one that is written is new, and a resource that goes takes its attributes along. -/
theorem Canonical.step (canonical : before.Canonical) (step : Step before call after)
    (proper : ∀ name, call.written? = some name → Text.Proper name) : after.Canonical := by
  cases step with
  | insertUser _ =>
    exact { canonical with usernames := forall_append canonical.usernames (proper _ rfl) }
  | insertRole _ =>
    exact { canonical with roleNames := forall_append canonical.roleNames (proper _ rfl) }
  | insertResource _ _ =>
    exact { canonical with resourceNames := forall_append canonical.resourceNames (proper _ rfl) }
  | insertAction _ =>
    exact { canonical with actionNames := forall_append canonical.actionNames (proper _ rfl) }
  | updateResource _ _ _ =>
    exact { canonical with
      resourceNames := forall_replaced canonical.resourceNames (proper _ rfl) }
  | updateAction _ _ =>
    exact { canonical with actionNames := forall_replaced canonical.actionNames (proper _ rfl) }
  | @setRoleStatus id status role present =>
    have kept : Text.Proper role.name :=
      canonical.roleNames role (List.mem_of_find?_eq_some present)
    exact { canonical with roleNames := forall_replaced canonical.roleNames kept }
  | deleteResource _ _ _ =>
    refine { canonical with
      resourceNames := fun row member => canonical.resourceNames row (List.mem_filter.mp member).1
      keys := fun owner id key fact found => ?_ }
    dsimp only at found
    split at found
    · cases found
    · exact canonical.keys owner id key fact found
  | deleteAction _ _ =>
    exact { canonical with
      actionNames := fun row member => canonical.actionNames row (List.mem_filter.mp member).1 }
  | deleteRole _ _ =>
    exact { canonical with
      roleNames := fun row member => canonical.roleNames row (List.mem_filter.mp member).1 }
  | @setAttribute owner id key value _ =>
    refine { canonical with keys := fun other number name fact found => ?_ }
    dsimp only at found
    split at found
    · rw [Dictionary.find?_insert] at found
      split at found
      · rename_i same
        obtain rfl := Option.some.inj found
        exact ⟨same.symm, same ▸ proper _ rfl⟩
      · exact canonical.keys _ _ _ _ found
    · exact canonical.keys other number name fact found
  | _ => exact { canonical with }

end Tables

/-- An operation gives an entity the name of another one of its kind, blanks at its ends apart. -/
inductive Operation.Repeats (tables : Tables) : Operation → Prop where
  | createUser {username : String} {row : User} (stored : row ∈ tables.users)
      (same : row.username = Text.trim username) : Repeats tables (.createUser username)
  | createRole {new : NewRole} {row : Role} (stored : row ∈ tables.roles)
      (same : row.name = Text.trim new.name) : Repeats tables (.createRole new)
  | createResource {new : NewResource} {row : Resource} (stored : row ∈ tables.resources)
      (same : row.name = Text.trim new.name) : Repeats tables (.createResource new)
  | createAction {new : NewAction} {row : Action} (stored : row ∈ tables.actions)
      (same : row.name = Text.trim new.name) : Repeats tables (.createAction new)
  | updateResource {id : Id} {new : NewResource} {row : Resource} (stored : row ∈ tables.resources)
      (other : row.id ≠ id) (same : row.name = Text.trim new.name) :
      Repeats tables (.updateResource id new)
  | updateAction {id : Id} {new : NewAction} {row : Action} (stored : row ∈ tables.actions)
      (other : row.id ≠ id) (same : row.name = Text.trim new.name) :
      Repeats tables (.updateAction id new)

theorem Operation.Repeats.written? {tables : Tables} {operation : Operation}
    (repeats : operation.Repeats tables) : ∃ given, operation.written? = some given := by
  cases repeats <;> exact ⟨_, rfl⟩

/-- **No step gives a name again.** -/
theorem Tables.Step.not_repeats {before after : Tables} {operation : Operation} {call : Store.Call}
    (step : Step before call after) (asks : operation.Asks call) : ¬ operation.Repeats before := by
  intro repeats
  cases repeats with
  | createUser stored same =>
    cases asks
    cases step with
    | look looks => cases looks
    | insertUser free => exact free (same ▸ List.mem_map_of_mem stored)
  | createRole stored same =>
    cases asks
    cases step with
    | look looks => cases looks
    | insertRole free => exact free (List.mem_map.mpr ⟨_, stored, same⟩)
  | createResource stored same =>
    cases asks
    cases step with
    | look looks => cases looks
    | insertResource free _ => exact free (List.mem_map.mpr ⟨_, stored, same⟩)
  | createAction stored same =>
    cases asks
    cases step with
    | look looks => cases looks
    | insertAction free => exact free (List.mem_map.mpr ⟨_, stored, same⟩)
  | updateResource stored other same =>
    cases asks
    cases step with
    | look looks => cases looks
    | updateResource _ free _ => exact other (free _ stored same)
  | updateAction stored other same =>
    cases asks
    cases step with
    | look looks => cases looks
    | updateAction _ free => exact other (free _ stored same)

namespace Authority

variable {settings : Settings} {world : World Tables} {operation : Operation} {given : String}

/-- **An operation that is given a name or a key fails and changes nothing, or its call takes its
step**, and what that writes is a proper name or key. -/
theorem perform_writes (settings : Settings) (writes : operation.written? = some given)
    (world : World Tables) :
    (∃ call answer after, operation.Asks call ∧ Text.Proper (Text.trim given) ∧
      Step world.1 call after ∧
      (ofStore Tables.store settings).perform operation world =
        (.value answer, after, world.2)) ∨
      ∃ cause, (ofStore Tables.store settings).perform operation world = (.error cause, world) := by
  have ends {α : Type} {answer : α → Answer} {effect : Effect Error Tables α} {call : Store.Call}
      (asks : operation.Asks call)
      (performed : (ofStore Tables.store settings).perform operation = onTables answer effect)
      (leads : ∀ tables, effect.Leads tables fun _ after =>
        Text.Proper (Text.trim given) ∧ Step tables call after) :
      (∃ call answer after, operation.Asks call ∧ Text.Proper (Text.trim given) ∧
        Step world.1 call after ∧
        (ofStore Tables.store settings).perform operation world =
          (.value answer, after, world.2)) ∨
        ∃ cause, (ofStore Tables.store settings).perform operation world =
          (.error cause, world) := by
    rw [performed]
    refine (onTables_ends answer leads world).imp_left ?_
    rintro ⟨row, after, ⟨proper, step⟩, ended⟩
    exact ⟨call, answer row, after, asks, proper, step, ended⟩
  cases operation with
  | createUser username =>
    obtain rfl := Option.some.inj writes
    exact ends .createUser rfl fun _ => Tables.leads_properName (Tables.insertUser_leads _)
  | createRole new =>
    obtain rfl := Option.some.inj writes
    exact ends .createRole rfl fun _ => Tables.leads_properName (Tables.insertRole_leads _)
  | createResource new =>
    obtain rfl := Option.some.inj writes
    exact ends .createResource rfl fun _ => Tables.leads_properName (Tables.insertResource_leads _)
  | updateResource id new =>
    obtain rfl := Option.some.inj writes
    exact ends .updateResource rfl
      fun _ => Tables.leads_properName (Tables.updateResource_leads id _)
  | createAction new =>
    obtain rfl := Option.some.inj writes
    exact ends .createAction rfl fun _ => Tables.leads_properName (Tables.insertAction_leads _)
  | updateAction id new =>
    obtain rfl := Option.some.inj writes
    exact ends .updateAction rfl fun _ => Tables.leads_properName (Tables.updateAction_leads id _)
  | setAttribute owner id key value =>
    obtain rfl := Option.some.inj writes
    exact ends .setAttribute rfl
      fun _ => Tables.leads_properKey (Tables.setAttribute_leads owner id _ value)
  | _ => cases writes

/-- **An operation keeps tables canonical.** -/
theorem canonical_perform (settings : Settings) (canonical : world.1.Canonical)
    (operation : Operation) :
    ((ofStore Tables.store settings).perform operation world).2.1.Canonical := by
  cases writes : operation.written? with
  | some given =>
    obtain ⟨call, answer, after, asks, proper, step, ended⟩ | ⟨cause, failed⟩ :=
      perform_writes settings writes world
    · rw [ended]
      refine canonical.step step fun name written => ?_
      rw [asks.written?_eq, writes] at written
      obtain rfl := Option.some.inj written
      exact proper
    · rw [failed]
      exact canonical
  | none =>
    rcases perform_step settings operation world with alone | ⟨-, call, asks, step⟩
    · rw [alone]
      exact canonical
    · refine canonical.step step fun name written => ?_
      rw [asks.written?_eq, writes] at written
      cases written

/-- **A run keeps tables canonical.** -/
theorem canonical_run (settings : Settings) (canonical : world.1.Canonical)
    (operations : List Operation) :
    ((ofStore Tables.store settings).run operations world).2.1.Canonical := by
  induction operations generalizing world with
  | nil => exact canonical
  | cons operation rest ih => exact ih (canonical_perform settings canonical operation)

/-- **What gives a name again fails and changes nothing.** -/
theorem repeats_fails (settings : Settings) (repeats : operation.Repeats world.1) :
    ∃ cause, (ofStore Tables.store settings).perform operation world = (.error cause, world) := by
  obtain ⟨given, writes⟩ := repeats.written?
  obtain ⟨call, answer, after, asks, -, step, -⟩ | failed := perform_writes settings writes world
  · exact absurd repeats (step.not_repeats asks)
  · exact failed

end Authority

/-! ### Looking up -/

/-- A kind of entity whose rows are looked up by their ids and by their names. -/
structure Register (ρ : Type) where
  rows : Tables → List ρ
  idOf : ρ → Id
  nameOf : ρ → String
  entity : Entity
  answer : ρ → Answer
  byId : Id → Operation
  byName : String → Operation

namespace Register

def resources : Register Resource where
  rows := Tables.resources
  idOf := Resource.id
  nameOf := Resource.name
  entity := .resource
  answer := .resource
  byId := .getResource
  byName := .getResourceByName

def actions : Register Action where
  rows := Tables.actions
  idOf := Action.id
  nameOf := Action.name
  entity := .action
  answer := .action
  byId := .getAction
  byName := .getActionByName

def roles : Register Role where
  rows := Tables.roles
  idOf := Role.id
  nameOf := Role.name
  entity := .role
  answer := .role
  byId := .getRole
  byName := .getRoleByName

variable {ρ : Type} {register : Register ρ} {authority : Authority Tables} {world : World Tables}

/-- Both look-ups answer with exactly the row that has the name or the id, and fail where there is
none; what one of them answers with is found by the other. -/
structure Faithful (register : Register ρ) (authority : Authority Tables) (world : World Tables) :
    Prop where
  named : ∀ name row,
    authority.perform (register.byName name) world = (.value (register.answer row), world) ↔
      row ∈ register.rows world.1 ∧ register.nameOf row = name
  unnamed : ∀ name, name ∉ (register.rows world.1).map register.nameOf →
    authority.perform (register.byName name) world =
        (.error (.noName register.entity name), world) ∧
      (Error.noName register.entity name).category = .notFound
  numbered : ∀ id row,
    authority.perform (register.byId id) world = (.value (register.answer row), world) ↔
      row ∈ register.rows world.1 ∧ register.idOf row = id
  unnumbered : ∀ id, id ∉ (register.rows world.1).map register.idOf →
    authority.perform (register.byId id) world = (.error (.noId register.entity id), world) ∧
      (Error.noId register.entity id).category = .notFound
  ofNamed : ∀ name row,
    authority.perform (register.byName name) world = (.value (register.answer row), world) →
    authority.perform (register.byId (register.idOf row)) world =
      (.value (register.answer row), world)
  ofNumbered : ∀ id row,
    authority.perform (register.byId id) world = (.value (register.answer row), world) →
    authority.perform (register.byName (register.nameOf row)) world =
      (.value (register.answer row), world)

/-- What is found under a value that no two rows have in common is the row that has it. -/
theorem find?_iff {κ : Type} [DecidableEq κ] {view : ρ → κ} {rows : List ρ}
    (different : (rows.map view).Nodup) {value : κ} {row : ρ} :
    rows.find? (view · = value) = some row ↔ row ∈ rows ∧ view row = value := by
  rcases Check.find?_or_absent view rows value with ⟨other, stored, has, found⟩ | ⟨absent, none⟩
  · rw [found, Option.some.injEq]
    constructor
    · rintro rfl
      exact ⟨stored, has⟩
    · rintro ⟨also, same⟩
      exact List.inj_on_of_nodup_map different stored also (has.trans same.symm)
  · rw [none]
    refine iff_of_false nofun ?_
    rintro ⟨stored, rfl⟩
    exact absent (List.mem_map_of_mem stored)

/-- A look-up answers with what it finds, or with its error. -/
theorem onTables_found {answer : ρ → Answer} {view : Tables → Option ρ} {otherwise : Error}
    (world : World Tables) :
    Authority.onTables answer (Administration.found (Effect.reading view) otherwise) world =
      (match view world.1 with
        | some row => .value (answer row)
        | none => .error otherwise, world) := by
  rw [Authority.onTables_apply]
  unfold Administration.found
  rw [Effect.reading_bind]
  cases view world.1 <;> rfl

section LookUp

variable {κ : Type} [DecidableEq κ] {view : ρ → κ} {rows : Tables → List ρ} {answer : ρ → Answer}
  {value : κ} {otherwise : Error}

/-- **A look-up among rows that do not share a value answers with the row that has it.** -/
theorem found_iff (injective : Function.Injective answer)
    (different : ((rows world.1).map view).Nodup) {row : ρ} :
    Authority.onTables answer (Administration.found
        (Effect.reading fun tables => (rows tables).find? (view · = value)) otherwise) world =
      (.value (answer row), world) ↔ row ∈ rows world.1 ∧ view row = value := by
  rw [onTables_found, ← find?_iff different]
  cases (rows world.1).find? (view · = value) with
  | some other =>
    rw [Option.some.injEq, ← injective.eq_iff]
    exact ⟨fun same => Ending.value.inj (congrArg Prod.fst same), fun same => same ▸ rfl⟩
  | none => exact iff_of_false (fun same => by cases same) nofun

/-- A look-up fails where no row has the value. -/
theorem found_absent (absent : value ∉ (rows world.1).map view) :
    Authority.onTables answer (Administration.found
        (Effect.reading fun tables => (rows tables).find? (view · = value)) otherwise) world =
      (.error otherwise, world) := by
  rw [onTables_found]
  rcases Check.find?_or_absent view (rows world.1) value with ⟨row, stored, has, -⟩ | ⟨-, none⟩
  · exact absurd (List.mem_map.mpr ⟨row, stored, has⟩) absent
  · rw [none]

end LookUp

/-- **Rows with different ids and different names are found by both.** -/
theorem faithful_of {last : Int} (injective : Function.Injective register.answer)
    (filed : Tables.Filed register.idOf last (register.rows world.1))
    (names : ((register.rows world.1).map register.nameOf).Nodup)
    (byId : ∀ id, authority.perform (register.byId id) =
      Authority.onTables register.answer (Administration.found
        (Effect.reading fun tables => (register.rows tables).find? (register.idOf · = id))
        (.noId register.entity id)))
    (byName : ∀ name, authority.perform (register.byName name) =
      Authority.onTables register.answer (Administration.found
        (Effect.reading fun tables => (register.rows tables).find? (register.nameOf · = name))
        (.noName register.entity name))) :
    register.Faithful authority world := by
  have ids : ((register.rows world.1).map register.idOf).Nodup :=
    filed.issued.ascending.imp Int.ne_of_lt
  have named (name : String) (row : ρ) :
      authority.perform (register.byName name) world = (.value (register.answer row), world) ↔
        row ∈ register.rows world.1 ∧ register.nameOf row = name := by
    rw [byName]
    exact found_iff injective names
  have numbered (id : Id) (row : ρ) :
      authority.perform (register.byId id) world = (.value (register.answer row), world) ↔
        row ∈ register.rows world.1 ∧ register.idOf row = id := by
    rw [byId]
    exact found_iff injective ids
  refine ⟨named, fun name absent => ⟨?_, rfl⟩, numbered, fun id absent => ⟨?_, rfl⟩, ?_, ?_⟩
  · rw [byName]
    exact found_absent absent
  · rw [byId]
    exact found_absent absent
  · intro name row found
    exact (numbered _ row).mpr ⟨((named name row).mp found).1, rfl⟩
  · intro id row found
    exact (named _ row).mpr ⟨((numbered id row).mp found).1, rfl⟩

end Register

namespace Authority

/-- **Names are canonical, and they are keys.** After any operations on empty tables every stored
name of a user, a resource, an action or a role and every stored key of an attribute is a text that
is not empty and has no blank ends. An operation that would give an entity the name of another one
of its kind, blanks at the ends apart, fails and changes nothing. A resource, an action or a role is
found under exactly the name that it has and under exactly its id, and what either look-up answers
with is what the other one finds; where there is none, nothing is found. -/
theorem names_are_keys (settings : Settings) (operations : List Operation) :
    let authority := ofStore Tables.store settings
    let world := authority.reached operations
    world.1.Canonical ∧
      (∀ operation, operation.Repeats world.1 →
        ∃ cause, authority.perform operation world = (.error cause, world)) ∧
      (world.1.users.map User.username).Nodup ∧
      Register.resources.Faithful authority world ∧
      Register.actions.Faithful authority world ∧
      Register.roles.Faithful authority world := by
  intro authority world
  have reachable : authority.Reachable world := Reachable.start.run operations
  have sound : Sound world.1 := reachable.keeping.1.sound
  refine ⟨canonical_run settings Tables.canonical_empty operations,
    fun operation => repeats_fails settings, sound.usernames, ?_, ?_, ?_⟩
  · exact Register.faithful_of (fun _ _ => Answer.resource.inj) sound.resources
      sound.resourceNames (fun _ => rfl) fun _ => rfl
  · exact Register.faithful_of (fun _ _ => Answer.action.inj) sound.actions sound.actionNames
      (fun _ => rfl) fun _ => rfl
  · exact Register.faithful_of (fun _ _ => Answer.role.inj) sound.roles sound.roleNames
      (fun _ => rfl) fun _ => rfl

/-- Two resources are made, the names of both with blank ends; the second one takes a new name and
is deleted, and a third one takes the name that it had. -/
def bookshelf : List Operation :=
  [.createResource { name := " page\t" }, .createResource { name := "book\u3000" },
    .updateResource 2 { name := " volume " }, .deleteResource 2, .createResource { name := "book" }]

/-- The third resource is found under the freed name, and no other one can take it. -/
theorem names_are_keys_bookshelf :
    let authority := ofStore Tables.store {}
    let world := authority.reached bookshelf
    let page : Resource := ⟨1, "page", none, none⟩
    let book : Resource := ⟨3, "book", none, none⟩
    world.1.resources = [page, book] ∧ "volume" ∉ world.1.resources.map Resource.name ∧
      authority.perform (.getResourceByName "book") world = (.value (.resource book), world) ∧
      authority.perform (.getResource 3) world = (.value (.resource book), world) ∧
      authority.perform (.getResourceByName "volume") world =
        (.error (.noName .resource "volume"), world) ∧
      (Operation.updateResource 1 { name := "\tbook " }).Repeats world.1 ∧
      ∃ cause, authority.perform (.updateResource 1 { name := "\tbook " }) world =
        (.error cause, world) := by
  obtain ⟨-, refused, -, faithful, -⟩ := names_are_keys {} bookshelf
  have stored : ((ofStore Tables.store {}).reached bookshelf).1.resources =
      [⟨1, "page", none, none⟩, ⟨3, "book", none, none⟩] := by decide +kernel
  have absent : "volume" ∉
      ((ofStore Tables.store {}).reached bookshelf).1.resources.map Resource.name := by
    rw [stored]
    decide
  have member : (⟨3, "book", none, none⟩ : Resource) ∈
      ((ofStore Tables.store {}).reached bookshelf).1.resources := by
    rw [stored]
    decide
  have found := (faithful.named "book" ⟨3, "book", none, none⟩).mpr ⟨member, rfl⟩
  have again : (Operation.updateResource 1 { name := "\tbook " }).Repeats
      ((ofStore Tables.store {}).reached bookshelf).1 :=
    .updateResource member (by decide) (by decide +kernel)
  exact ⟨stored, absent, found, faithful.ofNamed _ _ found, (faithful.unnamed _ absent).1, again,
    refused _ again⟩

end Authority

end AccessControl

/-
**What is deleted, and what is undone.**

* `Store.Call.removes`, `Tables.removal_done` — in sound tables a call that removes something
  succeeds where it can take its step; `Authority.removes_iff` — and only there.
* `Store.Call.undo?`, `Tables.Step.undone` — the call that takes back what another one added; right
  after it, it leaves what was there before, for nothing mentions an id that was not yet issued.
* `Operation.undo?`, `Authority.undoes` — the same for operations.
* `Authority.deletes_and_undoes` — **in reachable tables what nothing refers to can be deleted, with
  what belongs to it and nothing else, and whatever was just made can be taken back.**
-/

import AccessControl.Proofs.Attribute.History
import AccessControl.Proofs.Tables.Rows

namespace AccessControl

-- No proof below looks into how the blanks at the ends of a text are cut off.
seal Text.trim

/-! ### Calls that remove, and calls that are undone -/

def Store.Call.removes : Store.Call → Bool
  | .deleteResource _ | .deleteAction _ | .deleteRole _ | .unassignRole .. | .deleteEdge _
  | .deletePermission .. => true
  | _ => false

theorem Store.Call.looks_of_removes {call : Store.Call} (removes : call.removes = true) :
    call.looks = false := by
  cases call <;> first | rfl | cases removes

/-- The call that takes back what a call added, given the id that it was to take. -/
def Store.Call.undo? (given : Id) : Store.Call → Option Store.Call
  | .insertResource _ => some (.deleteResource given)
  | .insertAction _ => some (.deleteAction given)
  | .insertRole _ => some (.deleteRole given)
  | .assignRole holder held => some (.unassignRole holder held)
  | .insertEdge edge => some (.deleteEdge edge)
  | .insertPermission new => some (.deletePermission new.role new.resource new.action)
  | _ => none

theorem Store.Call.undo?_of_looks {given : Id} {call : Store.Call} (looks : call.looks = true) :
    call.undo? given = none := by
  cases call <;> first | rfl | cases looks

theorem Store.Call.removes_of_undo? {given : Id} {call undo : Store.Call}
    (undoes : call.undo? given = some undo) : undo.removes = true := by
  cases call <;> cases undoes <;> rfl

namespace Tables

open Effect (ensure_bind_eq reading_bind_eq require_bind_eq)

variable {before after tables : Tables} {call undo : Store.Call}

/-! ### Removing -/

/-- A grant is found by what it is for, as no other is for the same. -/
theorem Sound.find?_grants (sound : Sound tables) {role resource action : Id}
    {permission : Permission} (stored : permission ∈ tables.permissions)
    (about : permission.grants role resource action = true) :
    tables.permissions.find? (·.grants role resource action) = some permission := by
  have triple_of {row : Permission} (about : row.grants role resource action = true) :
      triple row = (role, resource, action) := by
    simp only [Permission.grants, Permission.targets, Bool.and_eq_true, decide_eq_true_eq] at about
    unfold triple
    rw [about.1, about.2.1, about.2.2]
  have present : (tables.permissions.find? (·.grants role resource action)).isSome = true :=
    List.find?_isSome.mpr ⟨permission, stored, about⟩
  obtain ⟨other, found⟩ := Option.isSome_iff_exists.mp present
  rw [found]
  refine congrArg some (List.inj_on_of_nodup_map sound.triples (List.mem_of_find?_eq_some found)
    stored ?_)
  have also : other.grants role resource action = true :=
    List.find?_some (p := fun row : Permission => row.grants role resource action) found
  rw [triple_of also, triple_of about]

/-- **A call that removes something succeeds where it can take its step.** -/
theorem removal_done (sound : Sound tables) (removes : call.removes = true)
    (step : Step tables call after) : store.call call tables = (.value (), after) := by
  cases step with
  | deleteResource present childless unused =>
    exact reading_bind_eq <| ensure_bind_eq (isSome_find?_id.mpr present) <|
      ensure_bind_eq (not_any.mpr (by simpa using childless)) <|
        ensure_bind_eq (not_any.mpr (by simpa using unused)) rfl
  | deleteAction present unused =>
    exact reading_bind_eq <| ensure_bind_eq (isSome_find?_id.mpr present) <|
      ensure_bind_eq (not_any.mpr (by simpa using unused)) rfl
  | deleteRole present unused =>
    exact reading_bind_eq <| ensure_bind_eq (isSome_find?_id.mpr present) <|
      ensure_bind_eq (not_any.mpr (by simpa using unused)) rfl
  | unassignRole linked =>
    exact reading_bind_eq <| ensure_bind_eq (List.contains_iff_mem.mpr linked) rfl
  | deleteEdge stored =>
    exact reading_bind_eq <| ensure_bind_eq (List.contains_iff_mem.mpr stored) rfl
  | deletePermission stored about =>
    exact reading_bind_eq <| require_bind_eq (sound.find?_grants stored about) rfl
  | look looks =>
    rw [Store.Call.looks_of_removes removes] at looks
    cases looks
  | _ => cases removes

/-! ### Undoing -/

section Rows

variable {ρ : Type} {idOf : ρ → Id} {last id : Id} {rows : List ρ} {row : ρ} {stays : ρ → Bool}

theorem Filed.ne_next (filed : Filed idOf last rows) (member : id ∈ rows.map idOf) :
    id ≠ last + 1 :=
  Int.ne_of_lt (Int.lt_add_one_of_le (filed.issued.atMost id member))

theorem filter_added (others : ∀ old ∈ rows, stays old = true) (gone : stays row = false) :
    (rows ++ [row]).filter stays = rows := by
  rw [filter_append_other gone, List.filter_eq_self.mpr others]

theorem Filed.filter_added (filed : Filed idOf last rows) (own : idOf row = last + 1) :
    (rows ++ [row]).filter (idOf · ≠ last + 1) = rows :=
  Tables.filter_added
    (fun _ stored => decide_eq_true (filed.ne_next (List.mem_map_of_mem stored)))
    (decide_eq_false (not_not_intro own))

theorem filter_ne_added {κ : Type} [DecidableEq κ] {items : List κ} {item : κ}
    (fresh : item ∉ items) : (items ++ [item]).filter (· ≠ item) = items :=
  filter_added (fun _ stored => decide_eq_true fun same => fresh (same ▸ stored))
    (decide_eq_false (not_not_intro rfl))

theorem mem_ids_next (rows : List ρ) (own : idOf row = id) : id ∈ (rows ++ [row]).map idOf :=
  List.mem_map.mpr ⟨row, List.mem_append_right _ (List.mem_singleton_self row), own⟩

end Rows

/-- Nothing is stored about a resource that has the next id. -/
theorem Sound.facts_next (sound : Sound tables) :
    (fun owner other => if owner = .resource ∧ other = tables.lastId + 1 then .empty
      else tables.facts owner other) = tables.facts := by
  funext owner other
  split
  · rename_i next
    exact (sound.facts_unissued (next.2 ▸ Int.lt_succ _)).symm
  · rfl

theorem Step.to {other : Tables} (step : Step before call other) (same : other = after) :
    Step before call after := same ▸ step

/-- **What a step added is taken back by the step that undoes it**, and the sequence of ids stays
where it is. Rows refer to issued ids only, so that the row with the next id is free to go, and
alone. -/
theorem Step.undone (sound : Sound before) (step : Step before call after)
    (undoes : call.undo? (before.lastId + 1) = some undo) :
    Step after undo { before with lastId := after.lastId } := by
  cases step with
  | insertResource _ inside =>
    obtain rfl := Option.some.inj undoes
    refine (Step.deleteResource (mem_ids_next _ rfl) ?_ fun permission stored => ?_).to ?_
    · refine forall_append (fun resource stored within => ?_) fun within => ?_
      · exact sound.resources.ne_next (sound.parents resource stored _ within) rfl
      · exact sound.resources.ne_next (inside _ within) rfl
    · exact sound.resources.ne_next (sound.permissionResources permission stored)
    · simp only [sound.resources.filter_added, sound.facts_next]
  | insertAction _ =>
    obtain rfl := Option.some.inj undoes
    refine (Step.deleteAction (mem_ids_next _ rfl) fun permission stored => ?_).to ?_
    · exact sound.actions.ne_next (sound.permissionActions permission stored)
    · simp only [sound.actions.filter_added]
  | insertRole _ =>
    obtain rfl := Option.some.inj undoes
    refine (Step.deleteRole (mem_ids_next _ rfl) fun permission stored => ?_).to ?_
    · exact sound.roles.ne_next (sound.permissionRoles permission stored)
    · have links : before.links.filter (·.role ≠ before.lastId + 1) = before.links :=
        List.filter_eq_self.mpr fun link stored =>
          decide_eq_true (sound.roles.ne_next (sound.linkRoles link stored))
      have edges : before.edges.filter (fun edge =>
          edge.parent ≠ before.lastId + 1 ∧ edge.child ≠ before.lastId + 1) = before.edges :=
        List.filter_eq_self.mpr fun edge stored => decide_eq_true
          ⟨sound.roles.ne_next (sound.edgeParents edge stored),
            sound.roles.ne_next (sound.edgeChildren edge stored)⟩
      simp only [sound.roles.filter_added, links, edges]
  | assignRole _ _ fresh =>
    obtain rfl := Option.some.inj undoes
    refine (Step.unassignRole (List.mem_append_right _ (List.mem_singleton_self _))).to ?_
    simp only [filter_ne_added fresh]
  | insertEdge _ _ fresh _ =>
    obtain rfl := Option.some.inj undoes
    refine (Step.deleteEdge (List.mem_append_right _ (List.mem_singleton_self _))).to ?_
    simp only [filter_ne_added fresh]
  | insertPermission _ _ _ _ =>
    obtain rfl := Option.some.inj undoes
    refine (Step.deletePermission (List.mem_append_right _ (List.mem_singleton_self _)) ?_).to ?_
    · simp [Permission.grants, Permission.targets]
    · simp only [sound.permissions.filter_added]
  | look looks =>
    rw [Store.Call.undo?_of_looks looks] at undoes
    cases undoes
  | _ => cases undoes

end Tables

/-! ### Operations -/

/-- Whether an operation makes something that another one takes back. -/
def Operation.makes : Operation → Bool
  | .createResource _ | .createAction _ | .createRole _ | .assignRole .. | .addInheritance ..
  | .grant _ => true
  | _ => false

/-- The operation that takes back what an operation made, as its answer shows it. -/
def Operation.undo? : Operation → Answer → Option Operation
  | .createResource _, .resource row => some (.deleteResource row.id)
  | .createAction _, .action row => some (.deleteAction row.id)
  | .createRole _, .role row => some (.deleteRole row.id)
  | .assignRole user role, .done => some (.unassignRole user role)
  | .addInheritance parent child, .done => some (.removeInheritance parent child)
  | .grant new, .permission _ => some (.revoke new.role new.resource new.action)
  | _, _ => none

namespace Authority

open Check (World)
open Tables (Sound Step)

variable {settings : Settings} {tables : Tables} {engine : Expression.Engine}
  {after : World Tables} {operation : Operation}

/-- An operation that removes something is done exactly where its call can take its step. -/
theorem removes_iff (sound : Sound tables) (call : Store.Call) (removes : call.removes = true) :
    onTablesOnly (Tables.store.call call) (tables, engine) = (.value .done, after) ↔
      Step tables call after.1 ∧ after.2 = engine := by
  constructor
  · intro done
    have ends := onTables_ends (fun _ => .done) (Tables.call_leads call) (tables, engine)
    rw [show onTables _ _ _ = _ from done] at ends
    obtain ⟨-, rest, step, same⟩ | ⟨cause, same⟩ := ends
    · obtain ⟨-, rfl⟩ := Prod.mk.inj same
      exact ⟨step, rfl⟩
    · cases same
  · rintro ⟨step, rfl⟩
    refine (onTables_apply _ _ _).trans ?_
    rw [Tables.removal_done sound removes step]
    rfl

/-- What is undone right after an operation on the tables is as if it had not been done. -/
theorem undone_of {α : Type} {answer : α → Answer} {effect : Effect Error Tables α}
    {allowed : Tables → α → Tables → Prop} (sound : Sound tables)
    (leads : ∀ tables, effect.Leads tables (allowed tables))
    (undoes : ∀ row rest, allowed tables row rest → ∃ call undo removal, Step tables call rest ∧
      operation.undo? (answer row) = some undo ∧ call.undo? (tables.lastId + 1) = some removal ∧
      (ofStore Tables.store settings).perform undo = onTablesOnly (Tables.store.call removal))
    {given : Answer} (performed : onTables answer effect (tables, engine) = (.value given, after)) :
    ∃ undo, operation.undo? given = some undo ∧
      (ofStore Tables.store settings).perform undo after =
        (.value .done, { tables with lastId := after.1.lastId }, engine) ∧
      tables.lastId ≤ after.1.lastId := by
  have ends := onTables_ends answer leads (tables, engine)
  rw [performed] at ends
  obtain ⟨row, rest, fine, same⟩ | ⟨cause, same⟩ := ends
  · obtain ⟨call, undo, removal, step, shown, undone, performs⟩ := undoes row rest fine
    cases same
    refine ⟨undo, shown, ?_, step.lastId_le⟩
    rw [performs]
    exact (removes_iff (sound.step step) removal (Store.Call.removes_of_undo? undone)).mpr
      ⟨step.undone sound undone, rfl⟩
  · cases same

/-- **Whatever was just made is taken back**, and only the sequence of ids has gone on. -/
theorem undoes (sound : Sound tables) (makes : operation.makes = true) {given : Answer}
    (performed : (ofStore Tables.store settings).perform operation (tables, engine) =
      (.value given, after)) :
    ∃ undo, operation.undo? given = some undo ∧
      (ofStore Tables.store settings).perform undo after =
        (.value .done, { tables with lastId := after.1.lastId }, engine) ∧
      tables.lastId ≤ after.1.lastId := by
  cases operation with
  | createResource new =>
    exact undone_of sound (Tables.createResource_creates new).leads (fun row _ fine =>
      ⟨_, _, _, fine.2, rfl, rfl, fine.1 ▸ rfl⟩) performed
  | createAction new =>
    exact undone_of sound (Tables.createAction_creates new).leads (fun row _ fine =>
      ⟨_, _, _, fine.2, rfl, rfl, fine.1 ▸ rfl⟩) performed
  | createRole new =>
    exact undone_of sound (Tables.createRole_creates new).leads (fun row _ fine =>
      ⟨_, _, _, fine.2, rfl, rfl, fine.1 ▸ rfl⟩) performed
  | assignRole user role =>
    exact undone_of sound (fun _ => Tables.assignRole_leads user role)
      (fun _ _ step => ⟨_, _, _, step, rfl, rfl, rfl⟩) performed
  | addInheritance parent child =>
    exact undone_of sound (fun _ => Tables.insertEdge_leads ⟨parent, child⟩)
      (fun _ _ step => ⟨_, _, _, step, rfl, rfl, rfl⟩) performed
  | grant grant =>
    exact undone_of sound (Tables.grant_creates grant).leads (fun row _ fine =>
      ⟨_, _, _, fine.2, rfl, rfl, rfl⟩) performed
  | _ => cases makes

/-- A resource is deleted exactly when it is there, holds no others and no grant is about it; it
goes with its attributes. -/
theorem deleteResource_iff (sound : Sound tables) {id : Id} :
    (ofStore Tables.store settings).perform (.deleteResource id) (tables, engine) =
        (.value .done, after) ↔
      (id ∈ tables.resources.map Resource.id ∧
        (∀ resource ∈ tables.resources, resource.parent ≠ some id) ∧
        ∀ permission ∈ tables.permissions, permission.resource ≠ id) ∧
      after =
        ({ tables with
          resources := tables.resources.filter (·.id ≠ id)
          facts := fun owner other =>
            if owner = .resource ∧ other = id then .empty else tables.facts owner other },
          engine) := by
  obtain ⟨rest, left⟩ := after
  refine (removes_iff sound (.deleteResource id) rfl).trans ⟨?_, ?_⟩
  · rintro ⟨step, rfl⟩
    cases step with
    | look looks => cases looks
    | deleteResource present childless unused => exact ⟨⟨present, childless, unused⟩, rfl⟩
  · rintro ⟨⟨present, childless, unused⟩, same⟩
    cases same
    exact ⟨.deleteResource present childless unused, rfl⟩

/-- An action is deleted exactly when it is there and no grant is about it. -/
theorem deleteAction_iff (sound : Sound tables) {id : Id} :
    (ofStore Tables.store settings).perform (.deleteAction id) (tables, engine) =
        (.value .done, after) ↔
      (id ∈ tables.actions.map Action.id ∧
        ∀ permission ∈ tables.permissions, permission.action ≠ id) ∧
      after = ({ tables with actions := tables.actions.filter (·.id ≠ id) }, engine) := by
  obtain ⟨rest, left⟩ := after
  refine (removes_iff sound (.deleteAction id) rfl).trans ⟨?_, ?_⟩
  · rintro ⟨step, rfl⟩
    cases step with
    | look looks => cases looks
    | deleteAction present unused => exact ⟨⟨present, unused⟩, rfl⟩
  · rintro ⟨⟨present, unused⟩, same⟩
    cases same
    exact ⟨.deleteAction present unused, rfl⟩

/-- A role is deleted exactly when it is there and no grant is for it; it goes with its links to
users and the edges at it. -/
theorem deleteRole_iff (sound : Sound tables) {id : Id} :
    (ofStore Tables.store settings).perform (.deleteRole id) (tables, engine) =
        (.value .done, after) ↔
      (id ∈ tables.roles.map Role.id ∧
        ∀ permission ∈ tables.permissions, permission.role ≠ id) ∧
      after =
        ({ tables with
          roles := tables.roles.filter (·.id ≠ id)
          links := tables.links.filter (·.role ≠ id)
          edges := tables.edges.filter fun edge => edge.parent ≠ id ∧ edge.child ≠ id },
          engine) := by
  obtain ⟨rest, left⟩ := after
  refine (removes_iff sound (.deleteRole id) rfl).trans ⟨?_, ?_⟩
  · rintro ⟨step, rfl⟩
    cases step with
    | look looks => cases looks
    | deleteRole present unused => exact ⟨⟨present, unused⟩, rfl⟩
  · rintro ⟨⟨present, unused⟩, same⟩
    cases same
    exact ⟨.deleteRole present unused, rfl⟩

/-- **What nothing refers to can be deleted, and what was just made can be taken back.** In
reachable tables a resource, an action or a role is deleted exactly when it is there and nothing
refers to it: no resource inside it, no grant of any status. A resource goes with its attributes, a
role with its links and the edges at it; all other rows stay, in their order. After a resource, an
action or a role was created, a role assigned, an inheritance declared or a grant made, it is at
once taken back, and the tables are then as before, only the sequence of ids has gone on. -/
theorem deletes_and_undoes (reachable : tables.Reachable) (settings : Settings)
    (engine : Expression.Engine) :
    let authority := ofStore Tables.store settings
    (∀ id after,
      authority.perform (.deleteResource id) (tables, engine) = (.value .done, after) ↔
        (id ∈ tables.resources.map Resource.id ∧
          (∀ resource ∈ tables.resources, resource.parent ≠ some id) ∧
          ∀ permission ∈ tables.permissions, permission.resource ≠ id) ∧
        after =
          ({ tables with
            resources := tables.resources.filter (·.id ≠ id)
            facts := fun owner other =>
              if owner = .resource ∧ other = id then .empty else tables.facts owner other },
            engine)) ∧
    (∀ id after,
      authority.perform (.deleteAction id) (tables, engine) = (.value .done, after) ↔
        (id ∈ tables.actions.map Action.id ∧
          ∀ permission ∈ tables.permissions, permission.action ≠ id) ∧
        after = ({ tables with actions := tables.actions.filter (·.id ≠ id) }, engine)) ∧
    (∀ id after,
      authority.perform (.deleteRole id) (tables, engine) = (.value .done, after) ↔
        (id ∈ tables.roles.map Role.id ∧
          ∀ permission ∈ tables.permissions, permission.role ≠ id) ∧
        after =
          ({ tables with
            roles := tables.roles.filter (·.id ≠ id)
            links := tables.links.filter (·.role ≠ id)
            edges := tables.edges.filter fun edge => edge.parent ≠ id ∧ edge.child ≠ id },
            engine)) ∧
    ∀ operation answer after, operation.makes = true →
      authority.perform operation (tables, engine) = (.value answer, after) →
      ∃ undo, operation.undo? answer = some undo ∧
        authority.perform undo after =
          (.value .done, { tables with lastId := after.1.lastId }, engine) ∧
        tables.lastId ≤ after.1.lastId :=
  ⟨fun _ _ => deleteResource_iff reachable.sound, fun _ _ => deleteAction_iff reachable.sound,
    fun _ _ => deleteRole_iff reachable.sound,
    fun _ _ _ makes performed => undoes reachable.sound makes performed⟩

/-- A role with a link and edges that no grant is for, between two roles that stay; a page with an
attribute inside a book, and a grant out of force about the book. -/
def archive : List Store.Call :=
  [.insertUser "ann", .insertRole { name := "reader" }, .insertRole { name := "guest" },
    .insertRole { name := "editor" }, .assignRole 1 2, .assignRole 1 3, .assignRole 1 4,
    .insertEdge ⟨2, 3⟩, .insertEdge ⟨2, 4⟩, .insertEdge ⟨3, 4⟩,
    .insertResource { name := "book" }, .insertResource { name := "page", parent := some 5 },
    .setAttribute .resource 6 "level" (.integer 1), .insertAction { name := "read" },
    .insertPermission { role := 2, resource := 5, action := 7, status := .inactive }]

/-- The role goes with one of the links and two of the edges, the book stays, and a note that is
made in it is taken back. -/
theorem deletes_and_undoes_archive :
    let authority := ofStore Tables.store {}
    let tables := Tables.store.after archive Tables.empty
    let world : World Tables := (tables, .fresh true)
    (∃ after, authority.perform (.deleteRole 3) world = (.value .done, after) ∧
      after.1.links = [⟨1, 2⟩, ⟨1, 4⟩] ∧ after.1.edges = [⟨2, 4⟩]) ∧
    (∀ after, authority.perform (.deleteResource 5) world ≠ (.value .done, after)) ∧
    ∃ row after,
      authority.perform (.createResource { name := "note", parent := some 5 }) world =
        (.value (.resource row), after) ∧ row.id = 9 ∧
      authority.perform (.deleteResource row.id) after =
        (.value .done, { tables with lastId := 9 }, .fresh true) := by
  have guest : 3 ∈ (Tables.store.after archive Tables.empty).roles.map Role.id ∧
      ∀ permission ∈ (Tables.store.after archive Tables.empty).permissions,
        permission.role ≠ 3 := by decide +kernel
  have links : (Tables.store.after archive Tables.empty).links.filter (·.role ≠ 3) =
    [⟨1, 2⟩, ⟨1, 4⟩] := by decide +kernel
  have edges : ((Tables.store.after archive Tables.empty).edges.filter fun edge =>
    edge.parent ≠ 3 ∧ edge.child ≠ 3) = [⟨2, 4⟩] := by decide +kernel
  have about : ¬ ∀ permission ∈ (Tables.store.after archive Tables.empty).permissions,
    permission.resource ≠ 5 := by decide +kernel
  have made : (Operation.createResource { name := "note", parent := some 5 }).created?
      ((ofStore Tables.store {}).perform (.createResource { name := "note", parent := some 5 })
        (Tables.store.after archive Tables.empty, .fresh true)).1 = some (.resource, 9) := by
    decide +kernel
  have last : ((ofStore Tables.store {}).perform
      (.createResource { name := "note", parent := some 5 })
        (Tables.store.after archive Tables.empty, .fresh true)).2.1.lastId = 9 := by
    decide +kernel
  obtain ⟨resources, -, roles, undoes⟩ :=
    deletes_and_undoes (Tables.Reachable.start.after archive) {} (.fresh true)
  obtain ⟨row, ended, own⟩ := Operation.answer_of_created made
  obtain ⟨undo, shown, undone, -⟩ := undoes _ _ _ rfl (Prod.ext ended rfl)
  cases shown
  refine ⟨⟨_, (roles 3 _).mpr ⟨guest, rfl⟩, links, edges⟩, fun after done => ?_, row, _,
    Prod.ext ended rfl, own, undone.trans (by rw [last])⟩
  exact about ((resources 5 after).mp done).1.2.2

end Authority

end AccessControl

/-
**Changing a resource in memory and in a database.**

* `Held`, `Standing`, `Enclosed` — the new name is another resource's, the new parent is there, the
  new parent is the resource itself or inside it.
* `Changes` — what the rules of the schema make of the statement that changes the row;
  `ReflectsChange` — what every statement of a change is answered if the rows are those of some
  tables.
* `memory_change`, `database_change` — what a change comes to in memory and in a database.
* `changes_alike` — **both come to the same resource or to errors of one kind**, except where the
  name is held and the new parent is enclosed: there each of them reports what it tests first, as
  `changes_crossed` shows of a cupboard and a box.
-/

import AccessControl.Proofs.ResourceTree
import AccessControl.Proofs.Sql.Rules
import AccessControl.Proofs.Tables.Step

namespace AccessControl

/-- Two endings are the same value, or errors of one kind. -/
inductive Ending.SameKind {α : Type} : Ending Error α → Ending Error α → Prop where
  | value {result : α} : SameKind (.value result) (.value result)
  | error {one other : Error} (same : one.kind = other.kind) : SameKind (.error one) (.error other)

namespace Sql

open Effect
open Relation (ReflTransGen)

variable {tables : Tables} {id parent : Id} {new : NewResource} {session : Session}
  {statements : List Statement}

/-! ### What can stand in the way of a change -/

/-- A name is another resource's. -/
def Held (tables : Tables) (id : Id) (name : String) : Prop :=
  ∃ other ∈ tables.resources, other.name = name ∧ other.id ≠ id

/-- A parent, if there is to be one, is there. -/
def Standing (tables : Tables) (parent : Option Id) : Prop :=
  ∀ above, parent = some above → above ∈ tables.resources.map Resource.id

/-- A parent, if there is to be one, is the resource itself or inside it. -/
def Enclosed (tables : Tables) (id : Id) (parent : Option Id) : Prop :=
  ∃ above, parent = some above ∧ ReflTransGen (Tables.Inside tables.resources) above id

theorem held_iff {name : String} :
    tables.resourceNameTaken name (some id) = true ↔ Held tables id name := by
  unfold Tables.resourceNameTaken Held
  simp [List.any_eq_true]

theorem enclosed_iff {parent : Option Id} :
    parent.any (tables.isWithin id) = true ↔ Enclosed tables id parent := by
  unfold Enclosed
  simp only [Option.any_eq_true, Tables.isWithin_iff]

/-- What is inside a resource that is there is there too. -/
theorem Enclosed.standing {parent : Option Id} (enclosed : Enclosed tables id parent)
    (present : id ∈ tables.resources.map Resource.id) : Standing tables parent := by
  obtain ⟨above, rfl, path⟩ := enclosed
  rintro _ ⟨⟩
  cases path using ReflTransGen.head_induction_on with
  | refl => exact present
  | head edge _ _ =>
    refine Tables.isSome_find?_id.mp ?_
    unfold Tables.Inside Tables.parent? at edge
    cases found : tables.resources.find? (·.id = above) with
    | some row => rfl
    | none =>
      rw [found] at edge
      cases edge

/-! ### What the server replies to a change -/

def changed (id : Id) (new : NewResource) : Resource := ⟨id, new.name, new.description, new.parent⟩

def changing (id : Id) (new : NewResource) : Statement :=
  (Transacted.updateResource id new).last.statement

/-- What the rules of the schema make of the change of a row: a name that is another resource's is
refused, then a parent that is not there, and else the row comes back as it is changed. -/
inductive Changes (tables : Tables) (id : Id) (new : NewResource) : Outcome → Prop where
  | held {refusal : Refusal} (held : Held tables id new.name)
      (code : refusal.code = uniqueViolation) : Changes tables id new (.refused refusal)
  | dangling {refusal : Refusal} (free : ¬ Held tables id new.name)
      (dangling : ¬ Standing tables new.parent) (code : refusal.code = referenceViolation) :
      Changes tables id new (.refused refusal)
  | done (free : ¬ Held tables id new.name) (standing : Standing tables new.parent) :
      Changes tables id new (.rows [Row.ofResource (changed id new)])

/-- What a statement of a change is answered if the rows are those of some tables: the change of the
row as the rules of the schema say, the question for the lineage by what encloses what, and every
other statement as for any operation. -/
structure ReflectsChange (tables : Tables) (id : Id) (new : NewResource) (statement : Statement)
    (outcome : Outcome) : Prop where
  elsewhere : statement ≠ changing id new → Reflects tables statement outcome
  lineage : ∀ parent, new.parent = some parent → statement = (Stage.lineage id parent).statement →
    ∃ row rest nested, outcome.found = row :: rest ∧
      row.lookup "nested" = some (.boolean nested) ∧
      (nested = true ↔ ReflTransGen (Tables.Inside tables.resources) parent id)
  change : statement = changing id new → Changes tables id new outcome

/-- Every change has an outcome. -/
theorem exists_changes (tables : Tables) (id : Id) (new : NewResource) :
    ∃ outcome, Changes tables id new outcome := by
  by_cases held : Held tables id new.name
  · exact ⟨.refused ⟨uniqueViolation, "", none⟩, .held held rfl⟩
  · by_cases standing : Standing tables new.parent
    · exact ⟨_, .done held standing⟩
    · exact ⟨.refused ⟨referenceViolation, "", none⟩, .dangling held standing rfl⟩

/-- The question for a lineage is none of the inquiries of other operations. -/
theorem reflects_lineage {outcome : Outcome} (accepted : outcome.Accepted) :
    Reflects tables (Stage.lineage id parent).statement outcome where
  accepted := accepted
  answered inquiry same := by
    have values : [Parameter.integer parent, .integer id] = inquiry.statement.parameters :=
      congrArg Statement.parameters same
    cases inquiry with
    | removeLink link =>
      have texts : lineageQuery =
          "DELETE FROM authz_user_roles WHERE user_id = $1 AND role_id = $2" :=
        congrArg Statement.text same
      exact absurd texts (by decide +kernel)
    | removeEdge edge =>
      have texts : lineageQuery =
          "DELETE FROM authz_role_hierarchy WHERE parent_id = $1 AND child_id = $2" :=
        congrArg Statement.text same
      exact absurd texts (by decide +kernel)
    | _ => cases values

theorem lineage_ne_changing : (Stage.lineage id parent).statement ≠ changing id new :=
  fun same => nomatch congrArg Statement.parameters same

theorem exists_reflectingChange (tables : Tables) (id : Id) (new : NewResource)
    (statement : Statement) : ∃ outcome, ReflectsChange tables id new statement outcome := by
  by_cases last : statement = changing id new
  · subst last
    obtain ⟨outcome, changes⟩ := exists_changes tables id new
    exact ⟨outcome, fun apart => absurd rfl apart,
      fun _ _ same => absurd same.symm lineage_ne_changing, fun _ => changes⟩
  by_cases asked : ∃ parent, new.parent = some parent ∧
      statement = (Stage.lineage id parent).statement
  · obtain ⟨parent, within, rfl⟩ := asked
    refine ⟨.rows [[("nested", .boolean (tables.isWithin id parent))]],
      fun _ => reflects_lineage nofun, fun other also _ => ?_, fun same => absurd same last⟩
    obtain rfl := Option.some.inj (within.symm.trans also)
    exact ⟨_, _, _, rfl, rfl, Tables.isWithin_iff⟩
  · obtain ⟨outcome, reflects⟩ := exists_reflecting tables statement
    exact ⟨outcome, fun _ => reflects,
      fun parent within same => absurd ⟨parent, within, same⟩ asked, fun same => absurd same last⟩

/-- A statement with less than two values is answered as for any operation: a question for a
lineage has two, and a change of a row has four. -/
theorem reflectsChange_of_few {statement : Statement} {outcome : Outcome}
    (few : statement.parameters.length < 2) (reflects : Reflects tables statement outcome) :
    ReflectsChange tables id new statement outcome where
  elsewhere _ := reflects
  lineage parent _ same := by
    subst same
    exact absurd few (Nat.lt_irrefl 2)
  change same := by
    subst same
    exact absurd few (show ¬ 4 < 2 by decide)

/-- Marks have no values. -/
theorem reflectsChange_mark {statement : Statement} {mark : Mark}
    (marked : Mark.ofStatement? statement = some mark) :
    ReflectsChange tables id new statement (.affected 0) := by
  refine reflectsChange_of_few ?_ (reflects_mark marked (Outcome.accepted_affected 0))
  obtain ⟨text, _ | ⟨parameter, parameters⟩⟩ := statement
  · exact Nat.zero_lt_two
  · cases (Mark.ofStatement?_cons text parameter parameters).symm.trans marked

/-! ### What a change comes to -/

/-- The checks behind which the row is changed: the resource is there, and does not enclose its new
parent. -/
def guardChecks (tables : Tables) (id : Id) (new : NewResource) : List (Checked Unit) :=
  .ok () :: ((new.parent.toList.map fun _ => .ok ()) ++
    demand (tables.resource? id).isSome (.noId .resource id) ::
      new.parent.toList.map fun parent =>
        demand (!tables.isWithin id parent) (.nestedInItself id))

theorem judged_elsewhere {stage : Stage} {check : Checked Unit} (judged : Judged tables stage check)
    (apart : stage.statement ≠ changing id new) :
    JudgedBy (ReflectsChange tables id new) stage check :=
  fun outcome reflected => judged outcome (reflected.elsewhere apart)

/-- The question for the lineage of the new parent says whether it is enclosed. -/
theorem judged_lineage (within : new.parent = some parent) :
    JudgedBy (ReflectsChange tables id new) (.lineage id parent)
      (demand (!tables.isWithin id parent) (.nestedInItself id)) := by
  intro outcome reflected
  have accepted := (reflected.elsewhere lineage_ne_changing).accepted
  obtain ⟨row, rest, nested, found, told, meaning⟩ := reflected.lineage parent within rfl
  have same : nested = tables.isWithin id parent :=
    Bool.eq_iff_iff.mpr (meaning.trans Tables.isWithin_iff.symm)
  show outcome.checkedRows "Failed to inspect resource lineage" .plain >>= _ = _
  rw [Outcome.checkedRows_iff.mpr ⟨accepted, found⟩]
  show (row.boolean "nested" >>= fun nested => _) = _
  rw [Row.boolean_iff.mpr told, ← same]
  cases nested <;> rfl

/-- The stages before the change are judged by their checks. -/
theorem judged_guards (tables : Tables) (id : Id) (new : NewResource) :
    List.Forall₂ (JudgedBy (ReflectsChange tables id new))
      (Stage.start :: (Transacted.updateResource id new).guards) (guardChecks tables id new) := by
  have start : JudgedBy (ReflectsChange tables id new) Stage.start (.ok ()) :=
    judged_elsewhere (judged_accepting _ _ _) fun same =>
      nomatch congrArg Statement.parameters same
  have locked : JudgedBy (ReflectsChange tables id new)
      (.locking "authz_resources" "UPDATE" id (.noId .resource id))
      (demand (tables.resource? id).isSome (.noId .resource id)) :=
    judged_elsewhere (judged_locking .resources false id _) fun same =>
      nomatch congrArg Statement.parameters same
  refine .cons start (List.rel_append ?_ (.cons locked ?_))
  · rw [List.forall₂_map_left_iff, List.forall₂_map_right_iff, List.forall₂_same]
    intro parent _
    exact judged_elsewhere (judged_accepting _ _ _) fun same =>
      nomatch congrArg Statement.parameters same
  · rw [List.forall₂_map_left_iff, List.forall₂_map_right_iff, List.forall₂_same]
    intro parent member
    exact judged_lineage (Option.mem_toList.mp member)

/-- The guards fail where the resource is not there, and where it encloses its new parent. -/
theorem afterAll_guardChecks (tables : Tables) (id : Id) (new : NewResource) :
    afterAll (guardChecks tables id new) (.ok ()) =
      if (tables.resource? id).isSome then
        if new.parent.any (tables.isWithin id) then .error (.nestedInItself id) else .ok ()
      else .error (.noId .resource id) := by
  unfold guardChecks
  cases new.parent with
  | none => cases (tables.resource? id).isSome <;> rfl
  | some parent =>
    show (demand _ _ >>= fun _ => demand (!tables.isWithin id parent) _ >>= fun _ => _) =
      if _ then if tables.isWithin id parent then _ else _ else _
    cases (tables.resource? id).isSome with
    | false => rfl
    | true => cases tables.isWithin id parent <;> rfl

/-- What a change comes to in a database: the resource is not there, it encloses its new parent, the
schema refuses, or it is changed. -/
inductive ChangeEnds (tables : Tables) (id : Id) (new : NewResource) : Ending Error Resource → Prop
    where
  | absent (absent : id ∉ tables.resources.map Resource.id) :
      ChangeEnds tables id new (.error (.noId .resource id))
  | enclosed (present : id ∈ tables.resources.map Resource.id)
      (enclosed : Enclosed tables id new.parent) :
      ChangeEnds tables id new (.error (.nestedInItself id))
  | refused {refusal : Refusal} (present : id ∈ tables.resources.map Resource.id)
      (outside : ¬ Enclosed tables id new.parent)
      (changes : Changes tables id new (.refused refusal)) :
      ChangeEnds tables id new (.error (errorOf "Failed to update resource" .writing refusal))
  | changed (present : id ∈ tables.resources.map Resource.id)
      (outside : ¬ Enclosed tables id new.parent) (free : ¬ Held tables id new.name)
      (standing : Standing tables new.parent) :
      ChangeEnds tables id new (.value (changed id new))

/-- Behind the guards a change stops only where the schema refuses it. -/
theorem ChangeEnds.of_stopped (present : id ∈ tables.resources.map Resource.id)
    (outside : ¬ Enclosed tables id new.parent) {said : Transcript} {cause : Error}
    (described : ∀ entry ∈ said, ReflectsChange tables id new entry.1 entry.2)
    (goes : Goes [(Transacted.updateResource id new).last, Stage.commit] said (.error cause)) :
    ChangeEnds tables id new (.error cause) := by
  cases goes with
  | @stopped _ _ outcome _ verdict =>
    have changes := (described _ List.mem_cons_self).change rfl
    cases outcome with
    | refused refusal =>
      obtain rfl : errorOf "Failed to update resource" .writing refusal = cause :=
        Except.error.inj verdict
      exact .refused present outside changes
    | rows found =>
      cases changes
      cases verdict
    | affected count => cases changes
  | further _ goes =>
    cases goes with
    | @stopped _ _ outcome _ verdict =>
      have entry : ReflectsChange tables id new Mark.commit.statement outcome :=
        described _ (List.mem_cons_of_mem _ List.mem_cons_self)
      have reflects := entry.elsewhere fun same => nomatch congrArg Statement.parameters same
      have fine : Stage.commit.verdict outcome = .ok () :=
        (Stage.commit.verdict_iff outcome).mpr ⟨reflects.accepted, trivial⟩
      rw [fine] at verdict
      cases verdict
    | further _ goes => cases goes

/-- **A change ends like this in a database that describes some tables.** A guard that fails is the
end; behind the guards the schema decides. -/
theorem database_change (sent : (store.updateResource id new session).2.sent =
      session.sent ++ statements)
    (described : ∀ entry ∈ session.transcript statements,
      ReflectsChange tables id new entry.1 entry.2) :
    ChangeEnds tables id new (store.updateResource id new session).1 := by
  let operation := Transacted.updateResource id new
  have stages : operation.transaction.stages =
      (Stage.start :: operation.guards) ++ [operation.last, Stage.commit] := by
    simp [operation, Transaction.stages, Transaction.modifications, Transacted.transaction,
      Transacted.writes]
  obtain ⟨others, told, ends⟩ := operation.exchange_ends session
  obtain rfl : others = statements := List.append_cancel_left (told.symm.trans sent)
  show ChangeEnds tables id new (operation.exchange session).1
  generalize session.transcript others = said at ends described
  generalize (operation.exchange session).1 = ending at ends ⊢
  have behind {result : Checked Unit} (goes : Goes operation.transaction.stages said result) :=
    (stages ▸ goes).behind described (judged_guards tables id new)
  have halted {cause : Error}
      (failed : afterAll (guardChecks tables id new) (.ok ()) = .error cause) :
      ending = .error cause := by
    cases ends with
    | stopped goes =>
      have rest := behind goes
      rw [failed] at rest
      exact congrArg Ending.error (Except.error.inj rest)
    | committed _ _ goes =>
      have rest := behind goes
      rw [failed] at rest
      cases rest
  by_cases present : id ∈ tables.resources.map Resource.id
  · have there : (tables.resource? id).isSome = true := Tables.isSome_find?_id.mpr present
    obtain enclosed | outside := Classical.em (Enclosed tables id new.parent)
    · rw [halted (by rw [afterAll_guardChecks, if_pos there, if_pos (enclosed_iff.mpr enclosed)])]
      exact .enclosed present enclosed
    · have passed : afterAll (guardChecks tables id new) (.ok ()) = .ok () := by
        rw [afterAll_guardChecks, if_pos there, if_neg (mt enclosed_iff.mp outside)]
      cases ends with
      | stopped goes =>
        have rest := behind goes
        rw [passed] at rest
        obtain ⟨later, among, goes⟩ := rest
        have reflected : ∀ entry ∈ later, ReflectsChange tables id new entry.1 entry.2 :=
          fun _ member => described _ (among member)
        exact ChangeEnds.of_stopped present outside reflected goes
      | @committed before outcome reply written acknowledged goes =>
        have reflected : ReflectsChange tables id new operation.last.statement outcome :=
          described _ (List.mem_append_right _ List.mem_cons_self)
        have changes := reflected.change rfl
        cases changes with
        | held _ _ => exact absurd rfl (written.1 _)
        | dangling _ _ _ => exact absurd rfl (written.1 _)
        | done free standing =>
          show ChangeEnds tables id new (.ofExcept (Row.ofResource (changed id new)).resource)
          rw [Row.resource_ofResource]
          exact .changed present outside free standing
  · have missing : ¬ (tables.resource? id).isSome = true := mt Tables.isSome_find?_id.mp present
    rw [halted (by rw [afterAll_guardChecks, if_neg missing])]
    exact .absent present

/-! ### The same change in memory -/

/-- What stands in the way of a change in memory, in the order in which it is tested. -/
def memoryChecks (tables : Tables) (id : Id) (new : NewResource) : List (Checked Unit) :=
  [demand (tables.resource? id).isSome (.noId .resource id),
    demand (!tables.resourceNameTaken new.name (some id)) (.nameTaken .resource new.name)] ++
    new.parent.toList.flatMap fun parent =>
      [demand (tables.resource? parent).isSome (.noId .parentResource parent),
        demand (!tables.isWithin id parent) (.nestedInItself id)]

/-- A change in memory comes to its checks. -/
theorem memory_change (tables : Tables) (id : Id) (new : NewResource) :
    (Tables.store.updateResource id new tables).1 =
      .ofExcept (afterAll (memoryChecks tables id new) (.ok (changed id new))) := by
  show (Tables.updateResource id new tables).1 = _
  unfold Tables.updateResource memoryChecks changed
  cases new.parent with
  | none => exact ensure_bind_ending _ _ _ _ <| ensure_bind_ending _ _ _ _ rfl
  | some parent =>
    exact ensure_bind_ending _ _ _ _ <| ensure_bind_ending _ _ _ _ <|
      ensure_bind_ending _ _ _ _ <| ensure_bind_ending _ _ _ _ rfl

theorem memory_absent (absent : id ∉ tables.resources.map Resource.id) :
    (Tables.store.updateResource id new tables).1 = .error (.noId .resource id) := by
  have missing : (tables.resource? id).isSome = false :=
    Bool.eq_false_iff.mpr (mt Tables.isSome_find?_id.mp absent)
  rw [memory_change, memoryChecks, missing]
  rfl

section Present

variable (present : id ∈ tables.resources.map Resource.id)

include present

theorem memory_held (held : Held tables id new.name) :
    (Tables.store.updateResource id new tables).1 = .error (.nameTaken .resource new.name) := by
  have there : (tables.resource? id).isSome = true := Tables.isSome_find?_id.mpr present
  rw [memory_change, memoryChecks, there, held_iff.mpr held]
  rfl

variable (free : ¬ Held tables id new.name)

include free

theorem memory_dangling (dangling : ¬ Standing tables new.parent) :
    ∃ parent, (Tables.store.updateResource id new tables).1 =
      .error (.noId .parentResource parent) := by
  have there : (tables.resource? id).isSome = true := Tables.isSome_find?_id.mpr present
  have untaken : tables.resourceNameTaken new.name (some id) = false :=
    Bool.eq_false_iff.mpr (mt held_iff.mp free)
  simp only [Standing, not_forall] at dangling
  obtain ⟨parent, within, unknown⟩ := dangling
  have missing : (tables.resource? parent).isSome = false :=
    Bool.eq_false_iff.mpr (mt Tables.isSome_find?_id.mp unknown)
  refine ⟨parent, ?_⟩
  rw [memory_change, memoryChecks, there, untaken, within]
  show Ending.ofExcept (demand (tables.resource? parent).isSome _ >>= _) = _
  rw [missing]
  rfl

theorem memory_standing (standing : Standing tables new.parent) :
    (Tables.store.updateResource id new tables).1 =
      if new.parent.any (tables.isWithin id) then .error (.nestedInItself id)
      else .value (changed id new) := by
  have there : (tables.resource? id).isSome = true := Tables.isSome_find?_id.mpr present
  have untaken : tables.resourceNameTaken new.name (some id) = false :=
    Bool.eq_false_iff.mpr (mt held_iff.mp free)
  rw [memory_change, memoryChecks, there, untaken]
  cases within : new.parent with
  | none => rfl
  | some parent =>
    have known : (tables.resource? parent).isSome = true :=
      Tables.isSome_find?_id.mpr (standing parent within)
    show Ending.ofExcept (demand (tables.resource? parent).isSome _ >>= fun _ =>
      demand (!tables.isWithin id parent) _ >>= _) = if tables.isWithin id parent then _ else _
    rw [known]
    cases tables.isWithin id parent <;> rfl

end Present

/-! ### Both compared -/

theorem errorOf_unique (context : String) {refusal : Refusal}
    (code : refusal.code = uniqueViolation) :
    (errorOf context .writing refusal).kind = .conflict := by
  unfold errorOf
  rw [if_pos ⟨nofun, code⟩]
  rfl

/-- What is referred to and is not there was not found. -/
theorem errorOf_reference (context : String) {refusal : Refusal}
    (code : refusal.code = referenceViolation) :
    (errorOf context .writing refusal).kind = .notFound := by
  have other : refusal.code ≠ uniqueViolation := by
    rw [code]
    decide
  unfold errorOf
  rw [if_neg fun unique => other unique.2, if_pos code]
  rfl

/-- The name is another resource's, and the new parent is the resource itself or inside it. -/
structure Crossed (tables : Tables) (id : Id) (new : NewResource) : Prop where
  present : id ∈ tables.resources.map Resource.id
  held : Held tables id new.name
  enclosed : Enclosed tables id new.parent

/-- **A change comes to the same in memory and in a database that describes the tables**: to the
same resource, or to errors of one kind. There is one exception, where two things stand in the way
at once: a name that is another resource's is a conflict in memory, where it is tested first, and
not found out in the database, where the lineage of the new parent is tested before the schema sees
the change. For any tables there is a server that describes them. -/
theorem changes_alike (tables : Tables) (id : Id) (new : NewResource) :
    (∀ (session : Session) (statements : List Statement),
      (store.updateResource id new session).2.sent = session.sent ++ statements →
      (∀ entry ∈ session.transcript statements, ReflectsChange tables id new entry.1 entry.2) →
        let database := (store.updateResource id new session).1
        let memory := (Tables.store.updateResource id new tables).1
        (¬ Crossed tables id new → database.SameKind memory) ∧
        (Crossed tables id new → database = .error (.nestedInItself id) ∧
          memory = .error (.nameTaken .resource new.name))) ∧
      ∃ (session : Session) (statements : List Statement),
        (store.updateResource id new session).2.sent = session.sent ++ statements ∧
        ∀ entry ∈ session.transcript statements, ReflectsChange tables id new entry.1 entry.2 := by
  constructor
  · intro session statements sent described database memory
    have ends : ChangeEnds tables id new database := database_change sent described
    clear_value database
    constructor
    · intro straight
      cases ends with
      | absent absent =>
        rw [show memory = _ from memory_absent absent]
        exact .error rfl
      | enclosed present enclosed =>
        have free : ¬ Held tables id new.name := fun held => straight ⟨present, held, enclosed⟩
        rw [show memory = _ from memory_standing present free (enclosed.standing present),
          if_pos (enclosed_iff.mpr enclosed)]
        exact .error rfl
      | refused present outside changes =>
        cases changes with
        | held held code =>
          rw [show memory = _ from memory_held present held]
          exact .error (errorOf_unique _ code)
        | dangling free dangling code =>
          obtain ⟨parent, same⟩ := memory_dangling present free dangling
          rw [show memory = _ from same]
          exact .error (errorOf_reference _ code)
      | changed present outside free standing =>
        rw [show memory = _ from memory_standing present free standing,
          if_neg (mt enclosed_iff.mp outside)]
        exact .value
    · intro crossed
      refine ⟨?_, memory_held crossed.present crossed.held⟩
      cases ends with
      | absent absent => exact absurd crossed.present absent
      | enclosed _ _ => rfl
      | refused _ outside _ => exact absurd crossed.enclosed outside
      | changed _ outside _ _ => exact absurd crossed.enclosed outside
  · obtain ⟨script, begins⟩ := (Transacted.updateResource id new).sends_script
    obtain ⟨session, describes⟩ := exists_replying (exists_reflectingChange tables id new)
      (fun _ _ marked => reflectsChange_mark marked) script
    obtain ⟨statements, sent, begun⟩ := begins session
    exact ⟨session, statements, sent, describes statements begun⟩

def cupboard : List Store.Call :=
  [.insertResource { name := "cupboard" }, .insertResource { name := "box", parent := some 1 }]

/-- The cupboard is to take the name of the box and to go into it: a conflict in memory, and invalid
in the database. -/
theorem changes_crossed :
    let tables := Tables.store.after cupboard Tables.empty
    let new : NewResource := { name := "box", parent := some 2 }
    let session : Session :=
      { replies := [⟨none, .affected 0⟩, ⟨none, .rows [[("id", .bigint 1)]]⟩,
          ⟨none, .rows [[("nested", .boolean true)]]⟩,
          ⟨none, .refused ⟨uniqueViolation, "duplicate key value violates unique constraint",
            some "authz_resources_name_key"⟩⟩]
        otherwise := .affected 0
        sent := [] }
    Tables.Reachable tables ∧
      (∃ statements, (store.updateResource 1 new session).2.sent = session.sent ++ statements ∧
        ∀ entry ∈ session.transcript statements, ReflectsChange tables 1 new entry.1 entry.2) ∧
      (store.updateResource 1 new session).1 = .error (.nestedInItself 1) ∧
      (Tables.store.updateResource 1 new tables).1 = .error (.nameTaken .resource "box") ∧
      ¬ (store.updateResource 1 new session).1.SameKind
        (Tables.store.updateResource 1 new tables).1 := by
  intro tables new session
  let advisory : Statement := ⟨"SELECT pg_advisory_xact_lock($1)", [.integer parentLock]⟩
  let statements : List Statement :=
    [Mark.start.statement, advisory, (Inquiry.lock .resources false 1).statement,
      (Stage.lineage 1 2).statement]
  have sent : (store.updateResource 1 new session).2.sent = session.sent ++ statements := rfl
  have database : (store.updateResource 1 new session).1 = .error (.nestedInItself 1) := rfl
  have memory : (Tables.store.updateResource 1 new tables).1 =
      .error (.nameTaken .resource "box") := rfl
  have alone : Reflects tables advisory (.affected 0) := by
    refine ⟨nofun, fun inquiry same => ?_⟩
    have values : [Parameter.integer parentLock] = inquiry.statement.parameters :=
      congrArg Statement.parameters same
    cases inquiry with
    | lock registry shared id =>
      have texts : "SELECT pg_advisory_xact_lock($1)" = "SELECT id FROM " ++ registry.table ++
          " WHERE id = $1 FOR " ++ (if shared then "SHARE" else "UPDATE") :=
        congrArg Statement.text same
      cases registry <;> cases shared <;> exact absurd texts (by decide)
    | count reference id =>
      have texts : "SELECT pg_advisory_xact_lock($1)" = reference.query :=
        congrArg Statement.text same
      cases reference <;> exact absurd texts (by decide)
    | removeLink _ | removeEdge _ => cases (List.cons.inj values).2
    | _ => cases values
  have locked : Reflects tables (Inquiry.lock .resources false 1).statement
      (.rows [[("id", .bigint 1)]]) := reflects_inquiry nofun (iff_of_true nofun rfl)
  have nested : ReflectsChange tables 1 new (Stage.lineage 1 2).statement
      (.rows [[("nested", .boolean true)]]) := by
    refine ⟨fun _ => reflects_lineage nofun, fun parent within _ => ?_,
      fun same => absurd same lineage_ne_changing⟩
    obtain rfl := Option.some.inj within
    exact ⟨_, _, true, rfl, rfl, iff_of_true rfl (Tables.isWithin_iff.mp rfl)⟩
  have described : ∀ entry ∈ session.transcript statements,
      ReflectsChange tables 1 new entry.1 entry.2 := by
    refine List.forall_mem_cons.mpr ⟨reflectsChange_mark (Mark.ofStatement?_statement .start), ?_⟩
    refine List.forall_mem_cons.mpr ⟨reflectsChange_of_few Nat.one_lt_two alone, ?_⟩
    refine List.forall_mem_cons.mpr ⟨reflectsChange_of_few Nat.one_lt_two locked, ?_⟩
    exact List.forall_mem_singleton.mpr nested
  have reachable : Tables.Reachable tables := Tables.Reachable.start.after cupboard
  refine ⟨reachable, ⟨statements, sent, described⟩, database, memory, ?_⟩
  rw [database, memory]
  intro same
  cases same with
  | error kinds => exact absurd kinds (by decide)

end Sql

end AccessControl

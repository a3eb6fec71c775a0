/-
**The operations on a database that take more than one statement.**

* `Transacted` — these operations; `Transacted.guards`, `Transacted.writes`, `Transacted.last` —
  what each of them looks at and what it writes, and `Transacted.handed` — what it hands back.
* `Transacted.exchange_eq_run` — **each of them is a transaction.**
* `writes_are_guarded` — **each of them keeps the rules of its transaction, whatever the server
  replies**, and is done only when its commit was acknowledged.
-/

import AccessControl.Proofs.Sql.Transaction

namespace AccessControl.Sql

open Effect
open Session (Exchange checked)

/-! ### The operations that are transactions -/

def handing {α : Type} (read : Row → Checked α) (context : String) (outcome : Outcome) :
    Checked α :=
  match outcome.found with
  | row :: _ => read row
  | [] => .error (.statement context none)

/-- The operations on a database that take more than one statement. -/
inductive Transacted : Type → Type where
  | updateResource (id : Id) (new : NewResource) : Transacted Resource
  | deleteResource (id : Id) : Transacted Unit
  | deleteAction (id : Id) : Transacted Unit
  | deleteRole (id : Id) : Transacted Unit
  | insertEdge (edge : Edge) : Transacted Unit
  | setAttribute (owner : Owner) (id : Id) (key : String) (value : AttributeValue) :
      Transacted Attribute

namespace Transacted

/-- What an operation does on a session. -/
def exchange {α : Type} : Transacted α → Exchange α
  | .updateResource id new => store.updateResource id new
  | .deleteResource id => store.deleteResource id
  | .deleteAction id => store.deleteAction id
  | .deleteRole id => store.deleteRole id
  | .insertEdge edge => store.insertEdge edge
  | .setAttribute owner id key value => store.setAttribute owner id key value

/-- What is looked at first: the rows that an operation is about are there, and locked, and what it
would break is not there. -/
def guards {α : Type} : Transacted α → List Stage
  | .updateResource id new =>
    new.parent.toList.map (fun _ =>
      .accepting ⟨"SELECT pg_advisory_xact_lock($1)", [.integer parentLock]⟩
        "Failed to lock resource lineage" .plain) ++
      .locking "authz_resources" "UPDATE" id (.noId .resource id) ::
        new.parent.toList.map (.lineage id)
  | .deleteResource id =>
    [.locking "authz_resources" "UPDATE" id (.noId .resource id),
      .counting "SELECT COUNT(*) AS n FROM authz_resources WHERE parent_id = $1" id
        (.hasChildren id),
      .counting "SELECT COUNT(*) AS n FROM authz_permissions WHERE resource_id = $1" id
        (.referenced .resource id)]
  | .deleteAction id =>
    [.locking "authz_actions" "UPDATE" id (.noId .action id),
      .counting "SELECT COUNT(*) AS n FROM authz_permissions WHERE action_id = $1" id
        (.referenced .action id)]
  | .deleteRole id =>
    [.locking "authz_roles" "UPDATE" id (.noId .role id),
      .counting "SELECT COUNT(*) AS n FROM authz_permissions WHERE role_id = $1" id
        (.referenced .role id)]
  | .insertEdge edge =>
    [.accepting ⟨"LOCK TABLE authz_role_hierarchy IN SHARE ROW EXCLUSIVE MODE", []⟩
        "Failed to lock role hierarchy" .plain,
      .locking "authz_roles" "SHARE" edge.parent (.noId .role edge.parent),
      (Stage.locking "authz_roles" "SHARE" edge.child (.noId .role edge.child)).provided
        (edge.parent ≠ edge.child) (.inheritsFromItself edge.parent),
      .unlooped edge]
  | .setAttribute owner id _ _ =>
    [.locking (ownerTable owner).1 "SHARE" id (.noId (ownerTable owner).2 id)]

/-- What is written before the last thing. -/
def writes {α : Type} : Transacted α → List Stage
  | .deleteResource id =>
    [.accepting ⟨"DELETE FROM authz_attributes WHERE owner_type = 'resource' AND owner_id = $1",
      [.integer id]⟩ "Failed to delete resource attributes" .plain]
  | _ => []

def last {α : Type} : Transacted α → Stage
  | .updateResource id new =>
    .needing
      ⟨"UPDATE authz_resources SET name = $2, description = $3, parent_id = $4, " ++
          "updated_at = NOW() WHERE id = $1 RETURNING *",
        [.integer id, .text new.name, .optionalText new.description, .optionalId new.parent]⟩
      "Failed to update resource" .writing (.statement "Failed to update resource" none)
  | .deleteResource id =>
    .accepting ⟨"DELETE FROM authz_resources WHERE id = $1", [.integer id]⟩
      "Failed to delete resource" .removing
  | .deleteAction id =>
    .accepting ⟨"DELETE FROM authz_actions WHERE id = $1", [.integer id]⟩
      "Failed to delete action" .removing
  | .deleteRole id =>
    .accepting ⟨"DELETE FROM authz_roles WHERE id = $1", [.integer id]⟩
      "Failed to delete role" .removing
  | .insertEdge edge =>
    .accepting ⟨"INSERT INTO authz_role_hierarchy (parent_id, child_id) VALUES ($1, $2)",
      [.integer edge.parent, .integer edge.child]⟩ "Failed to add role inheritance" .writing
  | .setAttribute owner id key value =>
    .needing
      ⟨"INSERT INTO authz_attributes (owner_type, owner_id, key, value, value_type, updated_at) " ++
          "VALUES ($1, $2, $3, $4, $5, NOW()) ON CONFLICT (owner_type, owner_id, key) " ++
          "DO UPDATE SET value = EXCLUDED.value, value_type = EXCLUDED.value_type, " ++
          "updated_at = NOW() RETURNING *",
        [.text owner.name, .integer id, .text key, .text value.encode, .text value.type.name]⟩
      "Failed to set attribute" .plain (.statement "Failed to set attribute" none)

/-- What is handed back of the outcome of the last write: the entity in its row, or nothing. -/
def handed {α : Type} : Transacted α → Outcome → Checked α
  | .updateResource _ _ => handing Row.resource "Failed to update resource"
  | .deleteResource _ | .deleteAction _ | .deleteRole _ | .insertEdge _ => fun _ => .ok ()
  | .setAttribute _ _ _ _ => handing Row.fact "Failed to set attribute"

theorem guards_look {α : Type} (operation : Transacted α) :
    ∀ guard ∈ operation.guards, guard.statement.looks = true := by
  cases operation with
  | updateResource id new =>
    have parents : Statement.looks ⟨"SELECT pg_advisory_xact_lock($1)", [.integer parentLock]⟩ =
        true := Statement.looks_of_head 'S' rfl (by decide)
    cases given : new.parent with
    | none => simp [guards, given, Stage.looks_locking]
    | some parent =>
      simp [guards, given, Stage.looks_locking, Stage.looks_lineage, Stage.accepting,
        Stage.judging, parents]
  | deleteResource id =>
    simp only [guards, List.forall_mem_cons, Stage.looks_locking, true_and]
    exact ⟨Stage.looks_judging 'S' (by decide +kernel) (by decide),
      Stage.looks_judging 'S' (by decide +kernel) (by decide), nofun⟩
  | deleteAction id =>
    simp only [guards, List.forall_mem_cons, Stage.looks_locking, true_and]
    exact ⟨Stage.looks_judging 'S' (by decide +kernel) (by decide), nofun⟩
  | deleteRole id =>
    simp only [guards, List.forall_mem_cons, Stage.looks_locking, true_and]
    exact ⟨Stage.looks_judging 'S' (by decide +kernel) (by decide), nofun⟩
  | insertEdge edge =>
    simp only [guards, List.forall_mem_cons, Stage.provided, Stage.looks_locking, true_and]
    exact ⟨Stage.looks_judging 'L' (by decide +kernel) (by decide),
      Stage.looks_judging 'S' (by decide +kernel) (by decide), nofun⟩
  | setAttribute owner id key value => simp [guards, Stage.looks_locking]

theorem writes_modify {α : Type} (operation : Transacted α) :
    ∀ write ∈ operation.writes ++ [operation.last], write.statement.modifies = true := by
  cases operation <;>
    simp only [writes, last, Stage.accepting, Stage.needing, List.nil_append, List.cons_append,
      List.forall_mem_cons]
  case updateResource =>
    exact ⟨Stage.modifies_judging (Statement.modifies_append _ (by decide +kernel)), nofun⟩
  case deleteResource =>
    exact ⟨Stage.modifies_judging (by decide +kernel), Stage.modifies_judging (by decide +kernel),
      nofun⟩
  case setAttribute =>
    refine ⟨Stage.modifies_judging ?_, nofun⟩
    iterate 3 refine Statement.modifies_append _ ?_
    decide +kernel
  all_goals exact ⟨Stage.modifies_judging (by decide +kernel), nofun⟩

def transaction {α : Type} (operation : Transacted α) : Transaction α where
  guards := operation.guards
  writes := operation.writes
  last := operation.last
  handed := operation.handed
  looking := operation.guards_look
  modifying := operation.writes_modify

/-- What is sent for what it does is made last by the commit. -/
theorem execute_commit {statement : Statement} (context : String) (reading : Reading)
    (unmarked : Mark.ofStatement? statement = none) :
    (do
      Session.execute context reading statement
      Session.commit : Exchange Unit) =
      (do
        let _ ← (Stage.accepting statement context reading).run
        Stage.commit.pass
        checked (.ok ())) := by
  funext session
  rw [execute_eq context reading unmarked, commit_eq, Stage.pass_bind, Stage.run_bind]
  cases (Stage.accepting statement context reading).verdict
    (session.answer (Stage.accepting statement context reading).statement) with
  | error cause => rfl
  | ok _ =>
    show Stage.commit.pass _ = (Stage.commit.pass >>= pure) _
    rw [bind_pure]

/-- The row of a statement is read after the commit. -/
theorem one_commit {α : Type} (read : Row → Checked α) {statement : Statement} (context : String)
    (reading : Reading) (unmarked : Mark.ofStatement? statement = none) :
    (do
      let row ← Session.one context reading statement
      Session.commit
      checked (read row) : Exchange α) =
      (do
        let outcome ← (Stage.needing statement context reading (.statement context none)).run
        Stage.commit.pass
        checked (handing read context outcome)) := by
  funext session
  let stage := Stage.needing statement context reading (.statement context none)
  have answered : session.answer stage.statement = session.next :=
    Session.answer_unmarked unmarked
  have told : session.told stage.statement = session.sending statement :=
    Session.told_unmarked unmarked
  rw [commit_eq, Stage.run_bind, answered, told, bind_apply,
    sends_one context reading statement session]
  generalize session.next = outcome
  cases outcome with
  | rows found => cases found <;> rfl
  | affected count => rfl
  | refused refusal => rfl

theorem run_eq {α : Type} (operation : Transacted α) :
    operation.transaction.run = (do
      conduct (Stage.start :: (operation.guards ++ operation.writes))
      let outcome ← operation.last.run
      Stage.commit.pass
      checked (operation.handed outcome)) := rfl

/-- **Each of these operations is a transaction.** What is tested behind a stage stands between two
statements. -/
theorem exchange_eq_run {α : Type} (operation : Transacted α) :
    operation.exchange = operation.transaction.run := by
  have bound := Mark.ofStatement?_cons
  rw [run_eq]
  cases operation with
  | updateResource id new =>
    show Sql.updateResource id new = _
    unfold Sql.updateResource
    rw [one_commit Row.resource _ _ (bound ..)]
    cases given : new.parent with
    | none =>
      simp [guards, writes, last, handed, conduct, given, start_eq, lockParents, lockRow_eq,
        ensureNotNested]
    | some parent =>
      simp [guards, writes, last, handed, conduct, given, start_eq, lockParents,
        execute_eq _ _ (bound ..), lockRow_eq, ensureNotNested_eq]
  | deleteResource id =>
    show Sql.deleteResource id = _
    unfold Sql.deleteResource
    rw [execute_commit _ _ (bound ..), execute_eq _ _ (bound ..)]
    simp [guards, writes, last, handed, conduct, start_eq, lockRow_eq, ensureNone_eq]
  | deleteAction id =>
    show Sql.deleteAction id = _
    unfold Sql.deleteAction
    rw [execute_commit _ _ (bound ..)]
    simp [guards, writes, last, handed, conduct, start_eq, lockRow_eq, ensureNone_eq]
  | deleteRole id =>
    show Sql.deleteRole id = _
    unfold Sql.deleteRole
    rw [execute_commit _ _ (bound ..)]
    simp [guards, writes, last, handed, conduct, start_eq, lockRow_eq, ensureNone_eq]
  | insertEdge edge =>
    show Sql.insertEdge edge = _
    unfold Sql.insertEdge
    rw [execute_commit _ _ (bound ..), execute_eq _ _ (by decide)]
    simp [guards, writes, last, handed, conduct, start_eq, lockRow_eq, ← provided_eq,
      ← ensureUnlooped_eq]
  | setAttribute owner id key value =>
    show Sql.setAttribute owner id key value = _
    unfold Sql.setAttribute
    rw [one_commit Row.fact _ _ (bound ..)]
    simp [guards, writes, last, handed, conduct, start_eq, lockRow_eq, -String.reduceAppend]

/-- Whatever is replied, an operation goes like its transaction. -/
theorem exchange_ends {α : Type} (operation : Transacted α) (session : Session) :
    ∃ statements, (operation.exchange session).2.sent = session.sent ++ statements ∧
      operation.transaction.Ends (session.transcript statements)
        (operation.exchange session).1 := by
  obtain ⟨statements, told, ends⟩ := operation.transaction.run_ends session
  rw [exchange_eq_run]
  exact ⟨statements, told ▸ session.sent_tell statements, ends⟩

end Transacted

/-- **Writes are guarded, whatever the server replies.** The statements of an operation, with what
is replied to them, keep the rules of its transaction: nothing is modified unless the transaction
has begun and every guard was answered favourably in it, nothing follows an answer that is not
favourable, and the commit comes behind all modifications. The operation is done only when its
commit was acknowledged. -/
theorem writes_are_guarded {α : Type} (operation : Transacted α) (session : Session) :
    ∃ statements, (operation.exchange session).2.sent = session.sent ++ statements ∧
      operation.transaction.Observes (session.transcript statements) ∧
      ∀ result, (operation.exchange session).1 = .value result →
        ∃ reply, (session.transcript statements).getLast? = some (Mark.commit.statement, reply) ∧
          reply.Accepted := by
  obtain ⟨statements, sent, ends⟩ := operation.exchange_ends session
  refine ⟨statements, sent, ?_⟩
  generalize session.transcript statements = said at ends ⊢
  generalize (operation.exchange session).1 = ending at ends ⊢
  cases ends with
  | stopped goes => exact ⟨Transaction.observes goes, nofun⟩
  | @committed before outcome reply _ acknowledged goes =>
    exact ⟨Transaction.observes goes, fun _ _ => ⟨reply, by simp, acknowledged⟩⟩

end AccessControl.Sql

/-
**Guards: what must hold before something is written.**

* `Stage.locking`, `Stage.counting`, `Stage.lineage`, `Stage.unlooped` — a row is there, nothing
  refers to it, a resource would not come to lie inside itself, an edge is new and closes no circle.
* `Stage.start`, `Stage.commit` — the ends of a transaction.
* `lockRow_eq`, `ensureNone_eq` and their neighbours — the parts of the operations on a database are
  these stages.
-/

import AccessControl.Proofs.RoleGraph
import AccessControl.Proofs.Sql.Transcript

namespace AccessControl.Sql

open Effect
open Relation (ReflTransGen)
open Session (Exchange checked)

/-! ### Kinds of stages -/

namespace Stage

/-- A statement that the server must not refuse. -/
def accepting (statement : Statement) (context : String) (reading : Reading) : Stage :=
  judging statement context reading (fun _ => True) (fun _ => .ok ()) fun _ => by simp

/-- A statement that must have a row. -/
def needing (statement : Statement) (context : String) (reading : Reading) (otherwise : Error) :
    Stage :=
  judging statement context reading (· ≠ [])
    (fun rows => if rows.isEmpty then .error otherwise else .ok ()) fun rows => by
      cases rows <;> simp

def locking (table mode : String) (id : Id) (otherwise : Error) : Stage :=
  needing ⟨"SELECT id FROM " ++ table ++ " WHERE id = $1 FOR " ++ mode, [.integer id]⟩
    "Failed to lock row" .plain otherwise

def counting (query : String) (id : Id) (otherwise : Error) : Stage :=
  judging ⟨query, [.integer id]⟩ "Failed to count references" .plain
    (fun rows => ∃ row rest count, rows = row :: rest ∧
      row.lookup "n" = some (.bigint count) ∧ count ≤ 0)
    (fun
      | [] => .error (.statement "Failed to count references" none)
      | row :: _ => do
        let count ← row.bigint "n"
        if count ≤ 0 then .ok () else .error otherwise)
    fun rows => by
      cases rows with
      | nil => simp
      | cons row rest =>
        simp only [List.cons.injEq, ← Row.bigint_iff]
        cases read : row.bigint "n" with
        | error _ => simp [bind, Except.bind, read]
        | ok count => by_cases few : count ≤ 0 <;> simp [bind, Except.bind, read, few]

/-- A resource would not come to lie inside itself under a parent. -/
def lineage (id parent : Id) : Stage :=
  judging ⟨lineageQuery, [.integer parent, .integer id]⟩ "Failed to inspect resource lineage" .plain
    (fun rows => ∃ row rest, rows = row :: rest ∧ row.lookup "nested" = some (.boolean false))
    (fun
      | [] => .error (.statement "Failed to inspect resource lineage" none)
      | row :: _ => do
        let nested ← row.boolean "nested"
        if nested then .error (.nestedInItself id) else .ok ())
    fun rows => by
      cases rows with
      | nil => simp
      | cons row rest =>
        simp only [List.cons.injEq, ← Row.boolean_iff]
        cases read : row.boolean "nested" with
        | error _ => simp [bind, Except.bind, read]
        | ok nested => cases nested <;> simp [bind, Except.bind, read]

/-- An edge is not among the fetched ones, and no path of these leads from its child to its
parent. -/
def unlooped (edge : Edge) : Stage :=
  judging ⟨"SELECT parent_id, child_id FROM authz_role_hierarchy", []⟩
    "Failed to load role hierarchy" .plain
    (fun rows => ∃ edges, rows.mapM Row.edge = .ok edges ∧ edge ∉ edges ∧
      ¬ ReflTransGen (RoleGraph.Above edges) edge.child edge.parent)
    (fun rows => do
      let edges ← rows.mapM Row.edge
      if edges.contains edge then .error (.edgeExists edge.parent edge.child)
      else if RoleGraph.wouldCreateCycle edges edge.parent edge.child then
        .error (.cycle edge.parent edge.child)
      else .ok ())
    fun rows => by
      cases rows.mapM Row.edge with
      | error _ => simp [bind, Except.bind]
      | ok edges =>
        have cyclic : RoleGraph.wouldCreateCycle edges edge.parent edge.child = true ↔
            ReflTransGen (RoleGraph.Above edges) edge.child edge.parent := by
          rw [RoleGraph.wouldCreateCycle_iff, Relation.reflTransGen_iff_eq_or_transGen]
        by_cases stored : edge ∈ edges <;>
          by_cases path : ReflTransGen (RoleGraph.Above edges) edge.child edge.parent <;>
          simp [bind, Except.bind, stored, path, cyclic]

def start : Stage := accepting Mark.start.statement "Failed to begin transaction" .plain

def commit : Stage := accepting Mark.commit.statement "Failed to commit" .plain

end Stage

/-! ### Exchanges as stages -/

section Exchanges

/-- Rows that are asked for and looked at are a stage. -/
theorem rows_eq {statement : Statement} {context : String} {reading : Reading}
    {next : List Row → Exchange Unit} {Fine : List Row → Prop} {check : List Row → Checked Unit}
    {check_iff : ∀ rows, check rows = .ok () ↔ Fine rows}
    (unmarked : Mark.ofStatement? statement = none)
    (looks : ∀ rows session, next rows session = (.ofExcept (check rows), session)) :
    (Session.rows context reading statement >>= next) =
      (Stage.judging statement context reading Fine check check_iff).pass := by
  funext session
  rw [(sends_rows context reading statement).checking looks session]
  unfold Stage.pass
  rw [show (Stage.judging statement context reading Fine check check_iff).statement = statement
    from rfl, Session.answer_unmarked unmarked, Session.told_unmarked unmarked]
  rfl

/-- A mark is a stage. -/
theorem mark_eq (mark : Mark) (context : String) :
    (do
      let outcome ← Session.sendMark mark mark.statement
      let _ ← Session.accepted context .plain outcome : Exchange Unit) =
      (Stage.accepting mark.statement context .plain).pass := by
  funext session
  rw [bind_apply, Session.sendMark_apply]
  show _ = (Ending.ofExcept
    ((session.answer mark.statement).checkedRows context .plain >>= fun _ => .ok ()), _)
  cases session.answer mark.statement <;> rfl

theorem start_eq : Session.start = Stage.start.pass := mark_eq .start _

theorem commit_eq : Session.commit = Stage.commit.pass := mark_eq .commit _

/-- A statement that is sent for what it does is a stage. -/
theorem execute_eq {statement : Statement} (context : String) (reading : Reading)
    (unmarked : Mark.ofStatement? statement = none) :
    Session.execute context reading statement =
      (Stage.accepting statement context reading).pass := by
  have counted : Session.execute context reading statement =
      (Session.rows context reading statement >>= fun _ => pure ()) := by
    funext session
    unfold Session.execute Session.affected Session.rows
    rw [bind_apply, bind_apply, bind_apply, bind_apply, Session.send_apply]
    cases session.next <;> rfl
  rw [counted]
  exact rows_eq unmarked fun _ _ => rfl

theorem lockRow_eq (table mode : String) (id : Id) (otherwise : Error) :
    lockRow table mode id otherwise = (Stage.locking table mode id otherwise).pass := by
  unfold lockRow Session.first
  rw [bind_assoc]
  refine rows_eq (by simp [Mark.ofStatement?, Mark.statement]) fun rows _ => ?_
  cases rows <;> rfl

/-- Going on only if nothing is counted is a stage. -/
theorem ensureNone_eq (query : String) (id : Id) (otherwise : Error) :
    ensureNone query id otherwise = (Stage.counting query id otherwise).pass := by
  unfold ensureNone Session.one Session.first
  simp only [bind_assoc]
  refine rows_eq (by simp [Mark.ofStatement?, Mark.statement]) fun rows session => ?_
  cases rows with
  | nil => rfl
  | cons row rest =>
    show (checked (row.bigint "n") >>= fun count => ensure (count ≤ 0) otherwise) session =
      (Ending.ofExcept (row.bigint "n" >>= _), session)
    cases row.bigint "n" with
    | error _ => rfl
    | ok count =>
      show ensure (count ≤ 0) otherwise session =
        (Ending.ofExcept (if count ≤ 0 then .ok () else .error otherwise), session)
      by_cases few : count ≤ 0
      · rw [if_pos few, decide_eq_true few]
        rfl
      · rw [if_neg few, decide_eq_false few]
        rfl

/-- Going on only if a resource would not come to lie inside itself is a stage. -/
theorem ensureNotNested_eq (id parent : Id) :
    ensureNotNested id (some parent) = (Stage.lineage id parent).pass := by
  unfold ensureNotNested Session.one Session.first
  simp only [bind_assoc]
  refine rows_eq (by simp [Mark.ofStatement?, Mark.statement]) fun rows session => ?_
  cases rows with
  | nil => rfl
  | cons row rest =>
    show (checked (row.boolean "nested") >>= fun nested => ensure (!nested) (.nestedInItself id))
      session = (Ending.ofExcept (row.boolean "nested" >>= _), session)
    cases row.boolean "nested" with
    | error _ => rfl
    | ok nested => cases nested <;> rfl

/-- A condition that is tested behind a stage belongs to it. -/
theorem provided_eq (stage : Stage) (condition : Bool) (otherwise : Error) :
    (do
      stage.pass
      ensure condition otherwise) = (stage.provided condition otherwise).pass := by
  funext session
  rw [Stage.pass_bind]
  show _ = (Ending.ofExcept (stage.verdict (session.answer stage.statement) >>= _), _)
  cases stage.verdict (session.answer stage.statement) with
  | error cause => rfl
  | ok _ => cases condition <;> rfl

/-- Going on only if an edge is new and closes no circle is a stage. -/
theorem ensureUnlooped_eq (edge : Edge) :
    (do
      let edges ← allAs Row.edge "Failed to load role hierarchy"
        ⟨"SELECT parent_id, child_id FROM authz_role_hierarchy", []⟩
      ensure (!edges.contains edge) (.edgeExists edge.parent edge.child)
      ensure (!RoleGraph.wouldCreateCycle edges edge.parent edge.child)
        (.cycle edge.parent edge.child)) = (Stage.unlooped edge).pass := by
  unfold allAs
  rw [bind_assoc]
  refine rows_eq (by decide) fun rows session => ?_
  show (checked (rows.mapM Row.edge) >>= fun edges => _) session =
    (Ending.ofExcept (rows.mapM Row.edge >>= _), session)
  cases rows.mapM Row.edge with
  | error cause => rfl
  | ok edges =>
    show (ensure (!edges.contains edge) _ >>= fun _ => ensure _ _) session =
      (Ending.ofExcept (if edges.contains edge then _ else if _ then _ else _), session)
    rw [ensure_bind]
    cases edges.contains edge with
    | true => rfl
    | false => cases RoleGraph.wouldCreateCycle edges edge.parent edge.child <;> rfl

end Exchanges

end AccessControl.Sql

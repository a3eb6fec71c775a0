/-
**What a server is asked about the tables, and what it answers.**

* `Inquiry` — the statements whose outcome says something about the tables: a row is locked, rows
  are counted, edges are fetched, rows are changed or removed.
* `Inquiry.AnsweredBy` — what is answered if the rows are those of some tables;
  `Inquiry.answeredBy_congr` — this is settled by the statement.
* `Describes` — nothing in a transcript is refused, and every inquiry in it is answered like this.
* `exists_replying` — replies can be such that a transcript is as wanted, whichever of some
  statements are sent; `exists_describing` — **so there are replies that describe any tables**.
-/

import AccessControl.Proofs.Sql.Transacted

namespace AccessControl.Sql

/-! ### What the server is asked about the tables -/

/-- The tables of which a row can be locked. -/
inductive Registry where
  | users
  | resources
  | actions
  | roles
  deriving Repr, DecidableEq

namespace Registry

/-- The name of a table in the database. -/
def table : Registry → String
  | .users => "authz_users"
  | .resources => "authz_resources"
  | .actions => "authz_actions"
  | .roles => "authz_roles"

def holds (tables : Tables) (id : Id) : Registry → Bool
  | .users => (tables.user? id).isSome
  | .resources => (tables.resource? id).isSome
  | .actions => (tables.action? id).isSome
  | .roles => (tables.role? id).isSome

end Registry

/-- What refers to a row: the resources inside a resource, and the grants about a resource or an
action or for a role. -/
inductive Reference where
  | children
  | ofResource
  | ofAction
  | ofRole
  deriving Repr, DecidableEq

namespace Reference

/-- The question how many rows refer to one. -/
def query : Reference → String
  | .children => "SELECT COUNT(*) AS n FROM authz_resources WHERE parent_id = $1"
  | .ofResource => "SELECT COUNT(*) AS n FROM authz_permissions WHERE resource_id = $1"
  | .ofAction => "SELECT COUNT(*) AS n FROM authz_permissions WHERE action_id = $1"
  | .ofRole => "SELECT COUNT(*) AS n FROM authz_permissions WHERE role_id = $1"

/-- How many rows refer to the one with an id. -/
def count (tables : Tables) (id : Id) : Reference → Nat
  | .children => tables.resources.countP (·.parent = some id)
  | .ofResource => tables.permissions.countP (·.resource = id)
  | .ofAction => tables.permissions.countP (·.action = id)
  | .ofRole => tables.permissions.countP (·.role = id)

end Reference

/-- How many rows an outcome is about. -/
def Outcome.touched : Outcome → Nat
  | .rows found => found.length
  | .affected count => count
  | .refused _ => 0

/-- The statements whose outcome says something about the tables. -/
inductive Inquiry where
  | lock (registry : Registry) (shared : Bool) (id : Id)
  | count (reference : Reference) (id : Id)
  | edges
  | changeRole (id : Id) (status : Status)
  | changePermission (id : Id) (status : Status)
  | setFact (owner : Owner) (id : Id) (key : String) (value : AttributeValue)
  | removeLink (link : Link)
  | removeEdge (edge : Edge)
  | removePermission (role resource action : Id)

namespace Inquiry

def statement : Inquiry → Statement
  | .lock registry shared id =>
    ⟨"SELECT id FROM " ++ registry.table ++ " WHERE id = $1 FOR " ++
      (if shared then "SHARE" else "UPDATE"), [.integer id]⟩
  | .count reference id => ⟨reference.query, [.integer id]⟩
  | .edges => ⟨"SELECT parent_id, child_id FROM authz_role_hierarchy", []⟩
  | .changeRole id status =>
    ⟨"UPDATE authz_roles SET status = $2 WHERE id = $1 RETURNING *",
      [.integer id, .text status.name]⟩
  | .changePermission id status =>
    ⟨"UPDATE authz_permissions SET status = $2 WHERE id = $1 RETURNING *",
      [.integer id, .text status.name]⟩
  | .setFact owner id key value => (Transacted.setAttribute owner id key value).last.statement
  | .removeLink link =>
    ⟨"DELETE FROM authz_user_roles WHERE user_id = $1 AND role_id = $2",
      [.integer link.user, .integer link.role]⟩
  | .removeEdge edge =>
    ⟨"DELETE FROM authz_role_hierarchy WHERE parent_id = $1 AND child_id = $2",
      [.integer edge.parent, .integer edge.child]⟩
  | .removePermission role resource action =>
    ⟨"DELETE FROM authz_permissions WHERE role_id = $1 AND resource_id = $2 AND action_id = $3",
      [.integer role, .integer resource, .integer action]⟩

/-- What is answered if the rows are those of some tables: a row is locked exactly when it is there,
edges are fetched in any order, and what is changed or removed are all rows that match. -/
def AnsweredBy (tables : Tables) (outcome : Outcome) : Inquiry → Prop
  | .lock registry _ id => outcome.found ≠ [] ↔ registry.holds tables id = true
  | .count reference id => ∃ row rest, outcome.found = row :: rest ∧
      row.lookup "n" = some (.bigint (reference.count tables id))
  | .edges => ∃ fetched : List Edge, fetched.Perm tables.edges ∧
      outcome.found = fetched.map Row.ofEdge
  | .changeRole id status => outcome.found =
      (tables.roles.filter (·.id = id)).map fun role => Row.ofRole { role with status := status }
  | .changePermission id status => outcome.found =
      (tables.permissions.filter (·.id = id)).map fun permission =>
        Row.ofPermission { permission with status := status }
  | .setFact owner id key value => outcome.found = [Row.ofFact ⟨owner, id, key, value, value.type⟩]
  | .removeLink link => outcome.touched = tables.links.count link
  | .removeEdge edge => outcome.touched = tables.edges.count edge
  | .removePermission role resource action =>
    outcome.touched = tables.permissions.countP (·.grants role resource action)

/-! ### An inquiry and its statement -/

theorem unmarked (inquiry : Inquiry) : Mark.ofStatement? inquiry.statement = none := by
  cases inquiry with
  | edges => decide
  | _ => exact Mark.ofStatement?_cons _ _ _

/-- Rows of different tables are locked by different texts. -/
theorem lock_injective {one other : Registry} {shared both : Bool}
    (same : "SELECT id FROM " ++ one.table ++ " WHERE id = $1 FOR " ++
        (if shared then "SHARE" else "UPDATE") =
      "SELECT id FROM " ++ other.table ++ " WHERE id = $1 FOR " ++
        (if both then "SHARE" else "UPDATE")) : one = other := by
  cases one <;> cases other <;> first
    | rfl
    | cases shared <;> cases both <;> exact absurd same (by decide)

theorem lock_ne_query {registry : Registry} {shared : Bool} {reference : Reference} :
    "SELECT id FROM " ++ registry.table ++ " WHERE id = $1 FOR " ++
      (if shared then "SHARE" else "UPDATE") ≠ reference.query := by
  cases registry <;> cases shared <;> cases reference <;> decide

theorem query_injective {one other : Reference} (same : one.query = other.query) : one = other := by
  cases one <;> cases other <;> first | rfl | exact absurd same (by decide)

theorem status_name_injective {one other : Status} (same : one.name = other.name) :
    one = other := by
  have known := congrArg Status.ofName? same
  rw [Status.ofName?_name, Status.ofName?_name] at known
  exact Option.some.inj known

/-- **What answers an inquiry is settled by its statement.** The values tell most kinds of inquiries
apart, the texts tell the others. -/
theorem answeredBy_congr {one other : Inquiry} (same : one.statement = other.statement)
    {tables : Tables} {outcome : Outcome} (answered : one.AnsweredBy tables outcome) :
    other.AnsweredBy tables outcome := by
  cases one <;> cases other <;> obtain ⟨texts, parameters⟩ := Statement.mk.inj same <;>
    simp only [List.cons.injEq, Parameter.integer.injEq, Parameter.text.injEq, and_true,
      List.cons_ne_nil, reduceCtorEq, and_false] at parameters
  case lock.lock =>
    obtain rfl := lock_injective texts
    obtain rfl := parameters
    exact answered
  case lock.count => exact absurd texts lock_ne_query
  case count.lock => exact absurd texts.symm lock_ne_query
  case count.count =>
    obtain rfl := query_injective texts
    obtain rfl := parameters
    exact answered
  case edges.edges => exact answered
  case changeRole.changeRole =>
    obtain ⟨rfl, names⟩ := parameters
    obtain rfl := status_name_injective names
    exact answered
  case changePermission.changePermission =>
    obtain ⟨rfl, names⟩ := parameters
    obtain rfl := status_name_injective names
    exact answered
  case changeRole.changePermission => exact absurd texts (by decide)
  case changePermission.changeRole => exact absurd texts (by decide)
  case setFact.setFact owner id key value owner' id' key' value' =>
    obtain ⟨owners, rfl, rfl, words, types⟩ := parameters
    have rows : Row.ofFact ⟨owner, id, key, value, value.type⟩ =
        Row.ofFact ⟨owner', id, key, value', value'.type⟩ := by
      simp only [Row.ofFact, owners, words, types]
    show outcome.found = [Row.ofFact _]
    rw [← rows]
    exact answered
  case removeLink.removeLink first second =>
    obtain ⟨user, role⟩ := first
    obtain ⟨rfl, rfl⟩ := parameters
    exact answered
  case removeEdge.removeEdge first second =>
    obtain ⟨parent, child⟩ := first
    obtain ⟨rfl, rfl⟩ := parameters
    exact answered
  case removeLink.removeEdge => exact absurd texts (by decide)
  case removeEdge.removeLink => exact absurd texts (by decide)
  case removePermission.removePermission =>
    obtain ⟨rfl, rfl, rfl⟩ := parameters
    exact answered

/-- Every inquiry has an answer. -/
theorem exists_answer (inquiry : Inquiry) (tables : Tables) :
    ∃ outcome : Outcome, outcome.Accepted ∧ inquiry.AnsweredBy tables outcome := by
  cases inquiry with
  | lock registry shared id =>
    by_cases there : registry.holds tables id = true
    · exact ⟨.rows [[("id", .bigint id)]], nofun, by simp [AnsweredBy, Outcome.found, there]⟩
    · exact ⟨.rows [], nofun, by simp [AnsweredBy, Outcome.found, there]⟩
  | count reference id =>
    exact ⟨.rows [[("n", .bigint (reference.count tables id))]], nofun, _, _, rfl, rfl⟩
  | edges => exact ⟨.rows (tables.edges.map Row.ofEdge), nofun, _, .refl _, rfl⟩
  | changeRole id status => exact ⟨.rows _, nofun, rfl⟩
  | changePermission id status => exact ⟨.rows _, nofun, rfl⟩
  | setFact owner id key value => exact ⟨.rows _, nofun, rfl⟩
  | removeLink link => exact ⟨.affected _, nofun, rfl⟩
  | removeEdge edge => exact ⟨.affected _, nofun, rfl⟩
  | removePermission role resource action => exact ⟨.affected _, nofun, rfl⟩

end Inquiry

/-! ### Transcripts that describe tables -/

/-- The outcome of a statement if the rows are those of some tables: no refusal, and an answer to
what is asked. -/
structure Reflects (tables : Tables) (statement : Statement) (outcome : Outcome) : Prop where
  accepted : outcome.Accepted
  answered : ∀ inquiry : Inquiry, statement = inquiry.statement → inquiry.AnsweredBy tables outcome

/-- A transcript describes some tables. -/
def Describes (tables : Tables) (said : Transcript) : Prop :=
  ∀ entry ∈ said, Reflects tables entry.1 entry.2

variable {tables : Tables}

/-- A mark is no inquiry. -/
theorem reflects_mark {statement : Statement} {mark : Mark}
    (marked : Mark.ofStatement? statement = some mark) {outcome : Outcome}
    (accepted : outcome.Accepted) : Reflects tables statement outcome where
  accepted := accepted
  answered inquiry same := by
    rw [same, inquiry.unmarked] at marked
    cases marked

theorem reflects_inquiry {inquiry : Inquiry} {outcome : Outcome} (accepted : outcome.Accepted)
    (answered : inquiry.AnsweredBy tables outcome) : Reflects tables inquiry.statement outcome where
  accepted := accepted
  answered _ same := Inquiry.answeredBy_congr same answered

theorem exists_reflecting (tables : Tables) (statement : Statement) :
    ∃ outcome, Reflects tables statement outcome := by
  by_cases asked : ∃ inquiry : Inquiry, statement = inquiry.statement
  · obtain ⟨inquiry, rfl⟩ := asked
    obtain ⟨outcome, accepted, answered⟩ := inquiry.exists_answer tables
    exact ⟨outcome, reflects_inquiry accepted answered⟩
  · exact ⟨.affected 0, nofun, fun inquiry same => absurd ⟨inquiry, same⟩ asked⟩

/-- The replies to several statements; the marks of a transaction take none. -/
def repliesTo (answer : Statement → Outcome) : List Statement → List Reply
  | [] => []
  | statement :: rest =>
    match Mark.ofStatement? statement with
    | some _ => repliesTo answer rest
    | none => ⟨none, answer statement⟩ :: repliesTo answer rest

/-- No reply to a statement is meant for a mark. -/
theorem mark_head_repliesTo (answer : Statement → Outcome) (statements : List Statement) :
    (repliesTo answer statements).head?.bind Reply.mark = none := by
  induction statements with
  | nil => rfl
  | cons statement rest ih =>
    unfold repliesTo
    split
    · exact ih
    · rfl

/-- **Replies to statements are taken by them**, as many of them as are sent: every entry of the
transcript is as given, if all replies are and so is success for a mark. -/
theorem given_repliesTo {given : Statement → Outcome → Prop} {answer : Statement → Outcome}
    (answering : ∀ statement, given statement (answer statement))
    (marking : ∀ statement mark, Mark.ofStatement? statement = some mark →
      given statement (.affected 0))
    {statements : List Statement} {session : Session}
    (replies : session.replies = repliesTo answer statements) {sent : List Statement}
    (begun : sent <+: statements) : ∀ entry ∈ session.transcript sent, given entry.1 entry.2 := by
  induction statements generalizing session sent with
  | nil =>
    obtain rfl := List.prefix_nil.mp begun
    exact fun _ member => absurd member List.not_mem_nil
  | cons statement rest ih =>
    cases sent with
    | nil => exact fun _ member => absurd member List.not_mem_nil
    | cons first others =>
      obtain ⟨rfl, later⟩ := List.cons_prefix_cons.mp begun
      cases marked : Mark.ofStatement? first with
      | some mark =>
        have left : session.replies = repliesTo answer rest := by
          rw [replies, repliesTo, marked]
        have passes : session.takesReply first = false := by
          simp [Session.takesReply, marked, left, mark_head_repliesTo]
        have answered : session.answer first = .affected 0 := by simp [Session.answer, passes]
        have told : (session.told first).replies = repliesTo answer rest := by
          simp [Session.told, passes, left]
        refine List.forall_mem_cons.mpr ⟨?_, ih told later⟩
        rw [answered]
        exact marking first mark marked
      | none =>
        have taken : session.replies = ⟨none, answer first⟩ :: repliesTo answer rest := by
          rw [replies, repliesTo, marked]
        refine List.forall_mem_cons.mpr ⟨?_, ih ?_ later⟩
        · show given first (session.answer first)
          rw [Session.answer_unmarked marked, Session.next, taken]
          exact answering first
        · rw [Session.told_unmarked marked, Session.sending, taken]
          rfl

/-- Where every statement and every mark can be answered as given, there are replies of which the
transcript is so, whichever of some statements are sent. -/
theorem exists_replying {given : Statement → Outcome → Prop}
    (answering : ∀ statement, ∃ outcome, given statement outcome)
    (marking : ∀ statement mark, Mark.ofStatement? statement = some mark →
      given statement (.affected 0)) (statements : List Statement) :
    ∃ session : Session, ∀ sent, sent <+: statements →
      ∀ entry ∈ session.transcript sent, given entry.1 entry.2 := by
  choose answer answers using answering
  exact ⟨⟨repliesTo answer statements, .affected 0, []⟩,
    fun _ begun => given_repliesTo answers marking rfl begun⟩

/-- **There are replies that describe any tables**, whichever of some statements are sent. -/
theorem exists_describing (tables : Tables) (statements : List Statement) :
    ∃ session : Session,
      ∀ sent, sent <+: statements → Describes tables (session.transcript sent) :=
  exists_replying (exists_reflecting tables)
    (fun _ _ marked => reflects_mark marked (Outcome.accepted_affected 0)) statements

end AccessControl.Sql

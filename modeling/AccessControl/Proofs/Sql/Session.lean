/-
**What a session is asked, and what it answers.**

* `Session.next`, `Session.after` — the outcome that the next statement is given, and the session
  after some statements were sent.
* `Sends` — an exchange of one statement, whose ending is up to the outcome alone.
* `Read` — the questions that a check asks of the tables: each is a statement, and has rows of some
  tables for an answer.
* `Served` — whatever is a question among the statements that a session is sent is answered with the
  rows of some tables. `served_answered` — the replies that are these rows serve any questions.
* `Mirrors` — **an effect on a session sends nothing but questions, and where these are answered
  with the rows of some tables it ends as an effect on the tables does.** It passes from the parts
  of two effects to the whole.
-/

import AccessControl.Proofs.Alike
import AccessControl.Proofs.Sql.Rows
import AccessControl.Sql.Tables
import AccessControl.Tables.Basic

namespace AccessControl.Sql

open Effect

/-! ### Sending -/

namespace Session

variable {session : Session}

/-- The outcome that the next statement is given. -/
def next (session : Session) : Outcome :=
  match session.replies with
  | reply :: _ => reply.outcome
  | [] => session.otherwise

def sending (session : Session) (statement : Statement) : Session :=
  { session with replies := session.replies.tail, sent := session.sent ++ [statement] }

/-- The session after some statements were sent. -/
def after (session : Session) (statements : List Statement) : Session :=
  statements.foldl sending session

theorem send_apply (statement : Statement) (session : Session) :
    send statement session = (.value session.next, session.sending statement) := by
  obtain ⟨replies, otherwise, sent⟩ := session
  cases replies <;> rfl

theorem after_append (session : Session) (first second : List Statement) :
    session.after (first ++ second) = (session.after first).after second :=
  List.foldl_append

theorem sent_after (session : Session) (statements : List Statement) :
    (session.after statements).sent = session.sent ++ statements := by
  induction statements generalizing session with
  | nil => exact (List.append_nil _).symm
  | cons statement rest ih =>
    show ((session.sending statement).after rest).sent = _
    rw [ih]
    exact List.append_assoc _ [statement] rest

theorem replies_after (session : Session) (statements : List Statement) :
    (session.after statements).replies = session.replies.drop statements.length := by
  induction statements generalizing session with
  | nil => rfl
  | cons statement rest ih =>
    show ((session.sending statement).after rest).replies = _
    rw [ih]
    exact List.drop_tail

theorem after_injective {first second : List Statement}
    (same : session.after first = session.after second) : first = second := by
  have sent := congrArg Session.sent same
  rw [sent_after, sent_after] at sent
  exact List.append_cancel_left sent

end Session

/-! ### Exchanges of one statement -/

/-- The rows of an outcome, unless it is a refusal. -/
def Outcome.checkedRows (context : String) (reading : Reading) : Outcome → Checked (List Row)
  | .rows found => .ok found
  | .affected _ => .ok []
  | .refused refusal => .error (errorOf context reading refusal)

theorem errorOf_plain (context : String) (refusal : Refusal) :
    errorOf context .plain refusal = .statement context (some refusal.message) := by
  simp [errorOf]

/-- An exchange sends one statement, whatever its outcome is, and ends as the outcome says. -/
def Sends {α : Type} (exchange : Session.Exchange α) (statement : Statement)
    (made : Outcome → Checked α) : Prop :=
  ∀ session, exchange session = (.ofExcept (made session.next), session.sending statement)

theorem Sends.sent {α : Type} {exchange : Session.Exchange α} {statement : Statement}
    {made : Outcome → Checked α} (sends : Sends exchange statement made) (session : Session) :
    (exchange session).2 = session.sending statement :=
  congrArg Prod.snd (sends session)

/-- What follows an exchange of one statement may look at what it came to. -/
theorem Sends.checking {α β : Type} {exchange : Session.Exchange α} {statement : Statement}
    {made : Outcome → Checked α} (sends : Sends exchange statement made)
    {next : α → Session.Exchange β} {check : α → Checked β}
    (checks : ∀ result session, next result session = (.ofExcept (check result), session)) :
    Sends (exchange >>= next) statement fun outcome => made outcome >>= check := by
  intro session
  rw [bind_apply, sends session]
  dsimp only
  generalize made session.next = result
  cases result with
  | ok result => exact checks result _
  | error _ => rfl

section Sends

variable {α : Type} (read : Row → Checked α) (context : String) (reading : Reading)
  (statement : Statement)

theorem sends_rows :
    Sends (Session.rows context reading statement) statement (·.checkedRows context reading) := by
  intro session
  unfold Session.rows
  rw [bind_apply, Session.send_apply]
  cases session.next <;> rfl

theorem sends_first :
    Sends (Session.first context reading statement) statement fun outcome =>
      outcome.checkedRows context reading >>= fun rows => .ok rows.head? :=
  (sends_rows context reading statement).checking fun _ _ => rfl

theorem sends_firstAs :
    Sends (firstAs read context statement) statement fun outcome =>
      (outcome.checkedRows context .plain >>= fun rows => .ok rows.head?) >>= (·.mapM read) := by
  refine (sends_first context .plain statement).checking fun row session => ?_
  cases row with
  | none => rfl
  | some row =>
    show (Session.checked (read row) >>= fun found => pure (some found)) session = _
    rw [map_apply]
    show ((Ending.ofExcept (read row)).map some, session) = _
    rw [Option.mapM_some]
    cases read row <;> rfl

theorem sends_allAs :
    Sends (allAs read context statement) statement fun outcome =>
      outcome.checkedRows context .plain >>= (·.mapM read) :=
  (sends_rows context .plain statement).checking fun _ _ => rfl

theorem sends_one :
    Sends (Session.one context reading statement) statement fun outcome =>
      (outcome.checkedRows context reading >>= fun rows => .ok rows.head?) >>=
        (·.elim (.error (.statement context none)) .ok) := by
  refine (sends_first context reading statement).checking fun row _ => ?_
  cases row <;> rfl

theorem sends_oneAs :
    Sends (oneAs read context reading statement) statement fun outcome =>
      ((outcome.checkedRows context reading >>= fun rows => .ok rows.head?) >>=
        (·.elim (.error (.statement context none)) .ok)) >>= read :=
  (sends_one context reading statement).checking fun _ _ => rfl

end Sends

theorem Sends.answered {α : Type} {exchange : Session.Exchange α} {statement : Statement}
    {made : Outcome → Checked α} (sends : Sends exchange statement made) (session : Session) :
    (exchange session).1 ≠ .broken := by
  rw [sends session]
  cases made session.next <;> exact nofun

/-! ### Questions -/

/-- What a check asks of the tables. -/
inductive Read where
  | user (id : Id)
  | resourceByName (name : String)
  | actionByName (name : String)
  | userRoles (user : Id)
  | rolePermissions (role : Id)
  | attributes (owner : Owner) (id : Id)
  deriving Repr, DecidableEq

namespace Read

def statement : Read → Statement
  | .user id => ⟨"SELECT * FROM authz_users WHERE id = $1", [.integer id]⟩
  | .resourceByName name => ⟨"SELECT * FROM authz_resources WHERE name = $1", [.text name]⟩
  | .actionByName name => ⟨"SELECT * FROM authz_actions WHERE name = $1", [.text name]⟩
  | .userRoles whose =>
    ⟨"SELECT r.* FROM authz_user_roles ur JOIN authz_roles r ON r.id = ur.role_id " ++
        "WHERE ur.user_id = $1 ORDER BY ur.assigned_seq", [.integer whose]⟩
  | .rolePermissions role =>
    ⟨"SELECT * FROM authz_permissions WHERE role_id = $1 ORDER BY id", [.integer role]⟩
  | .attributes owner id =>
    ⟨"SELECT * FROM authz_attributes WHERE owner_type = $1 AND owner_id = $2 ORDER BY key",
      [.text owner.name, .integer id]⟩

/-- The rows of some tables that answer a question: roles in the order in which they were assigned,
grants in that of their ids, stored facts in that of their keys. -/
def rows (tables : Tables) : Read → List Row
  | .user id => (tables.users.filter (·.id = id)).map Row.ofUser
  | .resourceByName name => (tables.resources.filter (·.name = name)).map Row.ofResource
  | .actionByName name => (tables.actions.filter (·.name = name)).map Row.ofAction
  | .userRoles whose => (tables.rolesOf whose).map Row.ofRole
  | .rolePermissions role => (tables.permissionsOf role).map Row.ofPermission
  | .attributes owner id => (tables.attributesOf owner id).map Row.ofFact

/-- The reply that answers a question with the rows of some tables. -/
def reply (tables : Tables) (read : Read) : Reply := { outcome := .rows (read.rows tables) }

/-- Different questions are different statements. The texts tell the kinds of questions apart. -/
theorem statement_injective {one other : Read} (same : one.statement = other.statement) :
    one = other := by
  cases one <;> cases other <;> obtain ⟨texts, parameters⟩ := Statement.mk.inj same <;>
    first | exact absurd texts (by decide) | skip
  case attributes.attributes owner id owner' id' =>
    obtain ⟨owners, ids⟩ := List.cons.inj parameters
    have kinds := congrArg Owner.ofName? (Parameter.text.inj owners)
    rw [Owner.ofName?_name, Owner.ofName?_name] at kinds
    obtain rfl := Option.some.inj kinds
    obtain rfl := Parameter.integer.inj (List.cons.inj ids).1
    rfl
  all_goals
    have asked := (List.cons.inj parameters).1
    injection asked with asked
    exact congrArg _ asked

end Read

/-! ### Answers -/

/-- Whatever is a question among the statements that a session is sent is answered with the rows of
some tables. -/
def Served (tables : Tables) : List Statement → Session → Prop
  | [], _ => True
  | statement :: rest, session =>
    (∀ read : Read, statement = read.statement → session.next = .rows (read.rows tables)) ∧
      Served tables rest (session.sending statement)

variable {tables : Tables} {session : Session}

theorem served_append {first second : List Statement} :
    Served tables (first ++ second) session ↔
      Served tables first session ∧ Served tables second (session.after first) := by
  induction first generalizing session with
  | nil => exact ⟨fun served => ⟨trivial, served⟩, And.right⟩
  | cons statement rest ih =>
    show (_ ∧ Served tables (rest ++ second) _) ↔ (_ ∧ Served tables rest _) ∧ _
    rw [ih, and_assoc]
    rfl

/-- **Replies that are the rows of some tables serve the questions that they answer.** -/
theorem served_answered {reads : List Read} {more : List Reply}
    (replies : session.replies = reads.map (Read.reply tables) ++ more) :
    Served tables (reads.map Read.statement) session := by
  induction reads generalizing session with
  | nil => trivial
  | cons read rest ih =>
    refine ⟨fun other same => ?_, ih ?_⟩
    · obtain rfl := Read.statement_injective same
      unfold Session.next
      rw [replies]
      rfl
    · show session.replies.tail = _
      rw [replies]
      rfl

/-! ### Effects that only ask -/

section Mirrors

variable {ρ τ α β : Type}

/-- An effect on a session sends nothing but questions. Where these are answered with the rows of
some tables, it ends as an effect on the tables does and leaves related states; which replies do so
is settled by the tables. -/
structure Mirrors (tables : Tables) (session : ρ → Session) (related : ρ → τ → Prop)
    (first : Effect Error ρ α) (second : Effect Error τ α) : Prop where
  asks : ∀ state, ∃ reads : List Read,
    session (first state).2 = (session state).after (reads.map Read.statement)
  alike : ∀ state other statements, related state other →
    session (first state).2 = (session state).after statements →
    Served tables statements (session state) →
    (first state).1 = (second other).1 ∧ related (first state).2 (second other).2
  answered : ∀ other, ∃ reads : List Read, ∀ state more, related state other →
    (session state).replies = reads.map (Read.reply tables) ++ more →
    session (first state).2 = (session state).after (reads.map Read.statement)

variable {view : ρ → Session} {related : ρ → τ → Prop}

theorem mirrors_ending (result : Ending Error α) :
    Mirrors tables view related (ending result) (ending result) where
  asks _ := ⟨[], rfl⟩
  alike _ _ _ holds _ _ := ⟨rfl, holds⟩
  answered _ := ⟨[], fun _ _ _ _ => rfl⟩

theorem mirrors_require (content : Option α) (otherwise : Error) :
    Mirrors tables view related (require content otherwise) (require content otherwise) := by
  cases content with
  | some result => exact mirrors_ending (.value result)
  | none => exact mirrors_ending (.error otherwise)

/-- From a session whose replies answer the right questions, an effect sends these questions, ends
as the effect on the tables does, and leaves the replies behind them. -/
theorem Mirrors.replied {first : Effect Error ρ α} {second : Effect Error τ α}
    (mirrors : Mirrors tables view related first second) (other : τ) :
    ∃ reads : List Read, ∀ state more, related state other →
      (view state).replies = reads.map (Read.reply tables) ++ more →
      view (first state).2 = (view state).after (reads.map Read.statement) ∧
        (view (first state).2).replies = more ∧
        (first state).1 = (second other).1 ∧ related (first state).2 (second other).2 := by
  obtain ⟨reads, answered⟩ := mirrors.answered other
  refine ⟨reads, fun state more holds replies => ?_⟩
  have asked := answered state more holds replies
  refine ⟨asked, ?_, mirrors.alike state other _ holds asked (served_answered replies)⟩
  rw [asked, Session.replies_after, replies]
  exact List.drop_left' ((List.length_map _).trans (List.length_map _).symm)

/-- **An effect mirrors another whose parts mirror its parts**, whether the second parts are reached
or not. What the whole is sent is what its parts are, one after the other. -/
theorem mirrors_bind {first : Effect Error ρ α} {second : Effect Error τ α}
    {next : α → Effect Error ρ β} {more : α → Effect Error τ β}
    (begun : Mirrors tables view related first second)
    (continued : ∀ result, Mirrors tables view related (next result) (more result)) :
    Mirrors tables view related (first >>= next) (second >>= more) where
  asks state := by
    obtain ⟨reads, asked⟩ := begun.asks state
    rw [bind_apply]
    generalize first state = run at asked ⊢
    match run with
    | (.value result, after) =>
      obtain ⟨others, later⟩ := (continued result).asks after
      refine ⟨reads ++ others, later.trans ?_⟩
      rw [asked, ← Session.after_append, ← List.map_append]
    | (.error _, _) => exact ⟨reads, asked⟩
    | (.broken, _) => exact ⟨reads, asked⟩
  alike state other statements holds sent served := by
    obtain ⟨reads, asked⟩ := begun.asks state
    have same := begun.alike state other _ holds asked
    rw [bind_apply] at sent ⊢
    rw [bind_apply]
    generalize first state = run at asked same sent ⊢
    generalize second other = course at same ⊢
    obtain ⟨ending, after⟩ := run
    obtain ⟨_, left⟩ := course
    cases ending with
    | value result =>
      obtain ⟨others, later⟩ := (continued result).asks after
      have parts : statements = reads.map Read.statement ++ others.map Read.statement := by
        apply Session.after_injective
        rw [Session.after_append, ← asked, ← later]
        exact sent.symm
      rw [parts, served_append] at served
      obtain ⟨rfl, still⟩ := same served.1
      rw [← asked] at served
      exact (continued result).alike after left _ still later served.2
    | _ =>
      obtain ⟨rfl, still⟩ := same (Session.after_injective (sent.symm.trans asked) ▸ served)
      exact ⟨rfl, still⟩
  answered other := by
    obtain ⟨reads, replied⟩ := begun.replied other
    generalize second other = course at replied
    obtain ⟨ending, left⟩ := course
    cases ending with
    | value result =>
      obtain ⟨others, later⟩ := (continued result).answered left
      refine ⟨reads ++ others, fun state more holds replies => ?_⟩
      rw [List.map_append, List.append_assoc] at replies
      obtain ⟨asked, rest, same, still⟩ := replied state _ holds replies
      rw [bind_of_value (Prod.ext same rfl), later _ more still rest, asked,
        ← Session.after_append, ← List.map_append]
    | _ =>
      refine ⟨reads, fun state more holds replies => ?_⟩
      obtain ⟨asked, -, same, -⟩ := replied state _ holds replies
      rw [bind_apply, show first state = (_, _) from Prod.ext same rfl]
      exact asked

/-! ### Beside another state -/

section Halves

variable {ρ' τ' : Type} {relatedSecond : ρ' → τ' → Prop}

/-- Effects on the first halves of two pairs. -/
theorem mirrors_onFirst {first : Effect Error ρ α} {second : Effect Error τ α}
    (mirrors : Mirrors tables view related first second) :
    Mirrors tables (fun states : ρ × ρ' => view states.1)
      (fun states (others : τ × τ') =>
        related states.1 others.1 ∧ relatedSecond states.2 others.2)
      (onFirst first) (onFirst second) where
  asks states := mirrors.asks states.1
  alike states others statements holds sent served := by
    obtain ⟨same, still⟩ := mirrors.alike states.1 others.1 statements holds.1 sent served
    exact ⟨same, still, holds.2⟩
  answered others := by
    obtain ⟨reads, asked⟩ := mirrors.answered others.1
    exact ⟨reads, fun states more holds => asked states.1 more holds.1⟩

/-- Alike effects on the second halves of two pairs. -/
theorem mirrors_onSecond (view : ρ → Session) (related : ρ → τ → Prop)
    {part : Effect Error ρ' α} {other : Effect Error τ' α}
    (same : Alike relatedSecond part other) :
    Mirrors tables (fun states : ρ × ρ' => view states.1)
      (fun states (others : τ × τ') =>
        related states.1 others.1 ∧ relatedSecond states.2 others.2)
      (onSecond part) (onSecond other) where
  asks _ := ⟨[], rfl⟩
  alike states others _ holds _ _ := by
    obtain ⟨ending, still⟩ := same states.2 others.2 holds.2
    exact ⟨ending, holds.1, still⟩
  answered _ := ⟨[], fun _ _ _ _ => rfl⟩

end Halves

/-! ### Questions read back -/

/-- **A question that is read back from the rows of some tables** mirrors looking at them. -/
theorem mirrors_question {read : Read} {exchange : Session.Exchange α}
    {made : Outcome → Checked α} (sends : Sends exchange read.statement made) {look : Tables → α}
    (back : made (.rows (read.rows tables)) = .ok (look tables)) :
    Mirrors tables id (fun _ other => other = tables) exchange (reading look) where
  asks session := ⟨[read], sends.sent session⟩
  alike session other statements holds sent served := by
    obtain rfl : statements = [read.statement] :=
      Session.after_injective (sent.symm.trans (sends.sent session))
    have outcome : session.next = _ := served.1 read rfl
    rw [sends session, outcome, back]
    exact ⟨congrArg _ (congrArg _ holds.symm), holds⟩
  answered _ := ⟨[read], fun session _ _ _ => sends.sent session⟩

end Mirrors

end AccessControl.Sql

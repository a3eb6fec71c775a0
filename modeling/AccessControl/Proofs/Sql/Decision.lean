/-
**One request, two places for the tables.**

* `Tables.Legible` — every stored double is read from its text as it was.
* `Sql.mirrors_user` and its neighbours — each look-up of a check is a question, and what its rows
  are read as is what a look at the tables shows.
* `Sql.mirrors_decide` — so a request is decided alike over a database and over the tables that its
  answers show.
* `Sql.recording`, `Sql.recorded_alike` — the statement that records a decision, and **what a logger
  sends: its questions, and the entry that the tables would take.**
* `Sql.check_mirrors`, `Sql.check_answered` — the same for a whole check; which questions it asks is
  settled by the tables.
* `Sql.stores_decide_alike` — **a check over a database that answers with the rows of tables in
  memory ends as over these tables, and records the same.**
-/

import AccessControl.Proofs.Caching
import AccessControl.Proofs.Check.Outcome
import AccessControl.Proofs.Sql.Session

namespace AccessControl

/-- Every stored double is read from its text as it was. -/
def Tables.Legible (tables : Tables) : Prop :=
  ∀ owner id key fact, (tables.facts owner id).find? key = some fact → fact.value.Legible

namespace Sql

open Check (World Request)
open Effect
open Expression.Engine (BothFaithful)

variable {tables : Tables}

/-! ### Look-ups -/

/-- The first of some rows is read as the first of the entities that they are. -/
theorem first_read {α : Type} {read : Row → Checked α} {written : α → Row} (context : String)
    (back : ∀ entity, read (written entity) = .ok entity) (entities : List α)
    (wanted : α → Bool) :
    (((Outcome.rows ((entities.filter wanted).map written)).checkedRows context .plain >>=
      fun rows => .ok rows.head?) >>= fun row => row.mapM read) =
        .ok (entities.find? wanted) := by
  show ((entities.filter wanted).map written).head?.mapM read = _
  rw [List.head?_map, List.head?_filter]
  cases entities.find? wanted with
  | none => rfl
  | some entity =>
    rw [Option.map_some, Option.mapM_some, back]
    rfl

/-- An exchange that looks at a database mirrors a look at the tables. -/
abbrev Looks (tables : Tables) {α : Type} (exchange : Session.Exchange α)
    (look : Effect Error Tables α) : Prop :=
  Mirrors tables id (fun _ other => other = tables) exchange look

theorem mirrors_user (id : Id) : Looks tables (store.user id) (Tables.store.user id) :=
  mirrors_question (sends_firstAs Row.user _ (Read.user id).statement)
    (first_read _ Row.user_ofUser tables.users _)

theorem mirrors_resourceByName (name : String) :
    Looks tables (store.resourceByName name) (Tables.store.resourceByName name) :=
  mirrors_question (sends_firstAs Row.resource _ (Read.resourceByName name).statement)
    (first_read _ Row.resource_ofResource tables.resources _)

theorem mirrors_actionByName (name : String) :
    Looks tables (store.actionByName name) (Tables.store.actionByName name) :=
  mirrors_question (sends_firstAs Row.action _ (Read.actionByName name).statement)
    (first_read _ Row.action_ofAction tables.actions _)

theorem mirrors_userRoles (user : Id) :
    Looks tables (store.userRoles user) (Tables.store.userRoles user) :=
  mirrors_question (sends_allAs Row.role _ (Read.userRoles user).statement)
    (Row.mapM_read fun role _ => Row.role_ofRole role)

theorem mirrors_rolePermissions (role : Id) :
    Looks tables (store.rolePermissions role) (Tables.store.rolePermissions role) :=
  mirrors_question (sends_allAs Row.permission _ (Read.rolePermissions role).statement)
    (Row.mapM_read fun permission _ => Row.permission_ofPermission permission)

theorem mirrors_attributes (sound : Tables.Sound tables) (legible : tables.Legible) (owner : Owner)
    (id : Id) : Looks tables (store.attributes owner id) (Tables.store.attributes owner id) := by
  refine mirrors_question (sends_allAs Row.fact _ (Read.attributes owner id).statement)
    (Row.mapM_read fun fact member => ?_)
  obtain ⟨⟨key, _⟩, entry, rfl⟩ := List.mem_map.mp member
  have found := Dictionary.mem_toList_iff.mp entry
  obtain ⟨-, -, -, -, own⟩ := sound.facts owner id key _ found
  exact Row.fact_ofFact own (legible owner id key _ found)

/-! ### Decisions -/

theorem mirrors_found {α : Type} {exchange : Session.Exchange (Option α)}
    {look : Effect Error Tables (Option α)} (looks : Looks tables exchange look)
    (otherwise : Error) :
    Looks tables (Administration.found exchange otherwise)
      (Administration.found look otherwise) :=
  mirrors_bind looks fun found => mirrors_require found otherwise

theorem mirrors_resolve (request : Request) :
    Looks tables (Check.resolve store request) (Check.resolve Tables.store request) :=
  mirrors_bind (mirrors_found (mirrors_user _) _) fun user =>
    mirrors_bind (mirrors_found (mirrors_resourceByName _) _) fun resource =>
      mirrors_bind (mirrors_found (mirrors_actionByName _) _) fun action =>
        mirrors_ending (.value (user.id, resource.id, action.id))

/-- What is done beside a session mirrors what is done beside the tables, with engines that differ
at most in the programs that they keep. -/
abbrev Decides (tables : Tables) {α : Type} (here : Effect Error (World Session) α)
    (there : Effect Error (World Tables) α) : Prop :=
  Mirrors tables (fun world => world.1)
    (fun world other => other.1 = tables ∧ BothFaithful world.2 other.2) here there

theorem decides_onFirst {α : Type} {exchange : Session.Exchange α} {look : Effect Error Tables α}
    (looks : Looks tables exchange look) : Decides tables (onFirst exchange) (onFirst look) :=
  mirrors_onFirst looks

theorem decides_onSecond {α : Type} {part other : Effect Error Expression.Engine α}
    (alike : Alike BothFaithful part other) : Decides tables (onSecond part) (onSecond other) :=
  mirrors_onSecond id (fun _ other => other = tables) alike

theorem mirrors_firstGrant (resource action : Id) (circumstances : Id → Circumstances)
    (roles : List Role) :
    Decides tables (Check.firstGrant store resource action circumstances roles)
      (Check.firstGrant Tables.store resource action circumstances roles) := by
  induction roles with
  | nil => exact mirrors_ending (.value Decision.noMatchingPermission)
  | cons role rest ih =>
    refine mirrors_bind (decides_onFirst (mirrors_rolePermissions role.id)) fun permissions => ?_
    have searched (permissions : List Permission) :=
      Check.firstHolding_alike circumstances (Check.relevant resource action permissions)
    refine mirrors_bind (decides_onSecond (searched permissions)) fun found => ?_
    cases found with
    | some permission => exact mirrors_ending (.value (Decision.granted permission.id role.id))
    | none => exact ih

/-- **A request is decided alike over a database and over the tables that its answers show.** -/
theorem mirrors_decide (sound : Tables.Sound tables) (legible : tables.Legible)
    (request : Request) :
    Decides tables (Check.decide store request) (Check.decide Tables.store request) := by
  refine mirrors_bind (decides_onFirst (mirrors_resolve request)) fun (user, resource, action) => ?_
  refine mirrors_bind (decides_onFirst (mirrors_userRoles user)) fun assigned => ?_
  dsimp only
  split
  · exact mirrors_ending (.value (user, Decision.noRoles))
  · have facts (owner : Owner) (id : Id) := mirrors_attributes sound legible owner id
    refine mirrors_bind (decides_onFirst (facts .user user)) fun userFacts => ?_
    refine mirrors_bind (decides_onFirst (facts .resource resource)) fun resourceFacts => ?_
    exact mirrors_bind (mirrors_firstGrant _ _ _ _) fun decision =>
      mirrors_ending (.value (user, decision))

/-! ### Recording -/

def recording (entry : NewAuditEntry) : Statement :=
  ⟨"INSERT INTO authz_audit_log " ++
      "(user_id, resource_id, action_id, operation, result, reason, context) " ++
      "VALUES ($1, $2, $3, $4, $5, $6, $7) RETURNING *",
    [.integer entry.user, .integer entry.resource, .integer entry.action, .text entry.operation,
      .boolean entry.result, .text entry.reason, .optionalText entry.context]⟩

theorem recording_ne_statement (entry : NewAuditEntry) (read : Read) :
    recording entry ≠ read.statement := by
  intro same
  cases read <;> exact absurd (Statement.mk.inj same).1 (by decide)

theorem served_recording (entries : List AuditEntry) (session : Session) :
    Served tables (entries.map fun entry => recording entry.toNewAuditEntry) session := by
  induction entries generalizing session with
  | nil => trivial
  | cons entry rest ih =>
    exact ⟨fun read same => absurd same (recording_ne_statement _ read), ih _⟩

theorem resourceByName_sent (name : String) (session : Session) :
    (store.resourceByName name session).2 =
      session.sending (Read.resourceByName name).statement :=
  (sends_firstAs Row.resource _ (Read.resourceByName name).statement).sent session

theorem actionByName_sent (name : String) (session : Session) :
    (store.actionByName name session).2 = session.sending (Read.actionByName name).statement :=
  (sends_firstAs Row.action _ (Read.actionByName name).statement).sent session

theorem append_sent (entry : NewAuditEntry) (session : Session) :
    (store.trail.append entry session).2 = session.sending (recording entry) :=
  (sends_oneAs Row.auditEntry _ .plain (recording entry)).sent session

theorem answers_store (enabled : Bool) : (AuditLogger.ofStore store enabled).Answers where
  resource name := (sends_firstAs Row.resource _ (Read.resourceByName name).statement).answered
  action name := (sends_firstAs Row.action _ (Read.actionByName name).statement).answered
  append entry := (sends_oneAs Row.auditEntry _ .plain (recording entry)).answered

section Logger

variable {enabled : Bool} {user : Id} {resource action : String} {result : Bool} {reason : String}
  {context : String}

/-- What a logger asks before it records. -/
def lookedUp (enabled : Bool) (resource action : String) : List Read :=
  if enabled then [.resourceByName resource, .actionByName action] else []

theorem found_sent (session : Session) :
    ((AuditLogger.ofStore store enabled).found user resource action result reason context
      session).2 = session.after ((lookedUp true resource action).map Read.statement) := by
  show (store.actionByName action (store.resourceByName resource session).2).2 = _
  rw [actionByName_sent, resourceByName_sent]
  rfl

/-- **What a logger of a database comes to is what the tables show.** -/
theorem found_alike {session : Session}
    (served : Served tables ((lookedUp true resource action).map Read.statement) session) :
    ((AuditLogger.ofStore store enabled).found user resource action result reason context
        session).1 =
      ((AuditLogger.ofStore Tables.store enabled).found user resource action result reason
        context tables).1 := by
  obtain ⟨resourceServed, actionServed, -⟩ := served
  have first : (store.resourceByName resource session).1 =
      (Tables.store.resourceByName resource tables).1 :=
    ((mirrors_resourceByName resource).alike session tables [_] rfl
      (resourceByName_sent resource session) ⟨resourceServed, trivial⟩).1
  have second : (store.actionByName action (store.resourceByName resource session).2).1 =
      (Tables.store.actionByName action tables).1 := by
    rw [resourceByName_sent]
    exact ((mirrors_actionByName action).alike _ tables [_] rfl (actionByName_sent action _)
      ⟨actionServed, trivial⟩).1
  unfold AuditLogger.found AuditLogger.ofStore
  dsimp only
  rw [first, second]
  rfl

end Logger

/-- **What a logger sends: its questions, and the entry that the tables would take.** -/
theorem recorded_alike (tables : Tables) (enabled : Bool) (request : Request) (decision : Decision)
    (user : Id) (session : Session) :
    let asked := (lookedUp enabled request.resource request.action).map Read.statement
    ∃ entries : List AuditEntry,
      Check.recorded (.ofStore store enabled) request decision user session =
        session.after (asked ++ entries.map fun entry => recording entry.toNewAuditEntry) ∧
      (Served tables asked session →
        (Check.recorded (.ofStore Tables.store enabled) request decision user tables).audit =
          tables.audit ++ entries) := by
  unfold Check.recorded
  rw [AuditLogger.log_apply (answers_store enabled), AuditLogger.log_ofStore]
  cases enabled with
  | false => exact ⟨[], rfl, fun _ => (List.append_nil _).symm⟩
  | true =>
    let found := (AuditLogger.ofStore store true).found user request.resource request.action
      decision.allowed decision.reason.text request.context session
    have looked : found.2 = _ := found_sent session
    refine ⟨[⟨found.1, tables.lastId + 1⟩], ?_, fun served => ?_⟩
    · refine (append_sent found.1 found.2).trans ?_
      rw [looked, Session.after_append]
      rfl
    · show tables.audit ++ [⟨_, _⟩] = _
      rw [← found_alike served]

/-! ### Checks -/

section Checks

variable {engine kept : Expression.Engine}

/-- **A check asks questions and records; where they are answered with the rows of the tables, it
ends as over the tables, and what it records is what they take.** -/
theorem check_mirrors (sound : Tables.Sound tables) (legible : tables.Legible)
    (twins : BothFaithful engine kept) (enabled : Bool) (request : Request) (session : Session) :
    let here := Check.check store (.ofStore store enabled) request (session, engine)
    let there := Check.check Tables.store (.ofStore Tables.store enabled) request (tables, kept)
    ∃ (reads : List Read) (entries : List AuditEntry),
      here.2.1 = session.after (reads.map Read.statement ++
        entries.map fun entry => recording entry.toNewAuditEntry) ∧
      (Served tables (reads.map Read.statement) session →
        here.1 = there.1 ∧ there.2.1.audit = tables.audit ++ entries) := by
  intro here there
  have mirrors := mirrors_decide sound legible request
  obtain ⟨reads, asked⟩ := mirrors.asks (session, engine)
  have alike := mirrors.alike (session, engine) (tables, kept) _ ⟨rfl, twins⟩ asked
  have applied : here = _ := Check.check_apply store (answers_store enabled) request _
  have also : there = _ :=
    Check.check_apply Tables.store (AuditLogger.answers_ofStore enabled) request _
  rw [applied, also]
  generalize Check.decide store request (session, engine) = run at asked alike ⊢
  generalize Check.decide Tables.store request (tables, kept) = course at alike ⊢
  obtain ⟨ending, after⟩ := run
  obtain ⟨_, left⟩ := course
  cases ending with
  | value decided =>
    obtain ⟨user, decision⟩ := decided
    obtain ⟨entries, sent, recorded⟩ :=
      recorded_alike tables enabled request decision user after.1
    refine ⟨reads ++ lookedUp enabled request.resource request.action, entries, ?_, ?_⟩
    · refine sent.trans ?_
      rw [show after.1 = _ from asked, ← Session.after_append, List.map_append, List.append_assoc]
    · rw [List.map_append, served_append, ← asked]
      rintro ⟨served, looked⟩
      obtain ⟨rfl, rfl, -⟩ := alike served
      exact ⟨rfl, recorded looked⟩
  | _ =>
    refine ⟨reads, [], (List.append_nil (reads.map Read.statement)).symm ▸ asked, fun served => ?_⟩
    obtain ⟨rfl, rfl, -⟩ := alike served
    exact ⟨rfl, (List.append_nil _).symm⟩

/-- Which questions a check asks is settled by the tables that answer them. -/
theorem check_answered (sound : Tables.Sound tables) (legible : tables.Legible)
    (twins : BothFaithful engine kept) (enabled : Bool) (request : Request) :
    ∃ reads : List Read, ∀ (session : Session) (more : List Reply),
      session.replies = reads.map (Read.reply tables) ++ more → ∃ entries : List AuditEntry,
        (Check.check store (.ofStore store enabled) request (session, engine)).2.1 =
          session.after (reads.map Read.statement ++
            entries.map fun entry => recording entry.toNewAuditEntry) := by
  obtain ⟨reads, replied⟩ := (mirrors_decide sound legible request).replied (tables, kept)
  generalize Check.decide Tables.store request (tables, kept) = course at replied
  obtain ⟨ending, left⟩ := course
  cases ending with
  | value decided =>
    obtain ⟨user, decision⟩ := decided
    refine ⟨reads ++ lookedUp enabled request.resource request.action,
      fun session more replies => ?_⟩
    rw [List.map_append, List.append_assoc] at replies
    obtain ⟨asked, -, same, -⟩ := replied (session, engine) _ ⟨rfl, twins⟩ replies
    obtain ⟨entries, sent, -⟩ := recorded_alike tables enabled request decision user
      (Check.decide store request (session, engine)).2.1
    refine ⟨entries, ?_⟩
    rw [Check.check_apply store (answers_store enabled),
      show Check.decide store request (session, engine) = (_, _) from Prod.ext same rfl]
    refine sent.trans ?_
    rw [asked, ← Session.after_append, List.map_append, List.append_assoc]
  | _ =>
    refine ⟨reads, fun session more replies => ⟨[], ?_⟩⟩
    obtain ⟨asked, -, same, -⟩ := replied (session, engine) more ⟨rfl, twins⟩ replies
    rw [Check.check_apply store (answers_store enabled),
      show Check.decide store request (session, engine) = (_, _) from Prod.ext same rfl]
    exact (List.append_nil (reads.map Read.statement)).symm ▸ asked

end Checks

/-! ### A reachable world -/

variable {settings : Settings} {world : World Tables} {engine : Expression.Engine}

/-- **A check over a database ends as over the tables that it answers from.** Take any tables that
an authority over tables in memory reaches, in which every double is read from its text as it was,
and any request. Whatever programs are kept on either side, and whether or not checks are recorded:
if the questions among the statements that a session is sent are answered with the rows of these
tables, then the check on that session ends as the check on the tables does, and what is sent is
questions and then the entries that the tables take. Replies that are the rows of the tables answer
the questions in this way, whatever is replied to the recording. -/
theorem stores_decide_alike
    (reachable : (Authority.ofStore Tables.store settings).Reachable world)
    (legible : world.1.Legible) (faithful : engine.Faithful) (enabled : Bool) (request : Request) :
    let here (session : Session) :=
      Check.check store (.ofStore store enabled) request (session, engine)
    let there := Check.check Tables.store (.ofStore Tables.store enabled) request world
    (∀ session statements, (here session).2.1.sent = session.sent ++ statements →
      Served world.1 statements session →
        (here session).1 = there.1 ∧
          ∃ (reads : List Read) (entries : List AuditEntry),
            statements = reads.map Read.statement ++
              entries.map (fun entry => recording entry.toNewAuditEntry) ∧
            there.2.1.audit = world.1.audit ++ entries) ∧
      ∃ reads : List Read, ∀ (session : Session) (more : List Reply),
        session.replies = reads.map (Read.reply world.1) ++ more →
          ∃ statements, (here session).2.1.sent = session.sent ++ statements ∧
            Served world.1 statements session := by
  intro here there
  have sound := reachable.keeping.1.sound
  have twins : BothFaithful engine world.2 := ⟨faithful, reachable.keeping.2⟩
  refine ⟨fun session statements sent served => ?_, ?_⟩
  · obtain ⟨reads, entries, asked, alike⟩ :=
      check_mirrors sound legible twins enabled request session
    have parts : statements = _ :=
      List.append_cancel_left (sent.symm.trans ((congrArg Session.sent asked).trans
        (Session.sent_after session _)))
    rw [parts, served_append] at served
    obtain ⟨same, recorded⟩ := alike served.1
    exact ⟨same, reads, entries, parts, recorded⟩
  · obtain ⟨reads, answered⟩ := check_answered sound legible twins enabled request
    refine ⟨reads, fun session more replies => ?_⟩
    obtain ⟨entries, asked⟩ := answered session more replies
    refine ⟨_, (congrArg Session.sent asked).trans (Session.sent_after session _), ?_⟩
    exact served_append.mpr ⟨served_answered replies, served_recording entries _⟩

/-- The office, where the user has a score. -/
def scored : Tables :=
  Tables.store.after [.setAttribute .user 1 "score" (.float 0.5)] (Check.office "nonsense")

/-- The questions that a recorded check asks about the request of the office. -/
def visitReads : List Read :=
  [.user 1, .resourceByName "page", .actionByName "edit", .userRoles 1, .attributes .user 1,
    .attributes .resource 4, .rolePermissions 2, .rolePermissions 3, .resourceByName "page",
    .actionByName "edit"]

/-- What is recorded of the request. -/
def visitEntry : NewAuditEntry :=
  { user := 1, resource := 4, action := 5, operation := "check", result := true
    reason := "Permission granted", context := some Check.visit.context }

/-- The score is the only double. -/
theorem scored_legible : scored.Legible := by
  intro owner id key fact found
  change (if owner = .user ∧ id = 1 then
      Dictionary.empty.insert "score" ⟨.user, 1, "score", .float 0.5, .float⟩
    else Dictionary.empty).find? key = some fact at found
  split at found
  · rw [Dictionary.find?_insert] at found
    split at found
    · obtain rfl := Option.some.inj found
      rintro x half
      obtain rfl := AttributeValue.float.inj half
      decide +kernel
    · cases found
  · cases found

/-- A database that answers from the office grants the request as the office does, and is sent what
the office records. -/
theorem stores_decide_alike_scored :
    let session : Session := ⟨visitReads.map (Read.reply scored), .affected 1, []⟩
    let here := Check.check store (.ofStore store true) Check.visit (session, .fresh false)
    scored.Legible ∧ here.1 = .value (.granted 7 3) ∧
      here.2.1.sent = visitReads.map Read.statement ++ [recording visitEntry] := by
  intro session here
  have reachable : (Authority.ofStore Tables.store {}).Reachable (scored, .fresh true) :=
    (Check.office_reachable "nonsense").after _
  have sent : here.2.1.sent = visitReads.map Read.statement ++ [recording visitEntry] := by
    decide +kernel
  have served : Served scored (visitReads.map Read.statement ++ [recording visitEntry]) session :=
    served_append.mpr ⟨served_answered (List.append_nil _).symm,
      served_recording [⟨visitEntry, 8⟩] _⟩
  obtain ⟨same, -⟩ := (stores_decide_alike reachable scored_legible
    (Expression.Engine.faithful_fresh false) true Check.visit).1 session _ sent served
  exact ⟨scored_legible, same.trans (by decide +kernel), sent⟩

end Sql

end AccessControl

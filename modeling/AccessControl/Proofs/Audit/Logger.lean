/-
**What a logger does, whatever is answered to it.**

* `AuditLogger.Answers` — whatever the logger asks is answered, with a value or with an error.
* `AuditLogger.log_apply` — such a logger always comes to an end: it records one entry, in which
  what it could not look up is no entity, or nothing at all.
* `Check.check_ends` — **a check ends as its decision does**, whatever is answered to its logger.
* `AuditLogger.OnlyRecords`, `AuditLogger.log_leaves` — what a logger leaves of tables in memory
  when its look-ups only look and its trail takes an entry or none; the logger of the tables is of
  this kind.
-/

import AccessControl.Proofs.Authority

namespace AccessControl

open Effect

variable {σ : Type}

/-! ### The logger -/

namespace AuditLogger

/-- Nothing that the logger asks is broken off. -/
structure Answers (logger : AuditLogger σ) : Prop where
  resource : ∀ name state, (logger.resourceByName name state).1 ≠ .broken
  action : ∀ name state, (logger.actionByName name state).1 ≠ .broken
  append : ∀ entry state, (logger.trail.append entry state).1 ≠ .broken

def recordedId {α : Type} (idOf : α → Id) : Ending Error (Option α) → Id
  | .value (some row) => idOf row
  | _ => noId

theorem idOr_apply {α : Type} {idOf : α → Id} {lookUp : Effect Error σ (Option α)} {state : σ}
    (answered : (lookUp state).1 ≠ .broken) :
    idOr idOf lookUp state = (.value (recordedId idOf (lookUp state).1), (lookUp state).2) := by
  unfold idOr recover
  rw [bind_apply]
  generalize lookUp state = run at answered ⊢
  match run, answered with
  | (.value (some _), _), _ => rfl
  | (.value none, _), _ => rfl
  | (.error _, _), _ => rfl
  | (.broken, _), answered => exact absurd rfl answered

/-- What a logger finds of a request when it looks: the entry to record, and the state then. -/
def found (logger : AuditLogger σ) (user : Id) (resource action : String) (result : Bool)
    (reason context : String) (state : σ) : NewAuditEntry × σ :=
  let first := logger.resourceByName resource state
  let second := logger.actionByName action first.2
  ({ user, operation, result, reason
     resource := recordedId Resource.id first.1
     action := recordedId Action.id second.1
     context := some context }, second.2)

variable {logger : AuditLogger σ} {user : Id} {resource action : String} {result : Bool}
  {reason context : String}

/-- **A logger always comes to an end**, having recorded what it found if it is enabled. -/
theorem log_apply (answers : logger.Answers) (state : σ) :
    logger.log user resource action result reason context state =
      (.value (),
        if logger.enabled then
          let (entry, looked) := logger.found user resource action result reason context state
          (logger.trail.append entry looked).2
        else state) := by
  unfold log
  split
  · rw [bind_apply, idOr_apply (answers.resource resource state)]
    dsimp only
    rw [bind_apply, idOr_apply (answers.action action _)]
    dsimp only
    unfold recover
    rw [bind_apply]
    generalize appended : logger.trail.append _ _ = run
    have answered := answers.append (logger.found user resource action result reason context
      state).1 (logger.found user resource action result reason context state).2
    unfold found at answered ⊢
    rw [appended] at answered ⊢
    match run, answered with
    | (.value _, _), _ => rfl
    | (.error _, _), _ => rfl
    | (.broken, _), answered => exact absurd rfl answered
  · rfl

end AuditLogger

/-! ### Checks -/

namespace Check

variable {logger : AuditLogger σ}

def recorded (logger : AuditLogger σ) (request : Request) (decision : Decision) (user : Id)
    (state : σ) : σ :=
  (logger.log user request.resource request.action decision.allowed decision.reason.text
    request.context state).2

/-- **A check is its decision, and then what the logger leaves of it.** -/
theorem check_apply (store : Store σ) (answers : logger.Answers) (request : Request)
    (world : World σ) :
    check store logger request world =
      match decide store request world with
      | (.value (user, decision), after) =>
        (.value decision, recorded logger request decision user after.1, after.2)
      | (.error cause, after) => (.error cause, after)
      | (.broken, after) => (.broken, after) := by
  unfold check
  rw [bind_apply]
  generalize decide store request world = run
  match run with
  | (.error _, _) => rfl
  | (.broken, _) => rfl
  | (.value (user, decision), after) =>
    unfold recorded
    dsimp only
    rw [bind_apply]
    unfold onFirst
    rw [AuditLogger.log_apply answers]
    rfl

/-- **A check ends as its decision does**, whatever is answered to its logger. -/
theorem check_ends (store : Store σ) (answers : logger.Answers) (request : Request)
    (world : World σ) :
    (check store logger request world).1 = (decide store request world).1.map Prod.snd := by
  rw [check_apply store answers]
  generalize decide store request world = run
  obtain ⟨_ | _ | _, after⟩ := run <;> rfl

/-- A decision is found by looking at the tables. -/
theorem decide_still (request : Request) (world : World Tables) :
    (decide Tables.store request world).2.1 = world.1 := by
  have still : Keeps (fun after : World Tables => after.1 = world.1 ∧ True)
      (decide Tables.store request) :=
    @keeps_decide _ (· = world.1) Tables.store (fun _ => True) Tables.look_keeps
      (fun _ _ _ holds => holds) request
  exact (still world ⟨rfl, trivial⟩).1

end Check

/-! ### Loggers over tables in memory -/

/-- Tables with one more decision recorded, under the next id. -/
def Tables.recording (tables : Tables) (entry : NewAuditEntry) : Tables :=
  { tables with
    lastId := tables.lastId + 1
    audit := tables.audit ++ [⟨entry, tables.lastId + 1⟩] }

namespace AuditLogger

/-- The look-ups of a logger leave the tables alone, and its trail records an entry there or leaves
them alone, which it always does when it fails. -/
structure OnlyRecords (logger : AuditLogger Tables) : Prop where
  resource : ∀ name tables, (logger.resourceByName name tables).2 = tables
  action : ∀ name tables, (logger.actionByName name tables).2 = tables
  append : ∀ entry tables, (logger.trail.append entry tables).2 = tables ∨
    (∃ stored, (logger.trail.append entry tables).1 = .value stored) ∧
      (logger.trail.append entry tables).2 = tables.recording entry

theorem append_apply (entry : NewAuditEntry) (tables : Tables) :
    Tables.store.trail.append entry tables =
      (.value ⟨entry, tables.lastId + 1⟩, tables.recording entry) := rfl

/-- The tables answer their own logger. -/
theorem answers_ofStore (enabled : Bool) : (ofStore Tables.store enabled).Answers where
  resource _ _ := nofun
  action _ _ := nofun
  append entry tables := by
    show (Tables.store.trail.append entry tables).1 ≠ .broken
    rw [append_apply]
    exact nofun

theorem onlyRecords_ofStore (enabled : Bool) : (ofStore Tables.store enabled).OnlyRecords where
  resource _ _ := rfl
  action _ _ := rfl
  append entry tables := .inr ⟨⟨_, congrArg Prod.fst (append_apply entry tables)⟩, rfl⟩

variable {logger : AuditLogger Tables} {user : Id} {resource action : String} {result : Bool}
  {reason context : String}

/-- The logger of the tables always comes to an end, having recorded what it found if it is
enabled. -/
theorem log_ofStore (enabled : Bool) (tables : Tables) :
    (ofStore Tables.store enabled).log user resource action result reason context tables =
      (.value (),
        if enabled then
          tables.recording ((ofStore Tables.store enabled).found user resource action result reason
            context tables).1
        else tables) := by
  rw [log_apply (answers_ofStore enabled)]
  rfl

/-- What a logger that only records leaves of the tables. -/
theorem log_leaves (answers : logger.Answers) (records : logger.OnlyRecords) (tables : Tables) :
    let entry := (logger.found user resource action result reason context tables).1
    (logger.log user resource action result reason context tables).2 =
      if logger.enabled then (logger.trail.append entry tables).2 else tables := by
  intro entry
  have still : (logger.found user resource action result reason context tables).2 = tables := by
    unfold found
    dsimp only
    rw [records.action, records.resource]
  rw [log_apply answers]
  split
  · dsimp only
    rw [still]
  · rfl

end AuditLogger

end AccessControl

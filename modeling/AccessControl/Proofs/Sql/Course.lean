/-
**The course of a check over a database, whatever is replied.**

* `Session.heard` — questions with the outcomes that they are given.
* `Course` — how answers lead to an ending: the first of them that is at fault is the last, and is
  the error; without one there is no error.
* `Heeds` — an effect asks questions and goes on like this; it passes from the parts of an effect to
  the whole.
* `check_heeds_faults` — **a check heeds every fault of an answer**: it ends with it and nothing is
  recorded. What has no meaning in a row is held against the caller.
-/

import AccessControl.Proofs.Sql.Decision
import AccessControl.Proofs.Sql.Faults

namespace AccessControl.Sql

open Check (World Request)
open Effect

/-! ### Questions and the outcomes that they are given -/

/-- Questions, each with the outcome that it is given. -/
def Session.heard (session : Session) : List Read → List (Read × Outcome)
  | [] => []
  | read :: rest => (read, session.next) :: (session.sending read.statement).heard rest

theorem Session.heard_append (session : Session) (first second : List Read) :
    session.heard (first ++ second) =
      session.heard first ++ (session.after (first.map Read.statement)).heard second := by
  induction first generalizing session with
  | nil => rfl
  | cons read rest ih => exact congrArg _ (ih (session.sending read.statement))

/-- No answer is at fault. -/
def Faultless (said : List (Read × Outcome)) : Prop :=
  ∀ entry ∈ said, ∀ cause, ¬ entry.1.Fault entry.2 cause

theorem faultless_nil : Faultless [] := fun _ member => absurd member List.not_mem_nil

/-- How answers lead to an ending: the first that is at fault is the last one, and it is the error;
where none is at fault, there is no error. -/
inductive Course {α : Type} : List (Read × Outcome) → Ending Error α → Prop where
  | decided {said : List (Read × Outcome)} {result : α} (faultless : Faultless said) :
      Course said (.value result)
  | broken {said : List (Read × Outcome)} (faultless : Faultless said) : Course said .broken
  | failed {before : List (Read × Outcome)} {read : Read} {outcome : Outcome} {cause : Error}
      (faultless : Faultless before) (fault : read.Fault outcome cause) :
      Course (before ++ [(read, outcome)]) (.error cause)

variable {α β ρ : Type} {said more : List (Read × Outcome)}

theorem Faultless.append (first : Faultless said) (second : Faultless more) :
    Faultless (said ++ more) := by
  intro entry member
  rcases List.mem_append.mp member with here | there
  · exact first entry here
  · exact second entry there

namespace Course

/-- Answers without fault come before others. -/
theorem behind {ending : Ending Error α} (faultless : Faultless said)
    (course : Course more ending) : Course (said ++ more) ending := by
  cases course with
  | decided still => exact .decided (faultless.append still)
  | broken still => exact .broken (faultless.append still)
  | failed still fault =>
    rw [← List.append_assoc]
    exact .failed (faultless.append still) fault

theorem of_error {cause : Error} (course : Course said (.error cause : Ending Error α)) :
    Course said (.error cause : Ending Error β) := by
  cases course with
  | failed faultless fault => exact .failed faultless fault

theorem faultless_of_value {result : α} (course : Course said (.value result)) :
    Faultless said := by
  cases course with
  | decided faultless => exact faultless

theorem faultless_of_broken (course : Course said (.broken : Ending Error α)) : Faultless said := by
  cases course with
  | broken faultless => exact faultless

end Course

/-! ### Effects that heed faults -/

/-- An effect asks questions, and its ending is where their answers lead. -/
def Heeds (view : ρ → Session) (effect : Effect Error ρ α) : Prop :=
  ∀ state, ∃ reads : List Read,
    view (effect state).2 = (view state).after (reads.map Read.statement) ∧
      Course ((view state).heard reads) (effect state).1

variable {view : ρ → Session}

/-- What asks nothing and does not fail heeds faults. -/
theorem heeds_silent {effect : Effect Error ρ α}
    (still : ∀ state, view (effect state).2 = view state) (fine : effect.NeverFails) :
    Heeds view effect := by
  intro state
  refine ⟨[], still state, ?_⟩
  have fine := fine state
  generalize (effect state).1 = ending at fine ⊢
  cases ending with
  | value result => exact .decided faultless_nil
  | error cause => exact absurd rfl (fine cause)
  | broken => exact .broken faultless_nil

theorem heeds_pure (result : α) : Heeds view (pure result : Effect Error ρ α) :=
  heeds_silent (fun _ => rfl) (neverFails_pure result)

/-- What asks one question heeds the fault of its answer. -/
theorem Asks.heeds {exchange : Session.Exchange α} {read : Read} (asks : Asks exchange read) :
    Heeds id exchange := by
  obtain ⟨made, sends, fault⟩ := asks
  intro session
  refine ⟨[read], sends.sent session, ?_⟩
  rw [sends session]
  show Course ([] ++ [(read, session.next)]) (Ending.ofExcept (made session.next))
  cases result : made session.next with
  | error cause => exact .failed faultless_nil ((fault _ _).mp result)
  | ok value =>
    refine .decided fun entry member cause wrong => ?_
    obtain rfl := List.mem_singleton.mp member
    exact nomatch result.symm.trans ((fault _ _).mpr wrong)

/-- **An effect heeds faults where its parts do**, whether the second part is reached or not. -/
theorem heeds_bind {first : Effect Error ρ α} {next : α → Effect Error ρ β}
    (begun : Heeds view first) (continued : ∀ result, Heeds view (next result)) :
    Heeds view (first >>= next) := by
  intro state
  obtain ⟨reads, asked, course⟩ := begun state
  rw [bind_apply]
  generalize first state = run at asked course ⊢
  match run with
  | (.value result, after) =>
    obtain ⟨others, later, onward⟩ := continued result after
    refine ⟨reads ++ others, ?_, ?_⟩
    · rw [later, show view after = _ from asked, List.map_append, Session.after_append]
    · rw [Session.heard_append, ← show view after = _ from asked]
      exact onward.behind course.faultless_of_value
  | (.error cause, after) => exact ⟨reads, asked, course.of_error⟩
  | (.broken, after) => exact ⟨reads, asked, .broken course.faultless_of_broken⟩

/-! ### Checks -/

theorem heeds_onFirst {part : Session.Exchange α} (heeds : Heeds id part) :
    Heeds (fun world : World Session => world.1) (onFirst part) := fun world => heeds world.1

theorem heeds_onSecond {part : Effect Error Expression.Engine α} (fine : part.NeverFails) :
    Heeds (fun world : World Session => world.1) (onSecond part) :=
  heeds_silent (fun _ => rfl) fun world => fine world.2

theorem heeds_resolve (request : Request) : Heeds id (Check.resolve store request) :=
  heeds_bind (asks_user _).heeds fun _ => heeds_bind (asks_resourceByName _).heeds fun _ =>
    heeds_bind (asks_actionByName _).heeds fun _ => heeds_pure _

/-- A condition that cannot be evaluated does not hold, and is no error. -/
theorem neverFails_holds (circumstances : Circumstances) (condition : Option String) :
    (Check.holds circumstances condition).NeverFails := by
  cases condition with
  | none => exact neverFails_pure true
  | some text =>
    show (Condition.isSatisfiedText text circumstances).NeverFails
    unfold Condition.isSatisfiedText
    split
    · exact neverFails_recover _ _
    · exact neverFails_pure false

theorem neverFails_firstHolding (circumstances : Id → Circumstances)
    (permissions : List Permission) :
    (Check.firstHolding circumstances permissions).NeverFails := by
  induction permissions with
  | nil => exact neverFails_pure none
  | cons permission rest ih =>
    refine neverFails_bind (neverFails_holds (circumstances permission.id) _) fun holding => ?_
    cases holding with
    | true => exact neverFails_pure _
    | false => exact ih

theorem heeds_firstGrant (resource action : Id) (circumstances : Id → Circumstances)
    (roles : List Role) :
    Heeds (fun world => world.1) (Check.firstGrant store resource action circumstances roles) := by
  induction roles with
  | nil => exact heeds_pure _
  | cons role rest ih =>
    refine heeds_bind (heeds_onFirst (asks_rolePermissions role.id).heeds) fun permissions => ?_
    refine heeds_bind (heeds_onSecond (neverFails_firstHolding circumstances _)) fun found => ?_
    cases found with
    | some permission => exact heeds_pure _
    | none => exact ih

/-- **A decision heeds every fault of an answer**, to whichever of its questions. -/
theorem heeds_decide (request : Request) :
    Heeds (fun world => world.1) (Check.decide store request) := by
  refine heeds_bind (heeds_onFirst (heeds_resolve request)) fun (user, resource, action) => ?_
  refine heeds_bind (heeds_onFirst (asks_userRoles user).heeds) fun assigned => ?_
  dsimp only
  split
  · exact heeds_pure _
  · refine heeds_bind (heeds_onFirst (asks_attributes .user user).heeds) fun userFacts => ?_
    refine heeds_bind (heeds_onFirst (asks_attributes .resource resource).heeds) fun facts => ?_
    exact heeds_bind (heeds_firstGrant _ _ _ _) fun decision => heeds_pure _

/-- **A check heeds every fault of an answer.** Whatever is replied, and whatever is requested, a
check asks questions and then, if it comes to a decision, has it recorded; else nothing is sent
behind the questions. The first answer to them that is at fault is the last one and ends the check
with its error, and without one there is no error, so that no decision is made in spite of a fault.
The error is one of something not found exactly where the last question is answered without a row,
one of validation exactly where a word or a value in a row of its answer has no meaning, and an
internal one otherwise. -/
theorem check_heeds_faults (enabled : Bool) (request : Request) (session : Session)
    (engine : Expression.Engine) :
    let run := Check.check store (.ofStore store enabled) request (session, engine)
    ∃ (reads : List Read) (audit : List Statement),
      run.2.1.sent = session.sent ++ (reads.map Read.statement ++ audit) ∧
        (match run.1 with
          | .value _ => ∃ entries : List AuditEntry,
            audit = (lookedUp enabled request.resource request.action).map Read.statement ++
              entries.map fun entry => recording entry.toNewAuditEntry
          | _ => audit = []) ∧
        Course (session.heard reads) run.1 ∧
        ∀ cause, run.1 = .error cause → ∃ read outcome,
          (session.heard reads).getLast? = some (read, outcome) ∧ read.Fault outcome cause ∧
            (cause.kind = .notFound ↔ outcome.Accepted ∧ outcome.found = []) ∧
            (cause.kind = .validation ↔ ∃ row ∈ outcome.found, row.Meaningless cause) ∧
            (cause.kind = .notFound ∨ cause.kind = .validation ∨ cause.kind = .internal) := by
  intro run
  obtain ⟨reads, asked, course⟩ := heeds_decide request (session, engine)
  have applied : run = _ := Check.check_apply store (answers_store enabled) request _
  rw [applied]
  generalize Check.decide store request (session, engine) = decided at asked course ⊢
  obtain ⟨ending, after⟩ := decided
  have sent : after.1.sent = session.sent ++ reads.map Read.statement :=
    (congrArg Session.sent asked).trans (Session.sent_after session _)
  cases ending with
  | value decided =>
    obtain ⟨user, decision⟩ := decided
    obtain ⟨entries, recorded, -⟩ := recorded_alike .empty enabled request decision user after.1
    refine ⟨reads, _, ?_, ⟨entries, rfl⟩, .decided course.faultless_of_value, nofun⟩
    dsimp only
    rw [recorded, Session.sent_after, sent, List.append_assoc]
  | error cause =>
    refine ⟨reads, [], by rw [List.append_nil, sent], rfl, course.of_error, ?_⟩
    rintro _ ⟨⟩
    generalize session.heard reads = said at course ⊢
    cases course with
    | @failed before read outcome _ _ fault =>
      exact ⟨read, outcome, List.getLast?_concat, fault, fault.kinds⟩
  | broken =>
    exact ⟨reads, [], by rw [List.append_nil, sent], rfl, .broken course.faultless_of_broken, nofun⟩

/-- A number of the user is kept as a text that is none, and the check blames its caller for it. -/
theorem check_blames_caller :
    let five : Row :=
      [("owner_type", .text "user"), ("owner_id", .bigint 1), ("key", .text "level"),
        ("value", .text "five"), ("value_type", .text "integer"), ("updated_at", .time)]
    let session : Session :=
      { replies := [⟨none, .rows [.ofUser ⟨1, "ann"⟩]⟩,
          ⟨none, .rows [.ofResource ⟨2, "page", none, none⟩]⟩,
          ⟨none, .rows [.ofAction ⟨3, "edit", none⟩]⟩,
          ⟨none, .rows [.ofRole ⟨4, "editor", none, .active⟩]⟩, ⟨none, .rows [five]⟩]
        otherwise := .affected 0
        sent := [] }
    let request : Check.Request := { user := 1, resource := "page", action := "edit" }
    let run := Check.check store (.ofStore store true) request (session, .fresh true)
    run.1 = .error (.wrongValue "five" .integer) ∧
      (Error.wrongValue "five" .integer).kind = .validation :=
  ⟨rfl, rfl⟩

end AccessControl.Sql

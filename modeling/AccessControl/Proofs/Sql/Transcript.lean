/-
**What a session is told, and what it answers.**

* `Session.answer`, `Session.told` — what the server makes of a statement, and the session after it.
  The marks of a transaction take a reply only if it is meant for them, every other statement takes
  the next one.
* `Session.transcript` — several statements, each with the outcome that it was given.
* `Stage` — a statement, the outcomes after which the work goes on, and the error of every other
  outcome; `conduct` — several stages one after the other.
* `Goes` — how stages go: one after the other, up to the first outcome that is not favourable.
* `conduct_goes` — **stages go like this whatever is replied**, and `Goes.split` says what was
  passed before an entry of the transcript, wherever it stands.
-/

import AccessControl.Proofs.Sql.Session

namespace AccessControl.Sql

open Effect
open Session (Exchange)

/-! ### Outcomes -/

namespace Outcome

/-- The server does not refuse. -/
def Accepted (outcome : Outcome) : Prop := ∀ refusal, outcome ≠ .refused refusal

def found : Outcome → List Row
  | .rows present => present
  | _ => []

theorem accepted_affected (count : Nat) : (affected count).Accepted := nofun

theorem accepted_or_refused (outcome : Outcome) :
    outcome.Accepted ∨ ∃ refusal, outcome = .refused refusal := by
  cases outcome with
  | rows _ => exact .inl nofun
  | affected count => exact .inl (accepted_affected count)
  | refused refusal => exact .inr ⟨refusal, rfl⟩

theorem checkedRows_iff {outcome : Outcome} {context : String} {reading : Reading}
    {rows : List Row} :
    outcome.checkedRows context reading = .ok rows ↔ outcome.Accepted ∧ outcome.found = rows := by
  unfold Accepted
  cases outcome <;> simp [checkedRows, found]

end Outcome

/-! ### Transcripts -/

def Mark.statement : Mark → Statement
  | .start => ⟨"BEGIN", []⟩
  | .commit => ⟨"COMMIT", []⟩

/-- The mark that a statement is, if it is one. -/
def Mark.ofStatement? (statement : Statement) : Option Mark :=
  if statement = Mark.start.statement then some .start
  else if statement = Mark.commit.statement then some .commit
  else none

theorem Mark.ofStatement?_statement (mark : Mark) :
    Mark.ofStatement? mark.statement = some mark := by
  cases mark <;> rfl

theorem Mark.ofStatement?_cons (text : String) (parameter : Parameter)
    (parameters : List Parameter) : Mark.ofStatement? ⟨text, parameter :: parameters⟩ = none := by
  simp [Mark.ofStatement?, Mark.statement]

abbrev Transcript : Type := List (Statement × Outcome)

namespace Session

variable {session : Session} {statement : Statement}

def takesReply (session : Session) (statement : Statement) : Bool :=
  match Mark.ofStatement? statement with
  | some mark => session.replies.head?.bind Reply.mark = some mark
  | none => true

/-- What the server makes of a statement. -/
def answer (session : Session) (statement : Statement) : Outcome :=
  if session.takesReply statement then session.next else .affected 0

def told (session : Session) (statement : Statement) : Session :=
  if session.takesReply statement then session.sending statement
  else { session with sent := session.sent ++ [statement] }

def tell (session : Session) (statements : List Statement) : Session :=
  statements.foldl told session

/-- Several statements, each with what the server made of it. -/
def transcript (session : Session) : List Statement → Transcript
  | [] => []
  | statement :: rest =>
    (statement, session.answer statement) :: (session.told statement).transcript rest

theorem answer_unmarked (unmarked : Mark.ofStatement? statement = none) :
    session.answer statement = session.next := by
  simp [answer, takesReply, unmarked]

theorem told_unmarked (unmarked : Mark.ofStatement? statement = none) :
    session.told statement = session.sending statement := by
  simp [told, takesReply, unmarked]

theorem sendMark_apply (mark : Mark) (session : Session) :
    sendMark mark mark.statement session =
      (.value (session.answer mark.statement), session.told mark.statement) := by
  obtain ⟨replies, otherwise, sent⟩ := session
  unfold sendMark answer told takesReply
  rw [Mark.ofStatement?_statement]
  cases replies with
  | nil => rfl
  | cons reply rest =>
    by_cases meant : reply.mark = some mark
    · simp [meant, next, sending]
    · simp [meant]

theorem sent_told : (session.told statement).sent = session.sent ++ [statement] := by
  unfold told
  split <;> rfl

theorem tell_append (session : Session) (first second : List Statement) :
    session.tell (first ++ second) = (session.tell first).tell second :=
  List.foldl_append

theorem sent_tell (session : Session) (statements : List Statement) :
    (session.tell statements).sent = session.sent ++ statements := by
  induction statements generalizing session with
  | nil => exact (List.append_nil _).symm
  | cons statement rest ih =>
    show ((session.told statement).tell rest).sent = _
    rw [ih, sent_told]
    exact List.append_assoc _ [statement] rest

theorem transcript_append (session : Session) (first second : List Statement) :
    session.transcript (first ++ second) =
      session.transcript first ++ (session.tell first).transcript second := by
  induction first generalizing session with
  | nil => rfl
  | cons statement rest ih => exact congrArg _ (ih (session.told statement))

theorem map_fst_transcript (session : Session) (statements : List Statement) :
    (session.transcript statements).map Prod.fst = statements := by
  induction statements generalizing session with
  | nil => rfl
  | cons statement rest ih => exact congrArg _ (ih (session.told statement))

end Session

/-! ### Stages -/

/-- A statement, the outcomes after which the work goes on, no refusal among them, and what the work
comes to after every other outcome. -/
structure Stage where
  statement : Statement
  Favourable : Outcome → Prop
  verdict : Outcome → Checked Unit
  verdict_iff : ∀ outcome, verdict outcome = .ok () ↔ Favourable outcome
  accepted : ∀ outcome, Favourable outcome → outcome.Accepted

namespace Stage

/-- Send the statement of a stage and take its outcome, which must be favourable. -/
def run (stage : Stage) : Exchange Outcome := fun session =>
  ((Ending.ofExcept (stage.verdict (session.answer stage.statement))).map fun _ =>
    session.answer stage.statement, session.told stage.statement)

/-- Send the statement of a stage; its outcome must be favourable. -/
def pass (stage : Stage) : Exchange Unit := fun session =>
  (.ofExcept (stage.verdict (session.answer stage.statement)), session.told stage.statement)

/-- What follows a stage is reached after a favourable outcome only. -/
theorem pass_bind {α : Type} (stage : Stage) (next : Unit → Exchange α) (session : Session) :
    (stage.pass >>= next) session =
      match stage.verdict (session.answer stage.statement) with
      | .ok _ => next () (session.told stage.statement)
      | .error cause => (.error cause, session.told stage.statement) := by
  rw [bind_apply]
  unfold pass
  cases stage.verdict (session.answer stage.statement) <;> rfl

theorem run_bind {α : Type} (stage : Stage) (next : Outcome → Exchange α) (session : Session) :
    (stage.run >>= next) session =
      match stage.verdict (session.answer stage.statement) with
      | .ok _ => next (session.answer stage.statement) (session.told stage.statement)
      | .error cause => (.error cause, session.told stage.statement) := by
  rw [bind_apply]
  unfold run
  cases stage.verdict (session.answer stage.statement) <;> rfl

/-- A stage with one more condition, which is tested when its outcome is there. -/
def provided (stage : Stage) (condition : Bool) (otherwise : Error) : Stage where
  statement := stage.statement
  Favourable outcome := stage.Favourable outcome ∧ condition = true
  verdict outcome := stage.verdict outcome >>= fun _ =>
    if condition then .ok () else .error otherwise
  verdict_iff outcome := by
    rw [← stage.verdict_iff]
    cases stage.verdict outcome <;> cases condition <;> simp [bind, Except.bind]
  accepted outcome favourable := stage.accepted outcome favourable.1

/-- A stage whose outcome is favourable if it is no refusal and its rows are as they should be. -/
def judging (statement : Statement) (context : String) (reading : Reading)
    (Fine : List Row → Prop) (check : List Row → Checked Unit)
    (check_iff : ∀ rows, check rows = .ok () ↔ Fine rows) : Stage where
  statement
  Favourable outcome := outcome.Accepted ∧ Fine outcome.found
  verdict outcome := outcome.checkedRows context reading >>= check
  verdict_iff outcome := by
    rw [← check_iff]
    unfold Outcome.Accepted
    cases outcome <;> simp [Outcome.checkedRows, Outcome.found, bind, Except.bind]
  accepted _ favourable := favourable.1

/-- An entry of a transcript passes a stage. -/
def Passes (stage : Stage) (entry : Statement × Outcome) : Prop :=
  entry.1 = stage.statement ∧ stage.Favourable entry.2

end Stage

/-- A stage that is passed has an entry. -/
theorem Stage.exists_reply {stages : List Stage} {said : Transcript}
    (passed : List.Forall₂ Stage.Passes stages said) {stage : Stage} (member : stage ∈ stages) :
    ∃ reply, (stage.statement, reply) ∈ said ∧ stage.Favourable reply := by
  induction passed with
  | nil => cases member
  | @cons first entry _ _ passes _ ih =>
    rcases List.mem_cons.mp member with rfl | later
    · exact ⟨entry.2, List.mem_cons.mpr (.inl (Prod.ext passes.1.symm rfl)), passes.2⟩
    · obtain ⟨reply, entered, favourable⟩ := ih later
      exact ⟨reply, List.mem_cons_of_mem _ entered, favourable⟩

/-- Several stages one after the other. -/
def conduct : List Stage → Exchange Unit
  | [] => pure ()
  | stage :: rest => do
    stage.pass
    conduct rest

/-- How stages go: each is sent when the ones before it are passed, and the first outcome that is
not favourable is the end. -/
inductive Goes : List Stage → Transcript → Checked Unit → Prop where
  | done : Goes [] [] (.ok ())
  | stopped {stage : Stage} {rest : List Stage} {outcome : Outcome} {cause : Error}
      (verdict : stage.verdict outcome = .error cause) :
      Goes (stage :: rest) [(stage.statement, outcome)] (.error cause)
  | further {stage : Stage} {rest : List Stage} {outcome : Outcome} {said : Transcript}
      {ending : Checked Unit} (favourable : stage.Favourable outcome)
      (goes : Goes rest said ending) :
      Goes (stage :: rest) ((stage.statement, outcome) :: said) ending

namespace Goes

variable {front back stages : List Stage} {said more : Transcript} {ending : Checked Unit}
  {cause : Error}

/-- Stages that are passed are followed by more of them. -/
theorem append (begun : Goes front said (.ok ())) (goes : Goes back more ending) :
    Goes (front ++ back) (said ++ more) ending := by
  generalize same : Except.ok () = passed at begun
  induction begun with
  | done => exact goes
  | stopped => cases same
  | further favourable _ ih => exact .further favourable (ih same)

/-- After an outcome that is not favourable no more stages follow. -/
theorem halted (begun : Goes front said (.error cause)) (back : List Stage) :
    Goes (front ++ back) said (.error cause) := by
  generalize same : Except.error cause = failed at begun ⊢
  induction begun with
  | done => cases same
  | stopped verdict => exact .stopped verdict
  | further favourable _ ih => exact .further favourable (ih same)

theorem passed (goes : Goes stages said (.ok ())) : List.Forall₂ Stage.Passes stages said := by
  generalize same : Except.ok () = passed at goes
  induction goes with
  | done => exact .nil
  | stopped => cases same
  | further favourable _ ih => exact .cons ⟨rfl, favourable⟩ (ih same)

/-- **What was passed before an entry of the transcript, wherever it stands**: all the stages before
its own, and its own too if anything follows. -/
theorem split (goes : Goes stages said ending) {before after : Transcript}
    {entry : Statement × Outcome} (place : said = before ++ entry :: after) :
    ∃ front stage rest, stages = front ++ stage :: rest ∧ entry.1 = stage.statement ∧
      List.Forall₂ Stage.Passes front before ∧ (after ≠ [] → stage.Favourable entry.2) := by
  induction goes generalizing before with
  | done => simp at place
  | @stopped stage rest outcome cause verdict =>
    cases before with
    | nil =>
      obtain ⟨rfl, rfl⟩ := List.cons.inj place
      exact ⟨[], stage, rest, rfl, rfl, .nil, fun more => absurd rfl more⟩
    | cons first before => simp at place
  | @further stage rest outcome said ending favourable goes ih =>
    cases before with
    | nil =>
      obtain ⟨rfl, rfl⟩ := List.cons.inj place
      exact ⟨[], stage, rest, rfl, rfl, .nil, fun _ => favourable⟩
    | cons first before =>
      obtain ⟨rfl, later⟩ := List.cons.inj place
      obtain ⟨front, last, others, rfl, own, passed, still⟩ := ih later
      exact ⟨stage :: front, last, others, rfl, own, .cons ⟨rfl, favourable⟩ passed, still⟩

/-- Where the work stops, the statement of the last stage was not sent, or what stops the work is
its outcome. -/
theorem stop {final : Stage}
    (once : ∀ stage ∈ front, stage.statement ≠ final.statement)
    (goes : Goes (front ++ [final]) said (.error cause)) :
    (∀ outcome, (final.statement, outcome) ∉ said) ∨
      ∃ before outcome, said = before ++ [(final.statement, outcome)] ∧
        final.verdict outcome = .error cause := by
  induction front generalizing said with
  | nil =>
    cases goes with
    | stopped verdict => exact .inr ⟨[], _, rfl, verdict⟩
    | further _ goes => cases goes
  | cons first rest ih =>
    have other : first.statement ≠ final.statement := once first List.mem_cons_self
    cases goes with
    | stopped verdict =>
      refine .inl fun outcome member => other ?_
      exact (congrArg Prod.fst (List.mem_singleton.mp member)).symm
    | @further _ _ passed later _ favourable goes =>
      rcases ih (fun stage member => once stage (List.mem_cons_of_mem _ member)) goes with
        silent | ⟨before, outcome, rfl, verdict⟩
      · refine .inl fun outcome member => ?_
        rcases List.mem_cons.mp member with same | member
        · exact other (congrArg Prod.fst same).symm
        · exact silent outcome member
      · exact .inr ⟨(first.statement, passed) :: before, outcome, rfl, verdict⟩

theorem in_order (goes : Goes stages said ending) :
    said.map Prod.fst <+: stages.map Stage.statement := by
  induction goes with
  | done => exact List.nil_prefix
  | stopped => simp
  | further _ _ ih => simpa using ih

end Goes

/-- **Whatever is replied, stages are conducted up to the first outcome that is not favourable.** -/
theorem conduct_goes (stages : List Stage) (session : Session) :
    ∃ statements ending, conduct stages session = (.ofExcept ending, session.tell statements) ∧
      Goes stages (session.transcript statements) ending := by
  induction stages generalizing session with
  | nil => exact ⟨[], .ok (), rfl, .done⟩
  | cons stage rest ih =>
    rw [conduct, Stage.pass_bind]
    cases verdict : stage.verdict (session.answer stage.statement) with
    | error cause => exact ⟨[stage.statement], .error cause, rfl, .stopped verdict⟩
    | ok _ =>
      obtain ⟨statements, ending, run, goes⟩ := ih (session.told stage.statement)
      have favourable := (stage.verdict_iff _).mp verdict
      exact ⟨stage.statement :: statements, ending, run, .further favourable goes⟩

end AccessControl.Sql

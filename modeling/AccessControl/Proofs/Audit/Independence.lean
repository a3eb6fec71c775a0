/-
**Recording a decision never changes it.**

* `Check.decide_whatever` — two checks of one request end alike and leave the same programs,
  whatever is answered to the logger of each.
* `Check.check_leaves` — over a logger that only records, a check leaves the tables as they were, or
  one more entry when it was decided.
* `Check.recording_never_decides` — **a check ends the same with every logger**, and leaves no other
  mark than the one entry that its trail took.
-/

import AccessControl.Proofs.Audit.Logger
import AccessControl.Proofs.Check.Outcome

namespace AccessControl.Check

variable {σ : Type}

/-- **Two checks of one request end alike**, whatever is answered to the logger of each. -/
theorem decide_whatever (store : Store σ) {one other : AuditLogger σ} (answers : one.Answers)
    (also : other.Answers) (request : Request) (world : World σ) :
    (check store one request world).1 = (check store other request world).1 ∧
      (check store one request world).2.2 = (check store other request world).2.2 := by
  rw [check_apply store answers, check_apply store also]
  generalize decide store request world = run
  obtain ⟨_ | _ | _, after⟩ := run <;> exact ⟨rfl, rfl⟩

/-- What a check leaves of the tables: what they were, or, when it was decided, one more entry that
its trail took. -/
theorem check_leaves {logger : AuditLogger Tables} (answers : logger.Answers)
    (records : logger.OnlyRecords) (request : Request) (world : World Tables) :
    let outcome := check Tables.store logger request world
    outcome.2.1 = world.1 ∨
      (∃ decision, outcome.1 = .value decision) ∧ logger.enabled = true ∧ ∃ entry stored,
        (logger.trail.append entry world.1).1 = .value stored ∧
          outcome.2.1 = world.1.recording entry := by
  intro outcome
  have still := decide_still request world
  have applied : outcome = _ := check_apply Tables.store answers request world
  generalize decide Tables.store request world = run at still applied
  rw [applied]
  match run with
  | (.value (user, decision), looked) =>
    dsimp only at still ⊢
    unfold recorded
    rw [still, AuditLogger.log_leaves answers records]
    split
    · rename_i enabled
      rcases records.append _ world.1 with alone | ⟨⟨stored, taken⟩, more⟩
      · exact .inl alone
      · exact .inr ⟨⟨decision, rfl⟩, enabled, _, stored, taken, more⟩
    · exact .inl rfl
  | (.error _, _) => exact .inl still
  | (.broken, _) => exact .inl still

/-- **Recording a decision never changes it.** Whatever the tables and the kept programs are, and
whatever is answered to the logger — errors too, from the tables or from elsewhere — a request is
decided as with every other logger. What a check leaves is what was there, or one more entry under
the next id; a logger that is not enabled, or whose trail takes no entry, leaves what was there. The
loggers of the tables themselves are of this kind. -/
theorem recording_never_decides (logger : AuditLogger Tables) (answers : logger.Answers)
    (records : logger.OnlyRecords) (request : Request) (world : World Tables) :
    let outcome := check Tables.store logger request world
    (∀ other : AuditLogger Tables, other.Answers →
      (check Tables.store other request world).1 = outcome.1 ∧
        (check Tables.store other request world).2.2 = outcome.2.2) ∧
      (outcome.2.1 = world.1 ∨ ∃ entry, outcome.2.1 = world.1.recording entry) ∧
      (logger.enabled = false → outcome.2.1 = world.1) ∧
      ((∀ entry stored, (logger.trail.append entry world.1).1 ≠ .value stored) →
        outcome.2.1 = world.1) ∧
      ∀ enabled, (AuditLogger.ofStore Tables.store enabled).Answers ∧
        (AuditLogger.ofStore Tables.store enabled).OnlyRecords := by
  intro outcome
  refine ⟨fun other also => decide_whatever _ also answers request world, ?_⟩
  have own (enabled : Bool) := And.intro (AuditLogger.answers_ofStore enabled)
    (AuditLogger.onlyRecords_ofStore enabled)
  rcases check_leaves answers records request world with
    alone | ⟨-, enabled, entry, stored, taken, more⟩
  · exact ⟨.inl alone, fun _ => alone, fun _ => alone, own⟩
  · refine ⟨.inr ⟨entry, more⟩, fun disabled => ?_, fun refuses => ?_, own⟩
    · exact nomatch enabled.symm.trans disabled
    · exact absurd taken (refuses entry stored)

def mute : AuditLogger Tables :=
  { AuditLogger.ofStore Tables.store true with trail := .unavailable }

/-- Where nothing can be recorded, the request of the office is granted as it is with the loggers of
the tables, and leaves nothing. -/
theorem recording_never_decides_office :
    mute.Answers ∧ mute.OnlyRecords ∧
      (check Tables.store mute visit (office "nonsense", .fresh true)).1 = .value (.granted 7 3) ∧
      (∀ enabled, (check Tables.store (.ofStore Tables.store enabled) visit
        (office "nonsense", .fresh true)).1 = .value (.granted 7 3)) ∧
      (check Tables.store mute visit (office "nonsense", .fresh true)).2.1 = office "nonsense" := by
  have answers : mute.Answers := ⟨fun _ _ => nofun, fun _ _ => nofun, fun _ _ => nofun⟩
  have records : mute.OnlyRecords := ⟨fun _ _ => rfl, fun _ _ => rfl, fun _ _ => .inl rfl⟩
  have decided : (check Tables.store mute visit (office "nonsense", .fresh true)).1 =
      .value (.granted 7 3) := by decide +kernel
  have recording :=
    recording_never_decides mute answers records visit (office "nonsense", .fresh true)
  refine ⟨answers, records, decided, fun enabled => ?_, ?_⟩
  · exact (recording.1 _ (recording.2.2.2.2 enabled).1).1.trans decided
  · exact recording.2.2.2.1 fun _ _ => nofun

end AccessControl.Check

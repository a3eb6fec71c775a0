/-
**Errors and commits.**

* `Transacted.Unreadable` — what an operation cannot read of the row that it is given back.
* `Transacted.CommitsUnread` — the change is committed, and its row cannot be read.
* `uncommitted_unless_unread` — **an operation that fails has not committed, or its commit was
  refused, or it has committed what it cannot read.** The last does happen: the row is read only
  after the commit.
-/

import AccessControl.Proofs.Sql.Transacted

namespace AccessControl.Sql

open Effect

variable {α : Type}

namespace Stage

theorem commit_verdict_error {outcome : Outcome} {cause : Error}
    (verdict : commit.verdict outcome = .error cause) :
    ∃ refusal, outcome = .refused refusal ∧
      cause = .statement "Failed to commit" (some refusal.message) := by
  cases outcome with
  | rows found => cases verdict
  | affected count => cases verdict
  | refused refusal =>
    have failure : errorOf "Failed to commit" .plain refusal = cause := Except.error.inj verdict
    rw [errorOf_plain] at failure
    exact ⟨refusal, rfl, failure.symm⟩

end Stage

namespace Transacted

/-- An operation cannot read the row that it is given back. -/
def Unreadable : Transacted α → Row → Error → Prop
  | .updateResource _ _, row, cause => row.resource = .error cause
  | .setAttribute _ _ _ _, row, cause => row.fact = .error cause
  | _, _, _ => False

/-- An operation writes, is given back a row that it cannot read, and its commit is acknowledged. -/
def CommitsUnread (operation : Transacted α) (said : Transcript) (cause : Error) : Prop :=
  ∃ before row rest reply,
    said = before ++ [(operation.last.statement, .rows (row :: rest)),
      (Mark.commit.statement, reply)] ∧
    reply.Accepted ∧ operation.Unreadable row cause

theorem handed_error_iff (operation : Transacted α) {outcome : Outcome} (cause : Error)
    (favourable : operation.last.Favourable outcome) :
    operation.handed outcome = .error cause ↔
      ∃ row rest, outcome = .rows (row :: rest) ∧ operation.Unreadable row cause := by
  have reads (read : Row → Checked α) (context : String) (found : outcome.found ≠ []) :
      handing read context outcome = .error cause ↔
        ∃ row rest, outcome = .rows (row :: rest) ∧ read row = .error cause := by
    match outcome with
    | .rows [] => exact absurd rfl found
    | .rows (row :: rest) => simp [handing, Outcome.found]
    | .affected _ => exact absurd rfl found
    | .refused _ => exact absurd rfl found
  cases operation with
  | updateResource id new => exact reads _ _ favourable.2
  | setAttribute owner id key value => exact reads _ _ favourable.2
  | deleteResource id => simp [handed, Unreadable]
  | deleteAction id => simp [handed, Unreadable]
  | deleteRole id => simp [handed, Unreadable]
  | insertEdge edge => simp [handed, Unreadable]

/-- Where an operation stops, it has not committed, unless what stops it is that its commit is
refused. -/
theorem uncommitted_of_stop (operation : Transacted α) {said : Transcript} {cause : Error}
    (goes : Goes operation.transaction.stages said (.error cause)) :
    (∀ reply, (Mark.commit.statement, reply) ∉ said) ∨
      ∃ before refusal, said = before ++ [(Mark.commit.statement, .refused refusal)] ∧
        cause = .statement "Failed to commit" (some refusal.message) := by
  rcases goes.stop fun _ member => Transaction.statement_ne_commit member with
    silent | ⟨before, outcome, rfl, verdict⟩
  · exact .inl silent
  · obtain ⟨refusal, rfl, failure⟩ := Stage.commit_verdict_error verdict
    exact .inr ⟨before, refusal, rfl, failure⟩

end Transacted

/-- **An operation that fails has not committed, or its commit was refused, or it has committed what
it cannot read.** In the last case it does fail: the row that it is given back is read only behind
the commit. -/
theorem uncommitted_unless_unread (operation : Transacted α) (session : Session) :
    ∃ statements, (operation.exchange session).2.sent = session.sent ++ statements ∧
      ∀ cause,
        ((operation.exchange session).1 = .error cause →
          Mark.commit.statement ∉ statements ∨
          (∃ before refusal, session.transcript statements =
              before ++ [(Mark.commit.statement, .refused refusal)] ∧
            cause = .statement "Failed to commit" (some refusal.message)) ∨
          operation.CommitsUnread (session.transcript statements) cause) ∧
        (operation.CommitsUnread (session.transcript statements) cause →
          (operation.exchange session).1 = .error cause) := by
  obtain ⟨statements, sent, ends⟩ := operation.exchange_ends session
  refine ⟨statements, sent, fun cause => ?_⟩
  have unsent (silent : ∀ reply, (Mark.commit.statement, reply) ∉ session.transcript statements) :
      Mark.commit.statement ∉ statements := by
    intro member
    rw [← session.map_fst_transcript statements] at member
    obtain ⟨⟨_, reply⟩, said, rfl⟩ := List.mem_map.mp member
    exact silent reply said
  generalize session.transcript statements = said at ends unsent ⊢
  generalize (operation.exchange session).1 = ending at ends ⊢
  cases ends with
  | @stopped said failure goes =>
    refine ⟨?_, ?_⟩
    · intro same
      obtain rfl := Ending.error.inj same
      rcases operation.uncommitted_of_stop goes with silent | refused
      · exact .inl (unsent silent)
      · exact .inr (.inl refused)
    · rintro ⟨before, row, rest, reply, rfl, acknowledged, -⟩
      rcases operation.uncommitted_of_stop goes with silent | ⟨others, refusal, same, -⟩
      · exact absurd (by simp) (silent reply)
      · have last := congrArg List.getLast? same
        simp at last
        exact absurd last (acknowledged refusal)
  | @committed before outcome reply written acknowledged goes =>
    have handed := operation.handed_error_iff cause written
    refine ⟨fun failed => ?_, ?_⟩
    · have failure : operation.handed outcome = .error cause := by
        generalize same : operation.transaction.handed outcome = result at failed
        cases result with
        | ok _ => cases failed
        | error _ => exact same.trans (congrArg _ (Ending.error.inj failed))
      obtain ⟨row, rest, rfl, unreadable⟩ := handed.mp failure
      exact .inr (.inr ⟨before, row, rest, reply, rfl, acknowledged, unreadable⟩)
    · rintro ⟨others, row, rest, other, same, -, unreadable⟩
      have entries := (List.append_inj' same rfl).2
      obtain rfl : outcome = .rows (row :: rest) :=
        congrArg Prod.snd (List.cons.inj entries).1
      exact congrArg Ending.ofExcept (handed.mpr ⟨row, rest, rfl, unreadable⟩)

/-- A fact is written and committed, and reported as failed: no time stands in its row. -/
theorem failed_behind_commit :
    let row : Row := [("owner_type", .text "user"), ("owner_id", .bigint 1), ("key", .text "level"),
      ("value", .text "5"), ("value_type", .text "integer")]
    let session : Session :=
      { replies := [⟨none, .rows [[("id", .bigint 1)]]⟩, ⟨none, .rows [row]⟩]
        otherwise := .affected 0
        sent := [] }
    let operation := Transacted.setAttribute .user 1 "level" (.integer 5)
    (operation.exchange session).1 = .error (.column "updated_at") ∧
      (session.transcript (operation.exchange session).2.sent).getLast? =
        some (Mark.commit.statement, .affected 0) ∧
      ∀ message, Error.column "updated_at" ≠ .statement "Failed to commit" message :=
  ⟨rfl, rfl, nofun⟩

end AccessControl.Sql

/-
**Transactions: look first, then write, then commit.**

* `Transaction` — guards that only look, modifications behind them, and what is handed back of the
  outcome of the last one; `Transaction.run` — a transaction from its beginning to its commit.
* `Transaction.Ends` — it is stopped at some stage, or it is committed and then hands back what it
  is to hand back; `Transaction.run_ends` — **it ends like this whatever is replied.**
* `Transaction.Observes` — a transcript that keeps the rules: nothing is modified before every guard
  was favourable, nothing follows an outcome that is not, and the commit comes after all
  modifications. `Transaction.observes` — **however its stages go, a transaction keeps them.**
-/

import AccessControl.Proofs.Sql.Guards

namespace AccessControl.Sql

open Effect
open Session (Exchange checked)

/-! ### Looking and modifying -/

/-- Whether a statement modifies, which its first word says. -/
def Statement.modifies (statement : Statement) : Bool :=
  ["UPDATE", "DELETE", "INSERT"].any fun word => word.toList.isPrefixOf statement.text.toList

/-- A text that begins like one that modifies does so too. -/
theorem Statement.modifies_append {text : String} (more : String)
    (begun : Statement.modifies ⟨text, []⟩ = true) :
    Statement.modifies ⟨text ++ more, []⟩ = true := by
  obtain ⟨word, member, starts⟩ := List.any_eq_true.mp begun
  refine List.any_eq_true.mpr ⟨word, member, ?_⟩
  rw [List.isPrefixOf_iff_prefix] at starts ⊢
  rw [String.toList_append]
  exact starts.trans (List.prefix_append _ _)

/-- Whether a statement only looks: it neither modifies nor marks an end of a transaction. -/
def Statement.looks (statement : Statement) : Bool :=
  !statement.modifies && (Mark.ofStatement? statement).isNone

/-- Statements that begin with another letter than those which modify or mark only look. -/
theorem Statement.looks_of_head {statement : Statement} (letter : Char)
    (head : statement.text.toList.head? = some letter)
    (other : letter ∉ ['U', 'D', 'I', 'B', 'C']) : statement.looks = true := by
  obtain ⟨text, parameters⟩ := statement
  have elsewhere (first : Char) (rest : List Char) (among : first ∈ ['U', 'D', 'I', 'B', 'C']) :
      ¬ first :: rest <+: text.toList := by
    rintro ⟨more, same⟩
    rw [← show first :: rest ++ more = text.toList from same] at head
    exact other (Option.some.inj head ▸ among)
  have still : Statement.modifies ⟨text, parameters⟩ = false := by
    refine List.any_eq_false.mpr fun word member => ?_
    rw [List.isPrefixOf_iff_prefix]
    rcases List.mem_cons.mp member with rfl | member
    · exact elsewhere 'U' "PDATE".toList (by decide)
    rcases List.mem_cons.mp member with rfl | member
    · exact elsewhere 'D' "ELETE".toList (by decide)
    · obtain rfl := List.mem_singleton.mp member
      exact elsewhere 'I' "NSERT".toList (by decide)
  have begins : text ≠ "BEGIN" := fun same =>
    elsewhere 'B' "EGIN".toList (by decide) (same ▸ List.prefix_rfl)
  have commits : text ≠ "COMMIT" := fun same =>
    elsewhere 'C' "OMMIT".toList (by decide) (same ▸ List.prefix_rfl)
  simp [looks, still, Mark.ofStatement?, Mark.statement, begins, commits]

section Judging

variable {text : String} {parameters : List Parameter} {context : String} {reading : Reading}
  {Fine : List Row → Prop} {check : List Row → Checked Unit}
  {check_iff : ∀ rows, check rows = .ok () ↔ Fine rows}

theorem Stage.modifies_judging (modifies : Statement.modifies ⟨text, []⟩ = true) :
    (judging ⟨text, parameters⟩ context reading Fine check check_iff).statement.modifies = true :=
  modifies

theorem Stage.looks_judging (letter : Char) (head : text.toList.head? = some letter)
    (other : letter ∉ ['U', 'D', 'I', 'B', 'C']) :
    (judging ⟨text, parameters⟩ context reading Fine check check_iff).statement.looks = true :=
  Statement.looks_of_head letter head other

end Judging

theorem head_append {text more : String} {letter : Char} (head : text.toList.head? = some letter) :
    (text ++ more).toList.head? = some letter := by
  rw [String.toList_append, List.head?_append, head]
  rfl

theorem Stage.looks_locking (table mode : String) (id : Id) (otherwise : Error) :
    (locking table mode id otherwise).statement.looks = true :=
  looks_judging 'S' (head_append (head_append (head_append rfl))) (by decide)

theorem Stage.looks_lineage (id parent : Id) : (lineage id parent).statement.looks = true :=
  looks_judging 'W' (head_append (head_append (head_append (by decide +kernel)))) (by decide)

/-! ### Transactions -/

/-- A transaction: guards that only look, then modifications, and what is handed back of the outcome
of the last one. -/
structure Transaction (α : Type) where
  guards : List Stage
  writes : List Stage
  last : Stage
  handed : Outcome → Checked α
  looking : ∀ guard ∈ guards, guard.statement.looks = true
  modifying : ∀ write ∈ writes ++ [last], write.statement.modifies = true

namespace Transaction

variable {α : Type}

def modifications (transaction : Transaction α) : List Stage :=
  transaction.writes ++ [transaction.last]

/-- All that a transaction sends, if nothing stops it. -/
def stages (transaction : Transaction α) : List Stage :=
  Stage.start :: (transaction.guards ++ transaction.modifications) ++ [Stage.commit]

def run (transaction : Transaction α) : Exchange α := do
  conduct (Stage.start :: (transaction.guards ++ transaction.writes))
  let outcome ← transaction.last.run
  Stage.commit.pass
  checked (transaction.handed outcome)

/-- How a transaction ends: it is stopped at some stage, or it hands back what it is to hand back
after its commit. -/
inductive Ends (transaction : Transaction α) : Transcript → Ending Error α → Prop where
  | stopped {said : Transcript} {cause : Error}
      (goes : Goes transaction.stages said (.error cause)) : Ends transaction said (.error cause)
  | committed {before : Transcript} {outcome reply : Outcome}
      (written : transaction.last.Favourable outcome) (acknowledged : reply.Accepted)
      (goes : Goes transaction.stages (before ++ [(transaction.last.statement, outcome),
        (Mark.commit.statement, reply)]) (.ok ())) :
      Ends transaction (before ++ [(transaction.last.statement, outcome),
        (Mark.commit.statement, reply)]) (.ofExcept (transaction.handed outcome))

/-- **Whatever is replied, a transaction is stopped at some stage or committed.** -/
theorem run_ends (transaction : Transaction α) (session : Session) :
    ∃ statements, (transaction.run session).2 = session.tell statements ∧
      transaction.Ends (session.transcript statements) (transaction.run session).1 := by
  let front := Stage.start :: (transaction.guards ++ transaction.writes)
  let back := [transaction.last, Stage.commit]
  have stages : transaction.stages = front ++ back := by
    simp [stages, modifications, front, back]
  obtain ⟨statements, ending, conducted, goes⟩ := conduct_goes front session
  unfold run
  rw [bind_apply, conducted]
  cases ending with
  | error cause => exact ⟨statements, rfl, .stopped (stages ▸ goes.halted back)⟩
  | ok _ =>
    let between := session.tell statements
    let outcome := between.answer transaction.last.statement
    show ∃ told, ((transaction.last.run >>= fun outcome => Stage.commit.pass >>= fun _ =>
      checked (transaction.handed outcome)) between).2 = session.tell told ∧ Ends _ _
        ((transaction.last.run >>= fun outcome => Stage.commit.pass >>= fun _ =>
          checked (transaction.handed outcome)) between).1
    rw [Stage.run_bind]
    cases verdict : transaction.last.verdict outcome with
    | error cause =>
      refine ⟨statements ++ [transaction.last.statement], ?_, ?_⟩
      · rw [Session.tell_append]
        rfl
      · rw [Session.transcript_append]
        exact .stopped (stages ▸ goes.append (.stopped verdict))
    | ok _ =>
      let later := between.told transaction.last.statement
      have written := (transaction.last.verdict_iff outcome).mp verdict
      dsimp only
      rw [Stage.pass_bind]
      refine ⟨statements ++ [transaction.last.statement, Mark.commit.statement], ?_, ?_⟩
      · rw [Session.tell_append]
        cases Stage.commit.verdict (later.answer Stage.commit.statement) <;> rfl
      · rw [Session.transcript_append]
        cases closed : Stage.commit.verdict (later.answer Stage.commit.statement) with
        | error cause => exact .stopped (stages ▸ goes.append (.further written (.stopped closed)))
        | ok _ =>
          have acknowledged := (Stage.commit.verdict_iff _).mp closed
          exact .committed written (Stage.commit.accepted _ acknowledged)
            (stages ▸ goes.append (.further written (.further acknowledged .done)))

/-- Stages that a stage is not among stand before it. -/
theorem begins_of_not_mem {first second front rest : List Stage} {stage : Stage}
    (place : first ++ second = front ++ stage :: rest) (elsewhere : stage ∉ first) :
    ∃ between, front = first ++ between := by
  rcases List.append_eq_append_iff.mp place with ⟨between, same, -⟩ | ⟨between, same, others⟩
  · exact ⟨between, same⟩
  · cases between with
    | nil => exact ⟨[], by simpa using same.symm⟩
    | cons other between =>
      obtain ⟨rfl, -⟩ := List.cons.inj others
      exact absurd (by simp [same]) elsewhere

/-- **A transcript keeps the rules of a transaction.** What is sent are its statements, in their
order; nothing is modified before the transaction has begun and every guard was answered favourably
in it; nothing follows an outcome that is not favourable; and it is committed only after every
modification succeeded. -/
structure Observes (transaction : Transaction α) (said : Transcript) : Prop where
  inOrder : said.map Prod.fst <+: transaction.stages.map Stage.statement
  guarded : ∀ before statement outcome after, said = before ++ (statement, outcome) :: after →
    statement.modifies = true →
      (∃ reply, before.head? = some (Mark.start.statement, reply) ∧ reply.Accepted) ∧
      ∀ guard ∈ transaction.guards, ∃ reply,
        (guard.statement, reply) ∈ before ∧ guard.Favourable reply
  halting : ∀ before statement outcome after, said = before ++ (statement, outcome) :: after →
    after ≠ [] → outcome.Accepted ∧ ∃ stage, transaction.stages[before.length]? = some stage ∧
      stage.statement = statement ∧ stage.Favourable outcome
  closing : ∀ before outcome after, said = before ++ (Mark.commit.statement, outcome) :: after →
    ∀ write ∈ transaction.modifications, ∃ reply,
      (write.statement, reply) ∈ before ∧ write.Favourable reply

variable {transaction : Transaction α} {said : Transcript} {ending : Checked Unit}

theorem looks_of_guard {guard : Stage} (member : guard ∈ transaction.guards) :
    guard.statement.modifies = false ∧ Mark.ofStatement? guard.statement = none := by
  have looks := transaction.looking guard member
  simpa [Statement.looks] using looks

/-- Only the last stage commits. -/
theorem statement_ne_commit {stage : Stage}
    (member : stage ∈ Stage.start :: (transaction.guards ++ transaction.modifications)) :
    stage.statement ≠ Mark.commit.statement := by
  intro own
  rcases List.mem_cons.mp member with rfl | member
  · exact absurd (show Mark.start.statement = Mark.commit.statement from own) (by decide)
  rcases List.mem_append.mp member with guard | write
  · have unmarked := (looks_of_guard guard).2
    rw [own, Mark.ofStatement?_statement] at unmarked
    cases unmarked
  · have modifies := transaction.modifying _ write
    rw [own] at modifies
    exact absurd modifies (by decide)

/-- **However its stages go, a transaction keeps its rules.** -/
theorem observes (goes : Goes transaction.stages said ending) : transaction.Observes said where
  inOrder := goes.in_order
  guarded before statement outcome after place modifies := by
    obtain ⟨front, stage, rest, same, rfl, passed, -⟩ := goes.split place
    have elsewhere : stage ∉ Stage.start :: transaction.guards := by
      intro member
      rcases List.mem_cons.mp member with rfl | guard
      · exact absurd modifies (by decide)
      · exact absurd modifies (by simp [(looks_of_guard guard).1])
    have place : (Stage.start :: transaction.guards) ++
        (transaction.modifications ++ [Stage.commit]) = front ++ stage :: rest := by
      rw [← same]
      simp [stages]
    obtain ⟨between, rfl⟩ := begins_of_not_mem place elsewhere
    refine ⟨?_, fun guard member => Stage.exists_reply passed (by simp [member])⟩
    cases passed with
    | @cons _ entry _ before passes _ =>
      exact ⟨entry.2, congrArg some (Prod.ext passes.1 rfl), Stage.start.accepted _ passes.2⟩
  halting before statement outcome after place more := by
    obtain ⟨front, stage, rest, same, rfl, passed, favourable⟩ := goes.split place
    refine ⟨stage.accepted _ (favourable more), stage, ?_, rfl, favourable more⟩
    rw [same, ← passed.length_eq]
    simp
  closing before outcome after place write member := by
    obtain ⟨front, stage, rest, same, own, passed, -⟩ := goes.split place
    have elsewhere : stage ∉ Stage.start :: (transaction.guards ++ transaction.modifications) :=
      fun member => statement_ne_commit member own.symm
    have place : (Stage.start :: (transaction.guards ++ transaction.modifications)) ++
        [Stage.commit] = front ++ stage :: rest := same
    obtain ⟨between, rfl⟩ := begins_of_not_mem place elsewhere
    exact Stage.exists_reply passed (by simp [member])

end Transaction

end AccessControl.Sql

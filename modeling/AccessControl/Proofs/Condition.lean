/-
**When a condition holds, and when holding against it breaks off.**

* `AttributeMap.Agrees` — one map has an equal value under every key of another.
* `Condition.Holds` — the values agree and the expression, unless it is blank, answers yes.
* `Condition.Breaks` — the values agree and the text of the expression breaks the compilation off.
* `Condition.StoredHolds`, `Condition.StoredBreaks` — the same for the condition that is stored with
  a grant as text, or for none.
* `Condition.holds_faithful` — **a stored condition is broken off, satisfied or not
  satisfied exactly as these say**, whatever programs the engine has kept; it never ends with an
  error.
-/

import AccessControl.Check
import AccessControl.Proofs.Dictionary
import AccessControl.Proofs.Expression.Engine

namespace AccessControl

open Expression (Engine verdict compiled)

/-- Under every key of the required values there is an equal actual one. -/
def AttributeMap.Agrees (required actual : AttributeMap) : Prop :=
  ∀ key value, required.find? key = some value →
    ∃ found, actual.find? key = some found ∧ (found == value) = true

theorem AttributeMap.requiredIn_iff {required actual : AttributeMap} :
    required.requiredIn actual = true ↔ required.Agrees actual := by
  unfold requiredIn Agrees
  rw [List.all_eq_true]
  constructor
  · intro all key value found
    have test := all (key, value) (Dictionary.mem_toList_iff.mpr found)
    exact (Option.any_eq_true _ _).mp test
  · intro agrees entry member
    obtain ⟨key, value⟩ := entry
    exact (Option.any_eq_true _ _).mpr (agrees key value (Dictionary.mem_toList_iff.mp member))

namespace Condition

/-- The required values are those of the circumstances, each from its own source. -/
structure Agrees (condition : Condition) (circumstances : Circumstances) : Prop where
  resource : condition.resource.Agrees circumstances.resource
  user : condition.user.Agrees circumstances.user
  environment : condition.environment.Agrees circumstances.environment

/-- A condition holds when its values agree and its expression, if it has one that is not blank,
compiles to a program that answers yes. -/
def Holds (condition : Condition) (circumstances : Circumstances) : Prop :=
  condition.Agrees circumstances ∧ ∀ source, condition.source? = some source →
    ∃ program, compiled source = .value program ∧ program.answer circumstances.facts = .ok true

/-- A condition breaks off when its values agree and the compilation of its expression does. -/
def Breaks (condition : Condition) (circumstances : Circumstances) : Prop :=
  condition.Agrees circumstances ∧ ∃ source, condition.source? = some source ∧
    compiled source = .broken

variable {condition : Condition} {circumstances : Circumstances} {engine : Engine}

theorem valuesAgree_iff :
    condition.valuesAgree circumstances = true ↔ condition.Agrees circumstances := by
  unfold valuesAgree
  simp only [Bool.and_eq_true, AttributeMap.requiredIn_iff]
  exact ⟨fun ⟨⟨resource, user⟩, environment⟩ => ⟨resource, user, environment⟩,
    fun agrees => ⟨⟨agrees.resource, agrees.user⟩, agrees.environment⟩⟩

/-- What holding a condition against circumstances comes to. -/
inductive Result (holds breaks : Prop) : Ending Error Bool → Prop where
  | broken (broken : breaks) : Result holds breaks .broken
  | satisfied (calm : ¬ breaks) (satisfied : holds) : Result holds breaks (.value true)
  | unsatisfied (calm : ¬ breaks) (unsatisfied : ¬ holds) : Result holds breaks (.value false)

/-- An expression answers yes exactly when it compiles to a program that does. -/
theorem verdict_eq_true_iff {text : String} {facts : Expression.Facts} :
    verdict text facts = .value true ↔
      ∃ program, compiled text = .value program ∧ program.answer facts = .ok true := by
  unfold verdict
  cases compiled text with
  | value program =>
    simp only [Ending.bind, Ending.value.injEq, exists_eq_left']
    cases program.answer facts <;> simp [Ending.ofExcept]
  | error cause => simp [Ending.bind]
  | broken => simp [Ending.bind]

/-- An answer is broken off exactly when the compilation is: what a program does is caught. -/
theorem verdict_eq_broken_iff {text : String} {facts : Expression.Facts} :
    verdict text facts = .broken ↔ compiled text = .broken := by
  unfold verdict
  cases compiled text with
  | value program =>
    simp only [Ending.bind]
    cases program.answer facts <;> simp [Ending.ofExcept]
  | error cause => simp [Ending.bind]
  | broken => simp [Ending.bind]

theorem isSatisfied_of_agrees (agrees : condition.Agrees circumstances) {source : String}
    (written : condition.source? = some source) :
    condition.isSatisfied circumstances =
      ((Engine.answer source circumstances.facts).mapError (.noAnswer source)).recover
        fun _ => false := by
  unfold isSatisfied evaluate
  rw [if_pos (valuesAgree_iff.mpr agrees), written]

/-- **A condition is broken off, satisfied or not satisfied**, whatever programs were kept. -/
theorem isSatisfied_faithful (faithful : engine.Faithful) (condition : Condition)
    (circumstances : Circumstances) :
    Result (condition.Holds circumstances) (condition.Breaks circumstances)
        (condition.isSatisfied circumstances engine).1 ∧
      (condition.isSatisfied circumstances engine).2.Faithful := by
  by_cases agrees : condition.Agrees circumstances
  · cases written : condition.source? with
    | none =>
      have run : condition.isSatisfied circumstances engine = (.value true, engine) := by
        unfold isSatisfied evaluate
        rw [if_pos (valuesAgree_iff.mpr agrees), written]
        rfl
      rw [run]
      refine ⟨.satisfied (fun breaks => ?_) ⟨agrees, fun _ same => ?_⟩, faithful⟩
      · obtain ⟨_, _, same, _⟩ := breaks
        cases written.symm.trans same
      · cases written.symm.trans same
    | some source =>
      have holds : condition.Holds circumstances ↔
          verdict source circumstances.facts = .value true := by
        rw [verdict_eq_true_iff]
        refine ⟨fun holds => holds.2 source written, fun answers => ⟨agrees, fun other same => ?_⟩⟩
        rwa [← Option.some.inj (written.symm.trans same)]
      have breaks : condition.Breaks circumstances ↔
          verdict source circumstances.facts = .broken := by
        rw [verdict_eq_broken_iff]
        refine ⟨fun ⟨_, other, same, broken⟩ => ?_, fun broken => ⟨agrees, source, written, broken⟩⟩
        rwa [Option.some.inj (written.symm.trans same)]
      obtain ⟨same, still⟩ := Engine.answer_faithful faithful source circumstances.facts
      rw [holds, breaks, ← same, isSatisfied_of_agrees agrees written]
      unfold Effect.recover Effect.mapError
      generalize Engine.answer source circumstances.facts engine = run at still ⊢
      match run, still with
      | (.value true, _), still => exact ⟨.satisfied nofun rfl, still⟩
      | (.value false, _), still => exact ⟨.unsatisfied nofun nofun, still⟩
      | (.error _, _), still => exact ⟨.unsatisfied nofun nofun, still⟩
      | (.broken, _), still => exact ⟨.broken rfl, still⟩
  · have run : condition.isSatisfied circumstances engine = (.value false, engine) := by
      unfold isSatisfied evaluate
      rw [if_neg (fun agree => agrees (valuesAgree_iff.mp agree))]
      rfl
    rw [run]
    exact ⟨.unsatisfied (fun breaks => agrees breaks.1) fun holds => agrees holds.1, faithful⟩

/-! ### Stored conditions -/

/-- The condition stored with a grant holds: there is none, or its text is one that holds. -/
def StoredHolds (stored : Option String) (circumstances : Circumstances) : Prop :=
  ∀ text, stored = some text →
    ∃ condition, ofText? text = some condition ∧ condition.Holds circumstances

/-- The condition stored with a grant breaks off. -/
def StoredBreaks (stored : Option String) (circumstances : Circumstances) : Prop :=
  ∃ text condition, stored = some text ∧ ofText? text = some condition ∧
    condition.Breaks circumstances

/-- What breaks off does not hold. -/
theorem StoredBreaks.not_holds {stored : Option String}
    (breaks : StoredBreaks stored circumstances) :
    ¬ StoredHolds stored circumstances := by
  intro holds
  obtain ⟨text, condition, written, readable, -, source, required, broken⟩ := breaks
  obtain ⟨other, read, -, answers⟩ := holds text written
  obtain rfl := Option.some.inj (readable.symm.trans read)
  obtain ⟨program, compiles, -⟩ := answers source required
  cases broken.symm.trans compiles

/-- **The condition stored with a grant is broken off, satisfied or not satisfied**, whatever
programs were kept; a text that is no condition is not satisfied. -/
theorem holds_faithful (faithful : engine.Faithful) (circumstances : Circumstances)
    (stored : Option String) :
    Result (StoredHolds stored circumstances) (StoredBreaks stored circumstances)
        (Check.holds circumstances stored engine).1 ∧
      (Check.holds circumstances stored engine).2.Faithful := by
  cases stored with
  | none => exact ⟨.satisfied (fun ⟨_, _, same, _⟩ => nomatch same) nofun, faithful⟩
  | some text =>
    show Result _ _ (isSatisfiedText text circumstances engine).1 ∧
      (isSatisfiedText text circumstances engine).2.Faithful
    unfold isSatisfiedText
    cases readable : ofText? text with
    | none =>
      refine ⟨.unsatisfied (fun ⟨other, condition, same, read, _⟩ => ?_) fun holds => ?_, faithful⟩
      · rw [← Option.some.inj same, readable] at read
        cases read
      · obtain ⟨condition, read, _⟩ := holds text rfl
        rw [readable] at read
        cases read
    | some condition =>
      have holds : StoredHolds (some text) circumstances ↔ condition.Holds circumstances := by
        constructor
        · intro holds
          obtain ⟨other, read, holds⟩ := holds text rfl
          rwa [Option.some.inj (readable.symm.trans read)]
        · intro holds other same
          exact ⟨condition, Option.some.inj same ▸ readable, holds⟩
      have breaks : StoredBreaks (some text) circumstances ↔ condition.Breaks circumstances := by
        constructor
        · rintro ⟨written, other, same, read, breaks⟩
          rw [← Option.some.inj same, readable] at read
          rwa [Option.some.inj read]
        · exact fun breaks => ⟨text, condition, rfl, readable, breaks⟩
      rw [holds, breaks]
      exact isSatisfied_faithful faithful condition circumstances

end Condition

end AccessControl

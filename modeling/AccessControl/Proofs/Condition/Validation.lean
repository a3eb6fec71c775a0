/-
**The check of an expression before it is used, against its use.**

* `Condition.Reaches` — an evaluation gets as far as the expression: no value is lacking, and the
  text is not blank.
* `Condition.validateExpression_eq`, `Condition.evaluate_ends` — the check compiles the text without
  its blank ends, and so does an evaluation that gets there, whatever the engine has kept. No
  program that runs reports a failed compilation (`Expression.Term.answer_ne_compilation`).
* `Condition.validation_foretells` — **the check fails exactly for the conditions whose expression
  cannot be compiled when it is reached**, after any use of the engine.
-/

import AccessControl.Proofs.Condition.Evaluation

namespace AccessControl

open Expression (Engine ExpressionError Facts Term compiled verdict)
open Effect (inTurn)

/-! ### Compiling -/

namespace Expression

variable {text : String} {facts : Facts} {cause : ExpressionError}

/-- A text that is no program has one cause of failure. -/
theorem compiled_error (fails : compiled text = .error cause) : cause = .compilation := by
  unfold compiled at fails
  generalize Term.ofText text = read at fails
  cases read with
  | value program => cases fails
  | error refusal => exact (Ending.error.inj fails).symm
  | broken => cases fails

theorem Term.answer_ne_compilation (program : Term) (facts : Facts) :
    program.answer facts ≠ .error .compilation := by
  intro fails
  unfold Term.answer answerOf at fails
  split at fails <;> cases fails

/-- An answer fails to compile exactly when the text is no program. -/
theorem verdict_eq_compilation_iff :
    verdict text facts = .error .compilation ↔ compiled text = .error .compilation := by
  unfold verdict
  cases compiled text with
  | value program =>
    refine iff_of_false (fun fails => program.answer_ne_compilation facts ?_) nofun
    change Ending.ofExcept (program.answer facts) = .error .compilation at fails
    cases answers : program.answer facts with
    | ok answer =>
      rw [answers] at fails
      cases fails
    | error cause =>
      rw [answers] at fails
      exact congrArg Except.error (Ending.error.inj fails)
  | error cause =>
    exact ⟨fun fails => congrArg Ending.error (Ending.error.inj fails),
      fun fails => congrArg Ending.error (Ending.error.inj fails)⟩
  | broken => exact iff_of_false nofun nofun

end Expression

namespace Condition

variable {condition : Condition} {circumstances : Circumstances} {engine : Engine}
  {source text : String} {cause : Error}

/-! ### The check -/

theorem validateExpression_eq (written : condition.source? = some source) :
    condition.validateExpression =
      ((compiled source).mapError fun _ => Error.invalidExpression).map fun _ => () := by
  unfold validateExpression
  rw [written]

/-- The check fails for an expression that is no program. -/
theorem validateExpression_error_iff (written : condition.source? = some source) :
    (∃ cause, condition.validateExpression = .error cause) ↔
      compiled source = .error .compilation := by
  rw [validateExpression_eq written]
  cases compiles : compiled source with
  | value program => exact iff_of_false (fun ⟨_, fails⟩ => by cases fails) nofun
  | error cause =>
    rw [Expression.compiled_error compiles]
    exact iff_of_true ⟨_, rfl⟩ rfl
  | broken => exact iff_of_false (fun ⟨_, fails⟩ => by cases fails) nofun

/-- The check is broken off where the compilation is. -/
theorem validateExpression_broken_iff (written : condition.source? = some source) :
    condition.validateExpression = .broken ↔ compiled source = .broken := by
  rw [validateExpression_eq written]
  cases compiled source with
  | value program => exact iff_of_false nofun nofun
  | error cause => exact iff_of_false nofun nofun
  | broken => exact iff_of_true rfl rfl

/-- **A check that fails found an expression that is no program**, and says that it is not valid. -/
theorem validateExpression_fails (fails : condition.validateExpression = .error cause) :
    cause = .invalidExpression ∧
      ∃ source, condition.source? = some source ∧ compiled source = .error .compilation := by
  cases written : condition.source? with
  | none =>
    unfold validateExpression at fails
    rw [written] at fails
    cases fails
  | some source =>
    have refused := (validateExpression_error_iff written).mp ⟨cause, fails⟩
    rw [validateExpression_eq written, refused] at fails
    exact ⟨(Ending.error.inj fails).symm, source, rfl, refused⟩

/-! ### The use -/

/-- An evaluation gets as far as the expression: nothing is lacking, and the text is not blank. -/
structure Reaches (condition : Condition) (circumstances : Circumstances) (text : String) :
    Prop where
  served : ¬ condition.Lacks circumstances
  written : condition.expression = some text
  solid : (Text.trim text).isEmpty = false

theorem Reaches.source?_eq (reaches : condition.Reaches circumstances text) :
    condition.source? = some (Text.trim text) :=
  source?_of_solid reaches.written reaches.solid

/-- An evaluation that does not get as far as an expression ends with an answer. -/
theorem evaluate_unreached (unreached : ∀ text, ¬ condition.Reaches circumstances text) :
    ∃ answer, condition.evaluate circumstances = pure answer := by
  by_cases lacks : condition.Lacks circumstances
  · exact ⟨false, evaluate_of_lacks lacks⟩
  · refine ⟨true, evaluate_of_blank lacks (source?_of_blank fun text written => ?_)⟩
    by_contra solid
    exact unreached text ⟨lacks, written, Bool.eq_false_iff.mpr solid⟩

/-- **What is reached fails to compile exactly where the check fails.** -/
theorem Reaches.evaluate_compilation_iff (reaches : condition.Reaches circumstances text)
    (faithful : engine.Faithful) :
    (condition.evaluate circumstances engine).1 =
        .error (.noAnswer (Text.trim text) .compilation) ↔
      ∃ cause, condition.validateExpression = .error cause := by
  have same : verdict (Text.trim text) circumstances.facts = .error .compilation ↔
      compiled (Text.trim text) = .error .compilation := Expression.verdict_eq_compilation_iff
  rw [evaluate_ends faithful reaches.served reaches.source?_eq,
    validateExpression_error_iff reaches.source?_eq, ← same]
  cases verdict (Text.trim text) circumstances.facts with
  | value answer => exact iff_of_false nofun nofun
  | error cause =>
    constructor
    · intro fails
      rw [(Error.noAnswer.inj (Ending.error.inj fails)).2]
    · intro fails
      rw [Ending.error.inj fails]
      rfl
  | broken => exact iff_of_false nofun nofun

/-- **What is reached is broken off exactly where the check is.** -/
theorem Reaches.evaluate_broken_iff (reaches : condition.Reaches circumstances text)
    (faithful : engine.Faithful) :
    (condition.evaluate circumstances engine).1 = .broken ↔
      condition.validateExpression = .broken := by
  have same : verdict (Text.trim text) circumstances.facts = .broken ↔
      compiled (Text.trim text) = .broken := verdict_eq_broken_iff
  rw [evaluate_ends faithful reaches.served reaches.source?_eq,
    validateExpression_broken_iff reaches.source?_eq, ← same]
  cases verdict (Text.trim text) circumstances.facts with
  | value answer => exact iff_of_false nofun nofun
  | error cause => exact iff_of_false nofun nofun
  | broken => exact iff_of_true rfl rfl

/-- A failed compilation is reported of the text that was reached. -/
theorem reaches_of_compilation (faithful : engine.Faithful)
    (fails : (condition.evaluate circumstances engine).1 = .error (.noAnswer source .compilation)) :
    ∃ text, condition.Reaches circumstances text ∧ source = Text.trim text := by
  by_contra other
  by_cases reached : ∃ text, condition.Reaches circumstances text
  · obtain ⟨text, reaches⟩ := reached
    refine other ⟨text, reaches, ?_⟩
    rw [evaluate_ends faithful reaches.served reaches.source?_eq] at fails
    cases answers : verdict (Text.trim text) circumstances.facts with
    | value answer =>
      rw [answers] at fails
      cases fails
    | error cause =>
      rw [answers] at fails
      exact (Error.noAnswer.inj (Ending.error.inj fails)).1.symm
    | broken =>
      rw [answers] at fails
      cases fails
  · obtain ⟨answer, same⟩ := evaluate_unreached fun text reaches => reached ⟨text, reaches⟩
    rw [same] at fails
    cases fails

theorem reaches_of_broken (breaks : (condition.evaluate circumstances engine).1 = .broken) :
    ∃ text, condition.Reaches circumstances text := by
  by_contra unreached
  obtain ⟨answer, same⟩ := evaluate_unreached fun text reaches => unreached ⟨text, reaches⟩
  rw [same] at breaks
  cases breaks

/-- **An expression that is no program is satisfied by nothing.** -/
theorem isSatisfied_of_invalid (faithful : engine.Faithful)
    (fails : condition.validateExpression = .error cause) (circumstances : Circumstances) :
    (condition.isSatisfied circumstances engine).1 = .value false := by
  obtain ⟨-, source, written, refused⟩ := validateExpression_fails fails
  obtain ⟨result, -⟩ := isSatisfied_faithful faithful condition circumstances
  generalize (condition.isSatisfied circumstances engine).1 = ending at result
  cases result with
  | broken breaks =>
    obtain ⟨-, other, same, broken⟩ := breaks
    rw [Option.some.inj (same.symm.trans written), refused] at broken
    cases broken
  | satisfied _ holds =>
    obtain ⟨program, compiles, -⟩ := holds.2 source written
    rw [refused] at compiles
    cases compiles
  | unsatisfied => rfl

/-- **The check of an expression agrees with its use.** Let an engine have been asked anything
before. A condition that the check refuses is then satisfied in no circumstances. One that it lets
pass fails in none for its compilation, and is never broken off. And wherever an evaluation gets as
far as the expression, it fails to compile exactly if the check fails, and is broken off exactly if
the check is. -/
theorem validation_foretells (keeps : Bool) (steps : List Engine.Step) (condition : Condition) :
    let engine := (inTurn (steps.map Engine.ask) (.fresh keeps)).2
    (∀ cause, condition.validateExpression = .error cause →
      cause.category = .validation ∧
        ∀ circumstances, (condition.isSatisfied circumstances engine).1 = .value false) ∧
    (condition.validateExpression = .value () → ∀ circumstances,
      (condition.evaluate circumstances engine).1 ≠ .broken ∧
        ∀ source, (condition.evaluate circumstances engine).1 ≠
          .error (.noAnswer source .compilation)) ∧
    ∀ circumstances text, condition.Reaches circumstances text →
      ((condition.evaluate circumstances engine).1 =
          .error (.noAnswer (Text.trim text) .compilation) ↔
        ∃ cause, condition.validateExpression = .error cause) ∧
      ((condition.evaluate circumstances engine).1 = .broken ↔
        condition.validateExpression = .broken) := by
  intro engine
  have faithful : engine.Faithful := (Engine.caches_after keeps steps).faithful
  refine ⟨fun cause fails => ⟨?_, isSatisfied_of_invalid faithful fails⟩,
    fun passes circumstances => ⟨fun breaks => ?_, fun source fails => ?_⟩,
    fun circumstances text reaches => ⟨reaches.evaluate_compilation_iff faithful,
      reaches.evaluate_broken_iff faithful⟩⟩
  · obtain ⟨rfl, -⟩ := validateExpression_fails fails
    rfl
  · obtain ⟨text, reaches⟩ := reaches_of_broken breaks
    have also := (reaches.evaluate_broken_iff faithful).mp breaks
    cases passes.symm.trans also
  · obtain ⟨text, reaches, rfl⟩ := reaches_of_compilation faithful fails
    obtain ⟨cause, also⟩ := (reaches.evaluate_compilation_iff faithful).mp fails
    cases passes.symm.trans also

/-- After some use of the engine, a text that is no expression is refused and never satisfied, one
that is an expression passes and is answered, and a number that is too large breaks off the check
and the use. -/
theorem validation_foretells_texts :
    let asking (text : String) : Condition := { expression := some text }
    let steps : List Engine.Step :=
      [.compile "(((", .compile "user.level > 3", .clear, .compile "user.level > 3"]
    let engine := (inTurn (steps.map Engine.ask) (.fresh true)).2
    let nobody : Circumstances := ⟨.empty, .empty, .empty, .ordered⟩
    engine.size = 1 ∧
      (asking "(((").validateExpression = .error .invalidExpression ∧
      ((asking "(((").isSatisfied nobody engine).1 = .value false ∧
      (asking " user.level > 3 ").validateExpression = .value () ∧
      ((asking " user.level > 3 ").evaluate nobody engine).1 ≠ .broken ∧
      (asking "9223372036854775808 == 0").Reaches nobody "9223372036854775808 == 0" ∧
      ((asking "9223372036854775808 == 0").evaluate nobody engine).1 = .broken := by
  intro asking steps engine nobody
  have foretold (text : String) := validation_foretells true steps (asking text)
  have refused : (asking "(((").validateExpression = .error .invalidExpression := by
    decide +kernel
  have passes : (asking " user.level > 3 ").validateExpression = .value () := by
    decide +kernel
  have breaks : (asking "9223372036854775808 == 0").validateExpression = .broken := by
    decide +kernel
  have reaches : (asking "9223372036854775808 == 0").Reaches nobody "9223372036854775808 == 0" :=
    ⟨valuesAgree_iff_served.mp rfl, rfl, by decide +kernel⟩
  refine ⟨by decide +kernel, refused, ?_, passes, ?_, reaches, ?_⟩
  · obtain ⟨-, unsatisfied⟩ := (foretold "(((").1 _ refused
    exact unsatisfied nobody
  · obtain ⟨returns, -⟩ := (foretold " user.level > 3 ").2.1 passes nobody
    exact returns
  · obtain ⟨-, broken⟩ := (foretold "9223372036854775808 == 0").2.2 nobody _ reaches
    exact broken.mpr breaks

end Condition

end AccessControl

/-
**What evaluating a condition comes to.**

* `AttributeValue.Matches` — two values of one type that are equal in it.
* `Condition.Lacks` — a required value is missing from its own source, or another one is there.
* `Condition.evaluate_of_lacks`, `Condition.evaluate_of_blank`, `Condition.evaluate_of_solid` — the
  three ways of an evaluation: no, yes, or what the expression answers.
* `Condition.Adds`, `Condition.Adds.lacks` — one clause more, on a key that was not required, lacks
  whatever was lacking.
* `Condition.evaluation_decided` — **every ending of an evaluation, what it leaves of the engine,
  and that a further clause can only turn a yes into a no.**
-/

import AccessControl.Proofs.Condition
import AccessControl.Proofs.Expression.Cache

namespace AccessControl

open Expression (Engine Facts Term compiled verdict)

/-! ### Values that match -/

/-- Two values have the same type and are equal in it. -/
inductive AttributeValue.Matches : AttributeValue → AttributeValue → Prop where
  | boolean {value : Bool} : Matches (.boolean value) (.boolean value)
  | integer {value : Int64} : Matches (.integer value) (.integer value)
  | float {first second : Float} (equal : (first == second) = true) :
      Matches (.float first) (.float second)
  | string {value : String} : Matches (.string value) (.string value)

theorem AttributeValue.beq_iff {first second : AttributeValue} :
    (first == second) = true ↔ first.Matches second := by
  constructor
  · intro equal
    cases first with
    | boolean value =>
      cases second with
      | boolean other =>
        obtain rfl : value = other := eq_of_beq (α := Bool) equal
        exact .boolean
      | _ => cases equal
    | integer value =>
      cases second with
      | integer other =>
        obtain rfl : value = other := eq_of_beq (α := Int64) equal
        exact .integer
      | _ => cases equal
    | float value =>
      cases second with
      | float other => exact .float equal
      | _ => cases equal
    | string value =>
      cases second with
      | string other =>
        obtain rfl : value = other := eq_of_beq (α := String) equal
        exact .string
      | _ => cases equal
  · intro same
    cases same with
    | boolean => exact BEq.rfl (α := Bool)
    | integer => exact BEq.rfl (α := Int64)
    | float equal => exact equal
    | string => exact BEq.rfl (α := String)

/-- Under some key a value is required that the actual values do not have. -/
def AttributeMap.Lacks (required actual : AttributeMap) : Prop :=
  ∃ key value, required.find? key = some value ∧
    ∀ found, actual.find? key = some found → ¬ found.Matches value

theorem AttributeMap.agrees_iff {required actual : AttributeMap} :
    required.Agrees actual ↔ ¬ required.Lacks actual := by
  constructor
  · rintro agrees ⟨key, value, required, missing⟩
    obtain ⟨found, there, same⟩ := agrees key value required
    exact missing found there (AttributeValue.beq_iff.mp same)
  · intro served key value required
    by_contra absent
    refine served ⟨key, value, required, fun found there same => ?_⟩
    exact absent ⟨found, there, AttributeValue.beq_iff.mpr same⟩

/-- What was lacking still is when a value is required under a new key. -/
theorem AttributeMap.Lacks.insert {required actual : AttributeMap} (lacks : required.Lacks actual)
    {key : String} (new : required.find? key = none) (value : AttributeValue) :
    AttributeMap.Lacks (required.insert key value) actual := by
  obtain ⟨other, content, demanded, missing⟩ := lacks
  refine ⟨other, content, ?_, missing⟩
  have apart : other ≠ key := by
    rintro rfl
    cases new.symm.trans demanded
  rw [Dictionary.find?_insert, if_neg apart]
  exact demanded

namespace Condition

variable {condition more : Condition} {circumstances : Circumstances} {engine : Engine}
  {source : String}

/-! ### Required values -/

/-- A required value is missing from its own source, or another one is there. -/
inductive Lacks (condition : Condition) (circumstances : Circumstances) : Prop where
  | resource (lacks : condition.resource.Lacks circumstances.resource)
  | user (lacks : condition.user.Lacks circumstances.user)
  | environment (lacks : condition.environment.Lacks circumstances.environment)

theorem valuesAgree_iff_served :
    condition.valuesAgree circumstances = true ↔ ¬ condition.Lacks circumstances := by
  rw [valuesAgree_iff]
  constructor
  · intro agrees lacks
    cases lacks with
    | resource lacks => exact AttributeMap.agrees_iff.mp agrees.resource lacks
    | user lacks => exact AttributeMap.agrees_iff.mp agrees.user lacks
    | environment lacks => exact AttributeMap.agrees_iff.mp agrees.environment lacks
  · intro served
    exact
      { resource := AttributeMap.agrees_iff.mpr fun lacks => served (.resource lacks)
        user := AttributeMap.agrees_iff.mpr fun lacks => served (.user lacks)
        environment := AttributeMap.agrees_iff.mpr fun lacks => served (.environment lacks) }

/-- **Where something is lacking the answer is no**, and nothing else is done. -/
theorem evaluate_of_lacks (lacks : condition.Lacks circumstances) :
    condition.evaluate circumstances = pure false := by
  unfold evaluate
  rw [if_neg fun agree => valuesAgree_iff_served.mp agree lacks]

theorem source?_of_solid {text : String} (written : condition.expression = some text)
    (solid : (Text.trim text).isEmpty = false) : condition.source? = some (Text.trim text) := by
  unfold source?
  rw [written]
  exact if_neg (Bool.eq_false_iff.mp solid)

/-- No expression counts where all that is written is blank. -/
theorem source?_of_blank
    (blank : ∀ text, condition.expression = some text → (Text.trim text).isEmpty = true) :
    condition.source? = none := by
  unfold source?
  cases written : condition.expression with
  | none => rfl
  | some text => exact if_pos (blank text written)

/-- **Where nothing is lacking and no expression counts, the answer is yes.** -/
theorem evaluate_of_blank (served : ¬ condition.Lacks circumstances)
    (blank : condition.source? = none) : condition.evaluate circumstances = pure true := by
  unfold evaluate
  rw [if_pos (valuesAgree_iff_served.mpr served), blank]

/-- **Where nothing is lacking the expression is asked.** -/
theorem evaluate_of_solid (served : ¬ condition.Lacks circumstances)
    (written : condition.source? = some source) :
    condition.evaluate circumstances =
      (Engine.answer source circumstances.facts).mapError (.noAnswer source) := by
  unfold evaluate
  rw [if_pos (valuesAgree_iff_served.mpr served), written]

/-! ### What the expression answers -/

theorem evaluate_leaves (served : ¬ condition.Lacks circumstances)
    (written : condition.source? = some source) (engine : Engine) :
    (condition.evaluate circumstances engine).2 = (Engine.compile source engine).2 := by
  rw [evaluate_of_solid served written]
  show (Engine.answer source circumstances.facts engine).2 = _
  exact Engine.state_of_bind (fun _ _ => rfl) engine

theorem evaluate_ends (faithful : engine.Faithful) (served : ¬ condition.Lacks circumstances)
    (written : condition.source? = some source) :
    (condition.evaluate circumstances engine).1 =
      (verdict source circumstances.facts).mapError (.noAnswer source) := by
  rw [evaluate_of_solid served written, ← (Engine.answer_faithful faithful _ _).1]
  rfl

theorem verdict_of_boolean {facts : Facts} {program : Term} {answer : Bool}
    (compiles : compiled source = .value program)
    (comes : (program.evaluate facts.bindings).outcome facts.visits = .ok (.bool answer)) :
    verdict source facts = .value answer := by
  unfold verdict Term.answer
  rw [compiles]
  show Ending.ofExcept
    (Expression.answerOf ((program.evaluate facts.bindings).outcome facts.visits)) = _
  rw [comes]
  rfl

/-- A text that is no program, and a program that comes to anything else, give no answer. -/
theorem verdict_of_other {facts : Facts} (returns : compiled source ≠ .broken)
    (other : ∀ program answer, compiled source = .value program →
      (program.evaluate facts.bindings).outcome facts.visits ≠ .ok (.bool answer)) :
    ∃ cause, verdict source facts = .error cause := by
  unfold verdict Term.answer
  cases compiles : compiled source with
  | broken => exact absurd compiles returns
  | error cause => exact ⟨cause, rfl⟩
  | value program =>
    have other := other program
    show ∃ cause, Ending.ofExcept
      (Expression.answerOf ((program.evaluate facts.bindings).outcome facts.visits)) = .error cause
    cases comes : (program.evaluate facts.bindings).outcome facts.visits with
    | error failure => exact ⟨.evaluation failure, rfl⟩
    | ok value =>
      cases value with
      | bool answer => exact absurd comes (other answer compiles)
      | _ => exact ⟨.nonBoolean, rfl⟩

theorem isSatisfied_eq_true_iff :
    (condition.isSatisfied circumstances engine).1 = .value true ↔
      (condition.evaluate circumstances engine).1 = .value true := by
  unfold isSatisfied Effect.recover
  generalize condition.evaluate circumstances engine = run
  obtain ⟨_ | _ | _, after⟩ := run <;> simp

/-! ### One clause more -/

/-- A condition with one more clause, on a key that was not required of that source. -/
inductive Adds (condition : Condition) : Condition → Prop where
  | resource {key : String} {value : AttributeValue} (new : condition.resource.find? key = none) :
      Adds condition (condition.requireResource key value)
  | user {key : String} {value : AttributeValue} (new : condition.user.find? key = none) :
      Adds condition (condition.requireUser key value)
  | environment {key : String} {value : AttributeValue}
      (new : condition.environment.find? key = none) :
      Adds condition (condition.requireEnvironment key value)

/-- **A further clause lacks whatever was lacking.** -/
theorem Adds.lacks (adds : condition.Adds more) (lacks : condition.Lacks circumstances) :
    more.Lacks circumstances := by
  cases adds with
  | resource new =>
    cases lacks with
    | resource lacks => exact .resource (lacks.insert new _)
    | user lacks => exact .user lacks
    | environment lacks => exact .environment lacks
  | user new =>
    cases lacks with
    | resource lacks => exact .resource lacks
    | user lacks => exact .user (lacks.insert new _)
    | environment lacks => exact .environment lacks
  | environment new =>
    cases lacks with
    | resource lacks => exact .resource lacks
    | user lacks => exact .user lacks
    | environment lacks => exact .environment (lacks.insert new _)

theorem Adds.source?_eq (adds : condition.Adds more) : more.source? = condition.source? := by
  cases adds <;> rfl

/-- **A further clause changes nothing or makes the answer no.** -/
theorem Adds.evaluate (adds : condition.Adds more) (circumstances : Circumstances) :
    more.evaluate circumstances = condition.evaluate circumstances ∨
      more.evaluate circumstances = pure false := by
  by_cases lacks : more.Lacks circumstances
  · exact .inr (evaluate_of_lacks lacks)
  · have served : ¬ condition.Lacks circumstances := fun before => lacks (adds.lacks before)
    left
    cases written : condition.source? with
    | none =>
      rw [evaluate_of_blank served written, evaluate_of_blank lacks (adds.source?_eq.trans written)]
    | some source =>
      rw [evaluate_of_solid served written, evaluate_of_solid lacks (adds.source?_eq.trans written)]

/-- **How an evaluation ends, and what it leaves.** If a required value is lacking, the answer is no
and nothing is compiled; if not, it is yes where the expression is absent or blank. Any other
expression is compiled without its blank ends and asked about the three maps: a boolean is the
answer, and everything else that follows on a compilation which returns is an error of evaluation.
What is satisfied are the conditions answered yes, and a clause on a new key can only turn a yes
into a no. -/
theorem evaluation_decided (faithful : engine.Faithful) (condition : Condition)
    (circumstances : Circumstances) :
    (condition.Lacks circumstances → condition.evaluate circumstances = pure false) ∧
    (¬ condition.Lacks circumstances →
      ((∀ text, condition.expression = some text → (Text.trim text).isEmpty = true) →
        condition.evaluate circumstances = pure true) ∧
      ∀ text, condition.expression = some text → (Text.trim text).isEmpty = false →
        let source := Text.trim text
        let outcome (program : Term) := (program.evaluate
          [("user", .ofDocument [0] circumstances.user.document),
            ("resource", .ofDocument [1] circumstances.resource.document),
            ("env", .ofDocument [2] circumstances.environment.document)]).outcome
          circumstances.visits
        let run := condition.evaluate circumstances engine
        run.2 = (Engine.compile source engine).2 ∧
        (∀ program answer, compiled source = .value program →
          outcome program = .ok (.bool answer) → run.1 = .value answer) ∧
        (compiled source ≠ .broken →
          (∀ program answer, compiled source = .value program →
            outcome program ≠ .ok (.bool answer)) →
          ∃ cause : Error, cause.category = .evaluation ∧ run.1 = .error cause) ∧
        (compiled source = .broken → run.1 = .broken)) ∧
    ((condition.isSatisfied circumstances engine).1 = .value true ↔
      (condition.evaluate circumstances engine).1 = .value true) ∧
    ∀ more, condition.Adds more →
      (more.evaluate circumstances = condition.evaluate circumstances ∨
        more.evaluate circumstances = pure false) ∧
      ((more.isSatisfied circumstances engine).1 = .value true →
        (condition.isSatisfied circumstances engine).1 = .value true) := by
  refine ⟨evaluate_of_lacks, fun served => ⟨fun blank => ?_, ?_⟩, isSatisfied_eq_true_iff, ?_⟩
  · exact evaluate_of_blank served (source?_of_blank blank)
  · intro text expression solid source outcome run
    have written : condition.source? = some source := source?_of_solid expression solid
    have ends : run.1 =
        (verdict source circumstances.facts).mapError (.noAnswer source) :=
      evaluate_ends faithful served written
    refine ⟨evaluate_leaves served written engine, ?_, ?_, fun breaks => ?_⟩
    · intro program answer compiles comes
      have comes : (program.evaluate circumstances.facts.bindings).outcome
            circumstances.visits = .ok (.bool answer) :=
        comes
      rw [ends, verdict_of_boolean compiles comes]
      rfl
    · intro returns other
      have other : ∀ program answer, compiled source = .value program →
          (program.evaluate circumstances.facts.bindings).outcome
            circumstances.visits ≠ .ok (.bool answer) := other
      obtain ⟨cause, failed⟩ := verdict_of_other returns other
      rw [ends, failed]
      exact ⟨.noAnswer source cause, rfl, rfl⟩
    · rw [ends, verdict_eq_broken_iff.mpr breaks]
      rfl
  · intro more adds
    have either := adds.evaluate circumstances
    refine ⟨either, fun satisfied => ?_⟩
    rw [isSatisfied_eq_true_iff] at satisfied ⊢
    rcases either with same | no
    · rw [← same]
      exact satisfied
    · rw [no] at satisfied
      cases satisfied

/-- Without the level that is required the answer is no, whatever else is written; with it a text
that is no expression is an error, an expression is asked, and a blank one is not. -/
theorem evaluation_decided_level :
    let senior (text : String) : Condition :=
      requireUser { expression := some text } "level" (.integer 5)
    let nobody : Circumstances := ⟨.empty, .empty, .empty, .ordered⟩
    let somebody : Circumstances := { nobody with
      user := Dictionary.empty.insert "level" (.integer 5) }
    (Engine.fresh true).Faithful ∧
      (senior "(((").evaluate nobody (.fresh true) = (.value false, .fresh true) ∧
      (∃ cause : Error, cause.category = .evaluation ∧
        ((senior "(((").evaluate somebody (.fresh true)).1 = .error cause) ∧
      ((senior " user.level > 3 ").evaluate somebody (.fresh true)).1 = .value true ∧
      (senior " ").evaluate somebody (.fresh true) = (.value true, .fresh true) := by
  intro senior nobody somebody
  have faithful := Engine.faithful_fresh true
  have lacks (text : String) : (senior text).Lacks nobody := by
    refine .user ⟨"level", .integer 5, rfl, fun found there => ?_⟩
    cases there
  have served (text : String) : ¬ (senior text).Lacks somebody :=
    valuesAgree_iff_served.mp rfl
  have decided (text : String) := evaluation_decided faithful (senior text) somebody
  have no := (evaluation_decided faithful (senior "(((") nobody).1 (lacks "(((")
  obtain ⟨-, -, failing, -⟩ := ((decided "(((").2.1 (served _)).2 "(((" rfl (by decide)
  obtain ⟨-, answering, -⟩ := ((decided " user.level > 3 ").2.1 (served _)).2 _ rfl (by decide)
  have yes := ((decided " ").2.1 (served _)).1 fun text written => Option.some.inj written ▸ rfl
  refine ⟨faithful, congrFun no _, failing nofun nofun, ?_, congrFun yes _⟩
  exact answering
    (.relation .greater (.select (.name "user") "level") (.atom (.int 3))) true rfl rfl

end Condition

end AccessControl

/-
**The programs that an expression engine keeps over a run.**

* `Engine.Step`, `Engine.ask` — what an engine can be asked: to compile a text, to answer an
  expression for some facts, to forget its programs.
* `Engine.ask_fresh` — **each step of a run is answered as by a fresh engine that keeps nothing.**
* `Engine.textsSince` — the texts that were to be compiled since the last forgetting;
  `Engine.Caches` — exactly those of them that compile are kept, each once and under its own text,
  so that the engine is a faithful one (`Engine.Caches.faithful`).
* `Engine.caches_after` — **this is what an engine keeps after any run**; one that is not to keep
  programs keeps none.
-/

import AccessControl.Proofs.Alike
import AccessControl.Proofs.Expression.Engine

namespace AccessControl.Expression.Engine

open Effect

/-- What an engine can be asked. -/
inductive Step where
  | compile (text : String)
  | answer (text : String) (facts : Facts)
  | clear

/-- What comes back. -/
inductive Reply where
  | program (program : Term)
  | answer (holds : Bool)
  | done

def ask : Step → Effect ExpressionError Engine Reply
  | .compile text => do
    let program ← compile text
    pure (.program program)
  | .answer text facts => do
    let holds ← answer text facts
    pure (.answer holds)
  | .clear => do
    Effect.modify cleared
    pure .done

/-! ### Answers -/

/-- Two engines whose programs are all kept under their own texts. -/
def BothFaithful (first second : Engine) : Prop := first.Faithful ∧ second.Faithful

theorem compile_alike (text : String) : Alike BothFaithful (compile text) (compile text) := by
  intro first second ⟨one, two⟩
  obtain ⟨same, still⟩ := compile_faithful one text
  obtain ⟨also, stays⟩ := compile_faithful two text
  exact ⟨same.trans also.symm, still, stays⟩

theorem answer_alike (text : String) (facts : Facts) :
    Alike BothFaithful (answer text facts) (answer text facts) :=
  alike_bind (compile_alike text) fun _ _ _ both => ⟨rfl, both⟩

/-- **What faithful engines keep does not show in a step.** -/
theorem ask_alike (step : Step) : Alike BothFaithful (ask step) (ask step) := by
  cases step with
  | compile text => exact alike_bind (compile_alike text) fun _ => alike_pure _
  | answer text facts => exact alike_bind (answer_alike text facts) fun _ => alike_pure _
  | clear => exact fun first second _ => ⟨rfl, faithful_cleared first, faithful_cleared second⟩

/-- **Each step of a run is answered as by a fresh engine that keeps nothing.** -/
theorem ask_fresh {engine : Engine} (faithful : engine.Faithful) (steps : List Step) :
    (inTurn (steps.map ask) engine).1 = steps.map fun step => (ask step (.fresh false)).1 := by
  induction steps generalizing engine with
  | nil => rfl
  | cons step rest ih =>
    obtain ⟨same, -⟩ := ask_alike step engine (.fresh false) ⟨faithful, faithful_fresh false⟩
    obtain ⟨-, still, -⟩ := ask_alike step engine engine ⟨faithful, faithful⟩
    rw [List.map_cons, List.map_cons, inTurn, same, ih still]

/-! ### Programs -/

/-- The texts that were to be compiled since the last forgetting, before and in a step. -/
def Step.since (texts : List String) : Step → List String
  | .compile text => text :: texts
  | .answer text _ => text :: texts
  | .clear => []

/-- The texts that some steps were to compile since the last forgetting. -/
def textsSince (steps : List Step) : List String := steps.foldl Step.since []

/-- If programs are to be kept, an engine keeps those of some texts that compile, each once and
under its own text, and nothing else; otherwise it keeps nothing. -/
structure Caches (keeps : Bool) (texts : List String) (engine : Engine) : Prop where
  switch : engine.keeps = keeps
  distinct : (engine.programs.map Prod.fst).Nodup
  exact : ∀ text program, (text, program) ∈ engine.programs ↔
    keeps = true ∧ text ∈ texts ∧ compiled text = .value program

variable {keeps : Bool} {texts : List String} {engine : Engine}

theorem Caches.faithful (caches : Caches keeps texts engine) : engine.Faithful := by
  intro text program found
  obtain ⟨front, rest, place, -⟩ := List.lookup_eq_some_iff.mp found
  have kept : (text, program) ∈ engine.programs := by rw [place]; simp
  obtain ⟨-, -, compiles⟩ := (caches.exact text program).mp kept
  exact compiles

/-- The program of a text is looked up, or it is made and kept. -/
theorem compile_apply (text : String) (engine : Engine) :
    compile text engine =
      match engine.programs.lookup text with
      | some program => (.value program, engine)
      | none =>
        match compiled text with
        | .value program => (.value program, keep text program engine)
        | .error cause => (.error cause, engine)
        | .broken => (.broken, engine) := by
  unfold compile
  rw [reading_bind]
  cases engine.programs.lookup text with
  | some program => rfl
  | none => cases compiled text <;> rfl

/-- A text that does not compile adds nothing. -/
theorem Caches.failed (caches : Caches keeps texts engine) {text : String}
    (fails : ∀ program, compiled text ≠ .value program) : Caches keeps (text :: texts) engine where
  switch := caches.switch
  distinct := caches.distinct
  exact other program := by
    rw [caches.exact, List.mem_cons]
    refine and_congr_right fun _ => and_congr_left fun compiles => (or_iff_right ?_).symm
    rintro rfl
    exact fails program compiles

/-- A text whose program is kept adds nothing. -/
theorem Caches.known (caches : Caches keeps texts engine) {text : String} {program : Term}
    (found : engine.programs.lookup text = some program) : Caches keeps (text :: texts) engine where
  switch := caches.switch
  distinct := caches.distinct
  exact other content := by
    obtain ⟨front, rest, place, -⟩ := List.lookup_eq_some_iff.mp found
    have kept : (text, program) ∈ engine.programs := by rw [place]; simp
    have asked := ((caches.exact text program).mp kept).2.1
    rw [caches.exact, List.mem_cons]
    refine and_congr_right fun _ => and_congr_left fun _ => (or_iff_right_of_imp ?_).symm
    rintro rfl
    exact asked

/-- A new program is kept under its text, if programs are to be kept. -/
theorem Caches.keep (caches : Caches keeps texts engine) {text : String} {program : Term}
    (new : engine.programs.lookup text = none) (compiles : compiled text = .value program) :
    Caches keeps (text :: texts) (keep text program engine) := by
  have absent : text ∉ engine.programs.map Prod.fst := by
    intro member
    obtain ⟨entry, stored, rfl⟩ := List.mem_map.mp member
    simpa using List.lookup_eq_none_iff.mp new entry stored
  unfold Engine.keep
  rw [caches.switch]
  cases keeps with
  | true =>
    rw [if_pos rfl]
    refine ⟨rfl, List.nodup_cons.mpr ⟨absent, caches.distinct⟩, fun other content => ?_⟩
    rw [List.mem_cons, caches.exact, List.mem_cons, Prod.mk.injEq]
    constructor
    · rintro (⟨rfl, rfl⟩ | ⟨_, asked, also⟩)
      · exact ⟨rfl, .inl rfl, compiles⟩
      · exact ⟨rfl, .inr asked, also⟩
    · rintro ⟨_, rfl | asked, also⟩
      · exact .inl ⟨rfl, Ending.value.inj (also.symm.trans compiles)⟩
      · exact .inr ⟨rfl, asked, also⟩
  | false =>
    rw [if_neg nofun]
    refine ⟨caches.switch, caches.distinct, fun other content => ?_⟩
    rw [caches.exact]
    exact ⟨fun held => absurd held.1 nofun, fun held => absurd held.1 nofun⟩

/-- Compiling a text keeps its program, unless it does not compile or is kept already. -/
theorem Caches.compile (caches : Caches keeps texts engine) (text : String) :
    Caches keeps (text :: texts) (compile text engine).2 := by
  rw [compile_apply]
  cases found : engine.programs.lookup text with
  | some program => exact caches.known found
  | none =>
    cases compiles : compiled text with
    | value program => exact caches.keep found compiles
    | error cause => exact caches.failed fun program same => nomatch compiles.symm.trans same
    | broken => exact caches.failed fun program same => nomatch compiles.symm.trans same

/-- What is done with a program leaves the engine as compiling left it. -/
theorem state_of_bind {α β : Type} {first : Effect ExpressionError Engine α}
    {next : α → Effect ExpressionError Engine β}
    (still : ∀ result engine, (next result engine).2 = engine) (engine : Engine) :
    ((first >>= next) engine).2 = (first engine).2 := by
  rw [bind_apply]
  generalize first engine = run
  obtain ⟨result | _ | _, after⟩ := run
  · exact still result after
  · rfl
  · rfl

/-- A step keeps what it compiles, and a forgetting forgets it all. -/
theorem Caches.ask (caches : Caches keeps texts engine) (step : Step) :
    Caches keeps (step.since texts) (ask step engine).2 := by
  cases step with
  | compile text =>
    show Caches keeps (text :: texts) ((Engine.compile text >>= _) engine).2
    rw [state_of_bind fun _ _ => rfl]
    exact caches.compile text
  | answer text facts =>
    show Caches keeps (text :: texts) ((Engine.answer text facts >>= _) engine).2
    unfold Engine.answer
    rw [state_of_bind fun _ _ => rfl, state_of_bind fun _ _ => rfl]
    exact caches.compile text
  | clear =>
    refine ⟨caches.switch, .nil, fun text program => iff_of_false List.not_mem_nil ?_⟩
    exact fun held => List.not_mem_nil held.2.1

/-- **What an engine keeps after a run** are the programs of the texts since the last forgetting. -/
theorem caches_after (keeps : Bool) (steps : List Step) :
    Caches keeps (textsSince steps) (inTurn (steps.map Engine.ask) (.fresh keeps)).2 := by
  have run (steps : List Step) {texts : List String} {engine : Engine}
      (caches : Caches keeps texts engine) :
      Caches keeps (steps.foldl Step.since texts) (inTurn (steps.map Engine.ask) engine).2 := by
    induction steps generalizing texts engine with
    | nil => exact caches
    | cons step rest ih => exact ih (caches.ask step)
  refine run steps ⟨rfl, .nil, fun text program => iff_of_false List.not_mem_nil ?_⟩
  exact fun held => List.not_mem_nil held.2.1

end AccessControl.Expression.Engine

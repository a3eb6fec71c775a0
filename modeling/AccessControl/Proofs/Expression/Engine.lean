/-
**The programs that an expression engine keeps.**

* `Expression.verdict` — the answer of an expression by itself: its text is compiled and the program
  answers, whatever was kept.
* `Expression.Engine.Faithful` — every program that is kept is the program of its own text.
* `Expression.Engine.answer_faithful` — **what a faithful engine has kept does not show in its
  answers**, and it stays faithful, also when a text cannot be compiled or breaks the compilation
  off.
-/

import AccessControl.Proofs.Effect
import AccessControl.Expression.Engine

namespace AccessControl.Expression

/-- The answer of an expression for some facts, compiled anew. -/
def verdict (text : String) (facts : Facts) : Ending ExpressionError Bool :=
  (compiled text).bind fun program => .ofExcept (program.answer facts)

namespace Engine

/-- Every program is kept under its own text. -/
def Faithful (engine : Engine) : Prop :=
  ∀ text program, engine.programs.lookup text = some program → compiled text = .value program

theorem faithful_fresh (keeps : Bool) : (fresh keeps).Faithful := fun _ _ found => nomatch found

theorem faithful_cleared (engine : Engine) : engine.cleared.Faithful :=
  fun _ _ found => nomatch found

variable {engine : Engine} {text : String} {program : Term}

/-- A program that a text was just compiled to is kept faithfully. -/
theorem Faithful.keep (faithful : engine.Faithful) (compiles : compiled text = .value program) :
    (keep text program engine).Faithful := by
  unfold Engine.keep
  split
  · intro other found member
    rw [List.lookup_cons] at member
    split at member
    · rename_i same
      rw [eq_of_beq same, compiles, Option.some.inj member]
    · exact faithful other found member
  · exact faithful

/-- A faithful engine compiles as if nothing had been kept. -/
theorem compile_faithful (faithful : engine.Faithful) (text : String) :
    (compile text engine).1 = compiled text ∧ (compile text engine).2.Faithful := by
  unfold compile
  rw [Effect.reading_bind]
  cases known : engine.programs.lookup text with
  | some program => exact ⟨(faithful text program known).symm, faithful⟩
  | none =>
    cases compiles : compiled text with
    | value program => exact ⟨rfl, faithful.keep compiles⟩
    | error cause => exact ⟨rfl, faithful⟩
    | broken => exact ⟨rfl, faithful⟩

/-- **A faithful engine answers as if nothing had been kept.** -/
theorem answer_faithful (faithful : engine.Faithful) (text : String) (facts : Facts) :
    (answer text facts engine).1 = verdict text facts ∧ (answer text facts engine).2.Faithful := by
  obtain ⟨same, still⟩ := compile_faithful faithful text
  unfold answer verdict
  rw [Effect.bind_apply, ← same]
  generalize compile text engine = run at still ⊢
  obtain ⟨_ | _ | _, after⟩ := run <;> exact ⟨rfl, still⟩

end Engine

end AccessControl.Expression

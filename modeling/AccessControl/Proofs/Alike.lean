/-
**Two effects side by side.**

* `Effect.Alike` — from related states two effects end in the same way and leave related states. It
  passes from the parts of two effects to the whole, and from one step of two runs to the runs.
* `Effect.inTurn` — several effects one after the other, whatever each comes to;
  `Effect.inTurn_alike` — **two runs of alike effects cannot be told apart by what they come to.**
-/

import AccessControl.Proofs.Effect

namespace AccessControl.Effect

variable {ε σ τ α β : Type}

/-- From related states two effects end in the same way and leave related states. -/
def Alike (related : σ → τ → Prop) (first : Effect ε σ α) (second : Effect ε τ α) : Prop :=
  ∀ state other, related state other →
    (first state).1 = (second other).1 ∧ related (first state).2 (second other).2

variable {related : σ → τ → Prop}

theorem alike_pure (result : α) :
    Alike related (pure result : Effect ε σ α) (pure result : Effect ε τ α) :=
  fun _ _ holds => ⟨rfl, holds⟩

/-- **Two effects are alike whose parts are**, whether the second parts are reached or not. -/
theorem alike_bind {first : Effect ε σ α} {second : Effect ε τ α} {next : α → Effect ε σ β}
    {more : α → Effect ε τ β} (begun : Alike related first second)
    (continued : ∀ result, Alike related (next result) (more result)) :
    Alike related (first >>= next) (second >>= more) := by
  intro state other holds
  obtain ⟨same, still⟩ := begun state other holds
  rw [bind_apply, bind_apply]
  generalize first state = run at same still ⊢
  generalize second other = course at same still ⊢
  obtain ⟨ending, after⟩ := run
  obtain ⟨_, left⟩ := course
  subst same
  match ending with
  | .value result => exact continued result after left still
  | .error _ => exact ⟨rfl, still⟩
  | .broken => exact ⟨rfl, still⟩

section Halves

variable {ρ : Type} {relatedSecond : σ → τ → Prop}

theorem alike_onFirst (part : Effect ε ρ α) :
    Alike (fun (states : ρ × σ) (others : ρ × τ) =>
        states.1 = others.1 ∧ relatedSecond states.2 others.2)
      (onFirst part) (onFirst part) := by
  rintro ⟨state, beside⟩ ⟨_, other⟩ ⟨rfl, holds⟩
  exact ⟨rfl, rfl, holds⟩

/-- Alike effects on the second halves of two pairs that have the first half in common. -/
theorem alike_onSecond {part : Effect ε σ α} {other : Effect ε τ α}
    (alike : Alike relatedSecond part other) :
    Alike (fun (states : ρ × σ) (others : ρ × τ) =>
        states.1 = others.1 ∧ relatedSecond states.2 others.2)
      (onSecond part) (onSecond other) := by
  rintro ⟨state, beside⟩ ⟨_, across⟩ ⟨rfl, holds⟩
  obtain ⟨same, still⟩ := alike beside across holds
  exact ⟨same, rfl, still⟩

end Halves

/-! ### Runs -/

/-- Several effects one after the other, with what each came to. -/
def inTurn : List (Effect ε σ α) → σ → List (Ending ε α) × σ
  | [], state => ([], state)
  | first :: rest, state =>
    ((first state).1 :: (inTurn rest (first state).2).1, (inTurn rest (first state).2).2)

/-- **Two runs of alike effects come to the same and leave related states.** -/
theorem inTurn_alike {firsts : List (Effect ε σ α)} {seconds : List (Effect ε τ α)}
    (alike : List.Forall₂ (Alike related) firsts seconds) {state : σ} {other : τ}
    (holds : related state other) :
    (inTurn firsts state).1 = (inTurn seconds other).1 ∧
      related (inTurn firsts state).2 (inTurn seconds other).2 := by
  induction alike generalizing state other with
  | nil => exact ⟨rfl, holds⟩
  | cons head _ ih =>
    obtain ⟨same, still⟩ := head state other holds
    obtain ⟨rest, last⟩ := ih still
    exact ⟨congrArg₂ List.cons same rest, last⟩

end AccessControl.Effect

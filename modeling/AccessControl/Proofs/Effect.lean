/-
**What effects keep, and where they lead.**

* `Effect.bind_apply` and its neighbours — an effect run from a state, one step of it at a time.
* `Effect.Keeps` — whatever the ending is, a property of the state outlives the effect. It passes
  from the parts of an effect to the whole.
* `Effect.NeverFails` — the effect does not end with an error; neither does a whole of such parts.
* `Effect.Leads` — the effect is not broken off, an error leaves the state exactly as it was, and a
  value comes with a state in a given relation to it.
* `Effect.forEach_value_iff` — a loop over steps that only look ends with their results, if all of
  them have one.
-/

import AccessControl.Effect
import Mathlib.Data.List.Forall2

namespace AccessControl.Effect

variable {ε σ τ α β : Type}

/-! ### Running an effect -/

theorem bind_apply (first : Effect ε σ α) (next : α → Effect ε σ β) (state : σ) :
    (first >>= next) state =
      match first state with
      | (.value result, after) => next result after
      | (.error cause, after) => (.error cause, after)
      | (.broken, after) => (.broken, after) := rfl

instance : LawfulMonad (Effect ε σ) := LawfulMonad.mk' (Effect ε σ)
  (fun effect => by
    funext state
    show (effect >>= fun result => pure result) state = effect state
    rw [bind_apply]
    generalize effect state = run
    obtain ⟨_ | _ | _, _⟩ := run <;> rfl)
  (fun _ _ => rfl)
  (fun effect next last => by
    funext state
    rw [bind_apply, bind_apply, bind_apply]
    generalize effect state = run
    obtain ⟨_ | _ | _, _⟩ := run <;> rfl)

theorem map_apply (effect : Effect ε σ α) (change : α → β) (state : σ) :
    (effect >>= fun result => pure (change result)) state =
      ((effect state).1.map change, (effect state).2) := by
  rw [bind_apply]
  generalize effect state = run
  obtain ⟨_ | _ | _, _⟩ := run <;> rfl

theorem reading_bind (view : σ → α) (next : α → Effect ε σ β) (state : σ) :
    (reading view >>= next) state = next (view state) state := rfl

theorem ensure_bind (condition : Bool) (otherwise : ε) (next : Unit → Effect ε σ β) (state : σ) :
    (ensure condition otherwise >>= next) state =
      if condition then next () state else (.error otherwise, state) := by
  cases condition <;> rfl

section Passing

variable {state : σ} {ended : Ending ε β × σ}

theorem reading_bind_eq {view : σ → α} {next : α → Effect ε σ β}
    (rest : next (view state) state = ended) : (reading view >>= next) state = ended := rest

theorem ensure_bind_eq {condition : Bool} {otherwise : ε} {next : Unit → Effect ε σ β}
    (holds : condition = true) (rest : next () state = ended) :
    (ensure condition otherwise >>= next) state = ended := by
  rw [ensure_bind, if_pos holds, rest]

theorem require_bind_eq {content : Option α} {otherwise : ε} {next : α → Effect ε σ β} {result : α}
    (here : content = some result) (rest : next result state = ended) :
    (require content otherwise >>= next) state = ended := by
  rw [here]
  exact rest

end Passing

/-- The whole ends with a value where all its parts do. -/
theorem bind_value_iff {first : Effect ε σ α} {next : α → Effect ε σ β} {state : σ} {result : β} :
    ((first >>= next) state).1 = .value result ↔
      ∃ middle, (first state).1 = .value middle ∧
        (next middle (first state).2).1 = .value result := by
  rw [bind_apply]
  generalize first state = run
  match run with
  | (.value middle, after) => simp
  | (.error _, _) => simp
  | (.broken, _) => simp

theorem bind_of_value {first : Effect ε σ α} {state after : σ} {result : α}
    (run : first state = (.value result, after)) (next : α → Effect ε σ β) :
    (first >>= next) state = next result after := by
  rw [bind_apply, run]

theorem bind_of_error {first : Effect ε σ α} {state : σ} {cause : ε}
    (failed : (first state).1 = .error cause) (next : α → Effect ε σ β) :
    ((first >>= next) state).1 = .error cause := by
  rw [bind_apply]
  generalize first state = run at failed ⊢
  obtain ⟨_, _⟩ := run
  subst failed
  rfl

/-! ### What an effect keeps -/

/-- An effect keeps a property of the state, however it ends. -/
def Keeps (kept : σ → Prop) (effect : Effect ε σ α) : Prop :=
  ∀ state, kept state → kept (effect state).2

variable {kept : σ → Prop}

theorem keeps_pure (result : α) : Keeps kept (pure result : Effect ε σ α) := fun _ holds => holds

theorem keeps_ending (result : Ending ε α) : Keeps kept (ending result : Effect ε σ α) :=
  fun _ holds => holds

theorem keeps_ensure (condition : Bool) (otherwise : ε) :
    Keeps kept (ensure condition otherwise : Effect ε σ Unit) := by
  cases condition <;> exact fun _ holds => holds

theorem keeps_require (content : Option α) (otherwise : ε) :
    Keeps kept (require content otherwise : Effect ε σ α) := by
  cases content <;> exact fun _ holds => holds

/-- **The whole keeps what its parts keep**, whether the second part is reached or not. -/
theorem keeps_bind {first : Effect ε σ α} {next : α → Effect ε σ β} (begun : Keeps kept first)
    (continued : ∀ result, Keeps kept (next result)) : Keeps kept (first >>= next) := by
  intro state holds
  have between := begun state holds
  rw [bind_apply]
  split
  · rename_i result after same
    rw [same] at between
    exact continued result after between
  · rename_i cause after same
    rwa [same] at between
  · rename_i after same
    rwa [same] at between

theorem keeps_recover {attempt : Effect ε σ α} (instead : ε → α) (tried : Keeps kept attempt) :
    Keeps kept (attempt.recover instead) := by
  intro state holds
  have between := tried state holds
  unfold recover
  split
  · rename_i cause after same
    rwa [same] at between
  · exact between

theorem keeps_forEach {step : α → Effect ε σ β} (each : ∀ item, Keeps kept (step item))
    (items : List α) : Keeps kept (forEach step items) := by
  induction items with
  | nil => exact keeps_pure []
  | cons item rest ih =>
    exact keeps_bind (each item) fun _ => keeps_bind ih fun _ => keeps_pure _

section Halves

variable {keptSecond : τ → Prop}

theorem keeps_onFirst {part : Effect ε σ α} (keeps : Keeps kept part) :
    Keeps (fun states : σ × τ => kept states.1 ∧ keptSecond states.2) (onFirst part) :=
  fun states holds => ⟨keeps states.1 holds.1, holds.2⟩

theorem keeps_onSecond {part : Effect ε τ α} (keeps : Keeps keptSecond part) :
    Keeps (fun states : σ × τ => kept states.1 ∧ keptSecond states.2) (onSecond part) :=
  fun states holds => ⟨holds.1, keeps states.2 holds.2⟩

end Halves

/-! ### Effects without errors -/

/-- An effect does not end with an error. -/
def NeverFails (effect : Effect ε σ α) : Prop := ∀ state cause, (effect state).1 ≠ .error cause

theorem neverFails_pure (result : α) : (pure result : Effect ε σ α).NeverFails := fun _ _ => nofun

theorem neverFails_recover (attempt : Effect ε σ α) (instead : ε → α) :
    (attempt.recover instead).NeverFails := by
  intro state cause
  unfold recover
  generalize attempt state = run
  obtain ⟨_ | _ | _, _⟩ := run <;> exact nofun

theorem neverFails_bind {first : Effect ε σ α} {next : α → Effect ε σ β} (begun : first.NeverFails)
    (continued : ∀ result, (next result).NeverFails) : (first >>= next).NeverFails := by
  intro state cause
  have fine := begun state
  rw [bind_apply]
  generalize first state = run at fine ⊢
  match run with
  | (.value result, after) => exact continued result after cause
  | (.error other, _) => exact absurd rfl (fine other)
  | (.broken, _) => exact nofun

/-! ### Where an effect leads -/

/-- From a state an effect either fails and changes nothing, or ends with a value and a state that
are allowed. -/
def Leads (effect : Effect ε σ α) (state : σ) (allowed : α → σ → Prop) : Prop :=
  match effect state with
  | (.value result, after) => allowed result after
  | (.error _, after) => after = state
  | (.broken, _) => False

variable {state : σ} {allowed : α → σ → Prop}

theorem leads_of_value {effect : Effect ε σ α} {result : α} {after : σ}
    (done : effect state = (.value result, after)) (fine : allowed result after) :
    effect.Leads state allowed := by
  rw [Leads, done]
  exact fine

theorem Leads.of_value {effect : Effect ε σ α} (leads : effect.Leads state allowed) {result : α}
    (ended : (effect state).1 = .value result) : allowed result (effect state).2 := by
  unfold Leads at leads
  generalize effect state = run at leads ended ⊢
  obtain ⟨_, after⟩ := run
  subst ended
  exact leads

/-- **An effect that leads somewhere has two ways to end**: a value with what is allowed, or an
error and the state as it was. -/
theorem leads_iff {effect : Effect ε σ α} :
    effect.Leads state allowed ↔
      (∃ result after, effect state = (.value result, after) ∧ allowed result after) ∨
        ∃ cause, effect state = (.error cause, state) := by
  unfold Leads
  generalize effect state = run
  obtain ⟨_ | _ | _, after⟩ := run <;> simp

/-- Where more is allowed an effect leads as well. -/
theorem Leads.imp {effect : Effect ε σ α} {other : α → σ → Prop}
    (leads : effect.Leads state allowed)
    (weaker : ∀ result after, allowed result after → other result after) :
    effect.Leads state other := by
  rw [leads_iff] at leads ⊢
  refine leads.imp_left fun ⟨result, after, ended, fine⟩ => ?_
  exact ⟨result, after, ended, weaker result after fine⟩

/-- An effect that leads where one thing holds and where another one does leads where both do. -/
theorem Leads.and {effect : Effect ε σ α} {one other : α → σ → Prop}
    (first : effect.Leads state one) (second : effect.Leads state other) :
    effect.Leads state fun result after => one result after ∧ other result after := by
  unfold Leads at first second ⊢
  generalize effect state = run at first second ⊢
  obtain ⟨_ | _ | _, after⟩ := run
  · exact ⟨first, second⟩
  · exact first
  · exact first

theorem leads_reading_bind {view : σ → β} {next : β → Effect ε σ α}
    (rest : (next (view state)).Leads state allowed) :
    (reading view >>= next).Leads state allowed := rest

theorem leads_ensure_bind {condition : Bool} {otherwise : ε} {next : Unit → Effect ε σ α}
    (rest : condition = true → (next ()).Leads state allowed) :
    (ensure condition otherwise >>= next).Leads state allowed := by
  cases condition with
  | true => exact rest rfl
  | false => exact rfl

theorem leads_require_bind {content : Option β} {otherwise : ε} {next : β → Effect ε σ α}
    (rest : ∀ result, content = some result → (next result).Leads state allowed) :
    (require content otherwise >>= next).Leads state allowed := by
  cases content with
  | some result => exact rest result rfl
  | none => exact rfl

/-! ### Loops -/

/-- **A loop over steps that leave the state alone ends with their results**, if each of them ends
with one. -/
theorem forEach_value_iff {step : α → Effect ε σ β} {state : σ}
    (still : ∀ item, (step item state).2 = state) {items : List α} {results : List β} :
    (forEach step items state).1 = .value results ↔
      List.Forall₂ (fun item result => (step item state).1 = .value result) items results := by
  induction items generalizing results with
  | nil =>
    rw [List.forall₂_nil_left_iff]
    exact ⟨fun same => (Ending.value.inj same).symm, fun same => same ▸ rfl⟩
  | cons item rest ih =>
    show ((step item >>= fun result => forEach step rest >>= fun results =>
      pure (result :: results)) state).1 = _ ↔ _
    rw [bind_value_iff, still item, List.forall₂_cons_left_iff]
    refine exists_congr fun result => ?_
    rw [bind_value_iff]
    constructor
    · rintro ⟨done, more, ended, same⟩
      exact ⟨more, done, ih.mp ended, (Ending.value.inj same).symm⟩
    · rintro ⟨more, done, ended, rfl⟩
      exact ⟨done, more, ih.mpr ended, rfl⟩

/-- **The first step without a value ends a loop** behind steps that leave the state alone. -/
theorem forEach_error {step : α → Effect ε σ β} {state : σ}
    (still : ∀ item, (step item state).2 = state) {front rest : List α} {results : List β}
    (done : List.Forall₂ (fun item result => (step item state).1 = .value result) front results)
    {item : α} {cause : ε} (failed : (step item state).1 = .error cause) :
    (forEach step (front ++ item :: rest) state).1 = .error cause := by
  induction done with
  | nil => exact bind_of_error failed _
  | @cons first result front results ended _ ih =>
    have run : step first state = (.value result, state) := Prod.ext ended (still first)
    show ((step first >>= fun result => forEach step (front ++ item :: rest) >>= fun results =>
      pure (result :: results)) state).1 = _
    rw [bind_of_value run]
    exact bind_of_error ih _

/-- A loop over two lists on end is two loops. -/
theorem forEach_append (step : α → Effect ε σ β) (front rest : List α) :
    forEach step (front ++ rest) = (do
      let results ← forEach step front
      let more ← forEach step rest
      pure (results ++ more)) := by
  induction front with
  | nil => exact (bind_pure (forEach step rest)).symm
  | cons item front ih =>
    show (step item >>= fun result => forEach step (front ++ rest) >>= fun results =>
      pure (result :: results)) =
      ((step item >>= fun result => forEach step front >>= fun results =>
        pure (result :: results)) >>= fun results => forEach step rest >>= fun more =>
          pure (results ++ more))
    simp only [ih, bind_assoc, pure_bind, List.cons_append]

/-- **A loop of loops is one loop**, its results put together. -/
theorem forEach_flatMap {γ : Type} (step : β → Effect ε σ γ) (inner : α → List β) (outer : List α) :
    (do
      let parts ← forEach (fun item => forEach step (inner item)) outer
      pure parts.flatten) = forEach step (outer.flatMap inner) := by
  induction outer with
  | nil => rfl
  | cons item rest ih =>
    rw [List.flatMap_cons, forEach_append, ← ih]
    show ((forEach step (inner item) >>= fun part =>
      forEach (fun item => forEach step (inner item)) rest >>= fun parts =>
        pure (part :: parts)) >>= fun parts => pure parts.flatten) = _
    simp only [bind_assoc, pure_bind, List.flatten_cons]

/-- Loops whose steps do the same where they start are the same, when the steps leave that state
alone. -/
theorem forEach_congr {step other : α → Effect ε σ β} {state : σ}
    (still : ∀ item, (other item state).2 = state) {items : List α}
    (same : ∀ item ∈ items, step item state = other item state) :
    forEach step items state = forEach other items state := by
  induction items with
  | nil => rfl
  | cons item rest ih =>
    obtain ⟨here, later⟩ := List.forall_mem_cons.mp same
    show (step item >>= fun result => forEach step rest >>= fun results =>
      pure (result :: results)) state = (other item >>= fun result => forEach other rest >>=
        fun results => pure (result :: results)) state
    have left := still item
    rw [bind_apply, bind_apply, here]
    generalize other item state = run at left ⊢
    obtain ⟨_ | _ | _, after⟩ := run
    · obtain rfl : after = state := left
      show (forEach step rest >>= _) _ = (forEach other rest >>= _) _
      rw [bind_apply, bind_apply, ih later]
    · rfl
    · rfl

end AccessControl.Effect

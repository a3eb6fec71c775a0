/-
**Kept programs never show.**

* `Check.World.Twins` — two worlds that differ at most in the programs that their engines keep, each
  under its own text.
* `Check.check_alike`, `Authority.perform_alike` — in twin worlds a check, and every operation,
  comes to the same and leaves twin worlds, whatever the place for the tables is.
* `Authority.caching_never_shows` — **an engine answers every step of a run as if it kept nothing,
  and keeps exactly what compiled since it last forgot; so the runs of an authority that keeps
  programs and of one that does not come to the same.**
-/

import AccessControl.Proofs.Condition
import AccessControl.Proofs.Expression.Cache
import AccessControl.Authority

namespace AccessControl

open Effect
open Expression (Engine)
open Expression.Engine (BothFaithful)

variable {σ : Type}

/-! ### Conditions -/

/-- Whether a condition holds and whether it breaks off settles what holding it comes to. -/
theorem Condition.Result.unique {holds breaks : Prop} {first second : Ending Error Bool}
    (one : Result holds breaks first) (two : Result holds breaks second) : first = second := by
  cases one with
  | broken broken =>
    cases two with
    | broken _ => rfl
    | satisfied calm _ => exact absurd broken calm
    | unsatisfied calm _ => exact absurd broken calm
  | satisfied calm satisfied =>
    cases two with
    | broken broken => exact absurd broken calm
    | satisfied _ _ => rfl
    | unsatisfied _ fails => exact absurd satisfied fails
  | unsatisfied calm fails =>
    cases two with
    | broken broken => exact absurd broken calm
    | satisfied _ satisfied => exact absurd satisfied fails
    | unsatisfied _ _ => rfl

namespace Check

/-- **What faithful engines keep does not show in a stored condition.** -/
theorem holds_alike (circumstances : Circumstances) (stored : Option String) :
    Alike BothFaithful (holds circumstances stored) (holds circumstances stored) := by
  intro first second ⟨one, two⟩
  obtain ⟨result, still⟩ := Condition.holds_faithful one circumstances stored
  obtain ⟨also, stays⟩ := Condition.holds_faithful two circumstances stored
  exact ⟨result.unique also, still, stays⟩

theorem firstHolding_alike (circumstances : Id → Circumstances) (permissions : List Permission) :
    Alike BothFaithful (firstHolding circumstances permissions)
      (firstHolding circumstances permissions) := by
  induction permissions with
  | nil => exact alike_pure _
  | cons permission rest ih =>
    have alike := holds_alike (circumstances permission.id) permission.condition
    refine alike_bind alike fun holding => ?_
    cases holding with
    | true => exact alike_pure _
    | false => exact ih

/-! ### Checks -/

/-- Two worlds that differ at most in the programs that their engines keep. -/
def World.Twins (world other : World σ) : Prop :=
  world.1 = other.1 ∧ BothFaithful world.2 other.2

theorem twins_onFirst {α : Type} (part : Effect Error σ α) :
    Alike World.Twins (onFirst part) (onFirst part) := alike_onFirst part

variable (store : Store σ)

theorem firstGrant_alike (resource action : Id) (circumstances : Id → Circumstances)
    (roles : List Role) :
    Alike World.Twins (firstGrant store resource action circumstances roles)
      (firstGrant store resource action circumstances roles) := by
  induction roles with
  | nil => exact alike_pure _
  | cons role rest ih =>
    refine alike_bind (twins_onFirst _) fun permissions => ?_
    refine alike_bind (alike_onSecond (firstHolding_alike circumstances _)) fun found => ?_
    cases found with
    | some permission => exact alike_pure _
    | none => exact ih

theorem decide_alike (request : Request) :
    Alike World.Twins (decide store request) (decide store request) := by
  refine alike_bind (twins_onFirst _) fun (user, resource, action) => ?_
  refine alike_bind (twins_onFirst _) fun assigned => ?_
  dsimp only
  split
  · exact alike_pure _
  · refine alike_bind (twins_onFirst _) fun _ => alike_bind (twins_onFirst _) fun _ => ?_
    exact alike_bind (firstGrant_alike store _ _ _ _) fun _ => alike_pure _

/-- **A check comes to the same in twin worlds**, whatever logger it has. -/
theorem check_alike (logger : AuditLogger σ) (request : Request) :
    Alike World.Twins (check store logger request) (check store logger request) :=
  alike_bind (decide_alike store request) fun _ =>
    alike_bind (twins_onFirst _) fun _ => alike_pure _

end Check

namespace Authority

open Check (World)

/-- **Every operation comes to the same in twin worlds.** -/
theorem perform_alike (authority : Authority σ) (operation : Operation) :
    Alike World.Twins (authority.perform operation) (authority.perform operation) := by
  have onTables {α : Type} (answer : α → Answer) (effect : Effect Error σ α) :
      Alike World.Twins (onTables answer effect) (onTables answer effect) :=
    alike_bind (Check.twins_onFirst effect) fun _ => alike_pure _
  cases operation with
  | check request =>
    exact alike_bind (Check.check_alike authority.store authority.logger request) fun _ =>
      alike_pure _
  | clearCache =>
    exact fun world other twins => ⟨rfl, twins.1, Engine.faithful_cleared _,
      Engine.faithful_cleared _⟩
  | _ => exact onTables _ _

/-- A run is its operations in turn. -/
theorem run_eq_inTurn (authority : Authority σ) (operations : List Operation) (world : World σ) :
    authority.run operations world = inTurn (operations.map authority.perform) world := by
  induction operations generalizing world with
  | nil => rfl
  | cons operation rest ih =>
    let after := (authority.perform operation world).2
    show ((authority.perform operation world).1 :: (authority.run rest after).1,
      (authority.run rest after).2) = _
    rw [ih after]
    rfl

/-- **Kept programs never show.** Whatever an engine is asked, and whether or not it keeps programs,
it answers each step as a fresh engine that keeps none, and after each part of the run it keeps
exactly the programs of the texts that compiled since it last forgot. Hence an authority over any
place for the tables comes to the same, and leaves the same there, whether or not programs are
kept. -/
theorem caching_never_shows (store : Store σ) (settings : Settings) (state : σ)
    (operations : List Operation) (keeps : Bool) (steps : List Engine.Step) :
    let after (steps : List Engine.Step) := inTurn (steps.map Engine.ask) (.fresh keeps)
    let run (keeps : Bool) :=
      let authority := ofStore store { settings with cacheExpressions := keeps }
      authority.run operations (state, authority.engine)
    (after steps).1 = steps.map (fun step => (Engine.ask step (.fresh false)).1) ∧
      (∀ front, front <+: steps → Engine.Caches keeps (Engine.textsSince front) (after front).2) ∧
      (run true).1 = (run false).1 ∧ (run true).2.1 = (run false).2.1 := by
  intro after run
  refine ⟨Engine.ask_fresh (Engine.faithful_fresh keeps) steps, fun front _ =>
    Engine.caches_after keeps front, ?_⟩
  let authority (keeps : Bool) := ofStore store { settings with cacheExpressions := keeps }
  have same (operation : Operation) :
      Alike World.Twins ((authority true).perform operation)
        ((authority false).perform operation) :=
    perform_alike (authority true) operation
  have matched : List.Forall₂ (Alike World.Twins) (operations.map (authority true).perform)
      (operations.map (authority false).perform) := by
    rw [List.forall₂_map_left_iff, List.forall₂_map_right_iff]
    exact List.forall₂_same.mpr fun operation _ => same operation
  have start : World.Twins (state, Engine.fresh true) (state, Engine.fresh false) :=
    ⟨rfl, Engine.faithful_fresh true, Engine.faithful_fresh false⟩
  obtain ⟨endings, left, -⟩ := inTurn_alike matched start
  show ((authority true).run operations (state, .fresh true)).1 =
      ((authority false).run operations (state, .fresh false)).1 ∧
    ((authority true).run operations (state, .fresh true)).2.1 =
      ((authority false).run operations (state, .fresh false)).2.1
  rw [run_eq_inTurn, run_eq_inTurn]
  exact ⟨endings, left⟩

end Authority

end AccessControl

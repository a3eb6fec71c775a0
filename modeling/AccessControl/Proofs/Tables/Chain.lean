/-
**The walk along the parents compares every id of the chain before it stops.**

* `Tables.ancestor?` — the id at a place of the chain of parents that begins at an id: the id
  itself, its parent, the parent of that, as long as there is one.
* `Tables.compared` — the ids that a walk of so many steps compares, one after the other, until it
  has found the one it looks for.
* `Tables.mem_compared_iff` — they are the first ids of the chain, one more than there are steps.
* `Tables.isWithin_follows_chain` — **with as many steps as the table has rows nothing of the chain
  is left out**, even where parents are missing from the table or lead in a circle.
-/

import AccessControl.Proofs.ResourceTree

namespace AccessControl.Tables

open Relation

variable {resources : List Resource} {id current other : Id}

/-- The id at a place of the chain of parents that begins at an id. A parent that is not in the
table is the last one. -/
def ancestor? (resources : List Resource) (start : Id) : Nat → Option Id
  | 0 => some start
  | place + 1 => (ancestor? resources start place).bind (parent? resources)

/-- The ids that a walk of so many steps compares when none of them is the one it looks for. -/
def compared (resources : List Resource) : Nat → Id → List Id
  | 0, current => [current]
  | steps + 1, current =>
    current ::
      match parent? resources current with
      | some parent => compared resources steps parent
      | none => []

/-! ### Places of the chain -/

theorem ancestor?_succ (start : Id) (place : Nat) :
    ancestor? resources start (place + 1) =
      (parent? resources start).bind fun parent => ancestor? resources parent place := by
  induction place with
  | zero => exact (Option.bind_fun_some _).symm
  | succ place ih =>
    rw [ancestor?, ih, Option.bind_assoc]
    rfl

theorem path_iff_ancestor? :
    ReflTransGen (Inside resources) current id ↔
      ∃ place, ancestor? resources current place = some id := by
  constructor
  · intro path
    induction path with
    | refl => exact ⟨0, rfl⟩
    | tail _ edge ih =>
      obtain ⟨place, here⟩ := ih
      refine ⟨place + 1, ?_⟩
      rw [ancestor?, here]
      exact edge
  · rintro ⟨place, here⟩
    induction place generalizing id with
    | zero => exact Option.some.inj here ▸ .refl
    | succ place ih =>
      obtain ⟨before, earlier, edge⟩ := Option.bind_eq_some_iff.mp here
      exact (ih earlier).tail edge

/-! ### What is compared -/

/-- **The ids that are compared are the first ones of the chain**, one more than there are steps. -/
theorem mem_compared_iff {steps : Nat} :
    other ∈ compared resources steps current ↔
      ∃ place ≤ steps, ancestor? resources current place = some other := by
  induction steps generalizing current with
  | zero => simp [compared, ancestor?, eq_comm]
  | succ steps ih =>
    have later : (∃ place ≤ steps, ancestor? resources current (place + 1) = some other) ↔
        other ∈ (match parent? resources current with
          | some parent => compared resources steps parent
          | none => []) := by
      cases edge : parent? resources current with
      | none => simp [ancestor?_succ, edge]
      | some parent => simp [ancestor?_succ, edge, ih]
    rw [compared, List.mem_cons, ← later]
    constructor
    · rintro (rfl | ⟨place, within, here⟩)
      · exact ⟨0, Nat.zero_le _, rfl⟩
      · exact ⟨place + 1, Nat.succ_le_succ within, here⟩
    · rintro ⟨_ | place, within, here⟩
      · exact .inl (Option.some.inj here).symm
      · exact .inr ⟨place, Nat.le_of_succ_le_succ within, here⟩

theorem length_compared_le (steps : Nat) (current : Id) :
    (compared resources steps current).length ≤ steps + 1 := by
  induction steps generalizing current with
  | zero => exact Nat.le_refl _
  | succ steps ih =>
    rw [compared, List.length_cons]
    split
    · exact Nat.succ_le_succ (ih _)
    · exact Nat.succ_le_succ (Nat.zero_le _)

theorem meets_iff_mem_compared {steps : Nat} :
    meets resources id steps current = true ↔ id ∈ compared resources steps current := by
  induction steps generalizing current with
  | zero => rw [meets_zero, compared, List.mem_singleton, eq_comm]
  | succ steps ih =>
    rw [meets_succ, compared, List.mem_cons, eq_comm]
    unfold Inside
    cases parent? resources current with
    | none => simp
    | some parent => simp [ih]

/-- **With a step for every row of the table the walk compares the whole chain.** What lies on the
chain is met, and what is met has been compared; what is compared lies on the chain. -/
theorem mem_compared_length_iff :
    other ∈ compared resources resources.length current ↔
      ∃ place, ancestor? resources current place = some other := by
  constructor
  · intro member
    obtain ⟨place, -, here⟩ := mem_compared_iff.mp member
    exact ⟨place, here⟩
  · intro placed
    have path := path_iff_ancestor?.mpr placed
    exact meets_iff_mem_compared.mp (meets_of_path (Nat.le_refl _) path)

/-- **The walk follows the chain of parents to its end**, whatever the table looks like: it answers
yes exactly when the id stands at a place of the chain. It compares no more ids than there are rows,
and one behind the last of them, a parent that is not in the table; these are all the ids of the
chain, and more steps would change nothing. -/
theorem isWithin_follows_chain (tables : Tables) (id candidate : Id) :
    let rows := tables.resources
    let chain := ancestor? rows candidate
    let looked := compared rows rows.length candidate
    (tables.isWithin id candidate = true ↔ ∃ place, chain place = some id) ∧
    (tables.isWithin id candidate = true ↔ id ∈ looked) ∧
    looked.length ≤ rows.length + 1 ∧
    (∀ other, other ∈ looked ↔ ∃ place, chain place = some other) ∧
    ∀ more, meets rows id (rows.length + more) candidate = tables.isWithin id candidate := by
  intro rows chain looked
  refine ⟨isWithin_iff.trans path_iff_ancestor?, meets_iff_mem_compared, length_compared_le _ _,
    fun _ => mem_compared_length_iff, fun more => Bool.eq_iff_iff.mpr ?_⟩
  have further : rows.length ≤ rows.length + more := Nat.le_add_right _ _
  rw [isWithin_iff]
  exact ⟨path_of_meets, meets_of_path further⟩

/-- A page in a folder that is not in the table: the folder is found, and one step fewer would miss
it. -/
example :
    let rows : List Resource := [⟨1, "page", none, some 7⟩]
    isWithin { resources := rows } 7 1 = true ∧ meets rows 7 (rows.length - 1) 1 = false := by
  decide

end AccessControl.Tables

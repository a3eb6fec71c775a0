/-
**The chain of parents of a resource.**

* `Tables.Inside` — one resource is right inside another; `Tables.Descends` — it is inside it at any
  depth.
* `Tables.Rooted` — the parents of a resource lead to one without a parent, all of them in the
  table.
* `Tables.isWithin_iff` — **the walk along the parents meets an id exactly when the id lies on the
  chain**, whatever the table looks like: a chain that is longer than the table only repeats itself.
-/

import AccessControl.Tables.Basic
import Mathlib.Logic.Relation

namespace AccessControl.Tables

open Relation

variable {resources fewer : List Resource} {id current parent : Id}

/-- A resource is right inside another one. -/
def Inside (resources : List Resource) (child parent : Id) : Prop :=
  parent? resources child = some parent

/-- A resource is inside another one, at any depth. -/
def Descends (resources : List Resource) (lower upper : Id) : Prop :=
  TransGen (Inside resources) lower upper

/-- The parents of a resource lead to a root, every one of them in the table. -/
inductive Rooted (resources : List Resource) : Id → Prop where
  | root {row : Resource} (stored : row ∈ resources) (top : row.parent = none) :
      Rooted resources row.id
  | inside {row : Resource} {parent : Id} (stored : row ∈ resources)
      (within : row.parent = some parent) (rest : Rooted resources parent) :
      Rooted resources row.id

/-- Every resource leads to a root. -/
def Forest (resources : List Resource) : Prop := ∀ row ∈ resources, Rooted resources row.id

theorem Rooted.mono (rooted : Rooted fewer id) (some_ : fewer ⊆ resources) :
    Rooted resources id := by
  induction rooted with
  | root stored top => exact .root (some_ stored) top
  | inside stored within _ ih => exact .inside (some_ stored) within ih

/-! ### What the walk meets lies on the chain -/

theorem meets_zero : meets resources id 0 current = true ↔ current = id := by
  unfold meets
  simp

theorem meets_succ (steps : Nat) :
    meets resources id (steps + 1) current = true ↔
      current = id ∨ ∃ parent, Inside resources current parent ∧
        meets resources id steps parent = true := by
  rw [meets.eq_def]
  unfold Inside
  cases edge : parent? resources current <;> simp [edge]

theorem path_of_meets {steps : Nat} (met : meets resources id steps current = true) :
    ReflTransGen (Inside resources) current id := by
  induction steps generalizing current with
  | zero => exact meets_zero.mp met ▸ .refl
  | succ steps ih =>
    rcases (meets_succ steps).mp met with rfl | ⟨parent, edge, later⟩
    · exact .refl
    · exact .head edge (ih later)

/-! ### What lies on the chain is met -/

/-- A path to another place can leave its start once and for all. From each place on it there is a
way on that avoids the start, or one from the start. -/
theorem path_leaves {κ : Type} {step : κ → κ → Prop} {start finish : κ}
    (path : ReflTransGen step start finish) :
    start = finish ∨ ∃ next, step start next ∧
      ReflTransGen (fun one two => one ≠ start ∧ step one two) next finish := by
  have leaves : ∀ place, ReflTransGen step place finish →
      ReflTransGen (fun one two => one ≠ start ∧ step one two) place finish ∨
        ∃ next, step start next ∧
          ReflTransGen (fun one two => one ≠ start ∧ step one two) next finish := by
    intro place way
    induction way using ReflTransGen.head_induction_on with
    | refl => exact .inl .refl
    | @head one two edge _ ih =>
      rcases ih with avoiding | again
      · by_cases back : one = start
        · exact .inr ⟨two, back ▸ edge, avoiding⟩
        · exact .inl (.head ⟨back, edge⟩ avoiding)
      · exact .inr again
  rcases leaves start path with avoiding | again
  · rcases ReflTransGen.cases_head avoiding with same | ⟨_, ⟨apart, _⟩, _⟩
    · exact .inl same
    · exact absurd rfl apart
  · exact .inr again

/-- Without the rows of an id there is no parent of it, and every other one as before. -/
theorem inside_filter {child : Id} :
    Inside (resources.filter (·.id ≠ current)) child parent ↔
      child ≠ current ∧ Inside resources child parent := by
  unfold Inside parent?
  rw [List.find?_filter]
  by_cases same : child = current
  · have absent : resources.find? (fun row => decide (decide (row.id ≠ current) = true ∧
        decide (row.id = child) = true)) = none := by
      rw [List.find?_eq_none]
      grind
    rw [absent]
    simp [same]
  · have alike : (fun row : Resource => decide (decide (row.id ≠ current) = true ∧
        decide (row.id = child) = true)) = fun row => decide (row.id = child) := by
      funext row
      grind
    rw [alike]
    simp [same]

theorem meets_mono (edges : ∀ child parent, Inside fewer child parent →
      Inside resources child parent) {steps : Nat}
    (met : meets fewer id steps current = true) : meets resources id steps current = true := by
  induction steps generalizing current with
  | zero => exact meets_zero.mpr (meets_zero.mp met)
  | succ steps ih =>
    rcases (meets_succ steps).mp met with here | ⟨parent, edge, later⟩
    · exact (meets_succ steps).mpr (.inl here)
    · exact (meets_succ steps).mpr (.inr ⟨parent, edges current parent edge, ih later⟩)

/-- What is on the chain is met in as many steps as there are rows: a row that was passed can be
taken out of the table, since the rest of the chain need not come back to it. -/
theorem meets_of_path {steps : Nat} (enough : resources.length ≤ steps)
    (path : ReflTransGen (Inside resources) current id) :
    meets resources id steps current = true := by
  induction steps generalizing resources current with
  | zero =>
    have none : resources = [] := List.length_eq_zero_iff.mp (Nat.le_zero.mp enough)
    subst none
    rcases ReflTransGen.cases_head path with same | ⟨_, edge, _⟩
    · exact meets_zero.mpr same
    · cases edge
  | succ steps ih =>
    rcases path_leaves path with same | ⟨parent, edge, avoiding⟩
    · exact (meets_succ steps).mpr (.inl same)
    · obtain ⟨row, found, _⟩ := Option.bind_eq_some_iff.mp edge
      have stored : row ∈ resources := List.mem_of_find?_eq_some found
      have own : row.id = current := by simpa using List.find?_some found
      have shorter : (resources.filter (·.id ≠ current)).length < resources.length :=
        List.length_filter_lt_length_iff_exists.mpr ⟨row, stored, by simp [own]⟩
      have rest : ReflTransGen (Inside (resources.filter (·.id ≠ current))) parent id :=
        ReflTransGen.mono (fun _ _ step => inside_filter.mpr step) _ _ avoiding
      have met := ih (by omega) rest
      refine (meets_succ steps).mpr (.inr ⟨parent, edge, meets_mono ?_ met⟩)
      exact fun _ _ step => (inside_filter.mp step).2

/-- **The walk along the parents meets an id exactly when the id lies on the chain.** -/
theorem isWithin_iff {tables : Tables} {candidate : Id} :
    tables.isWithin id candidate = true ↔
      ReflTransGen (Inside tables.resources) candidate id :=
  ⟨path_of_meets, meets_of_path (Nat.le_refl _)⟩

end AccessControl.Tables

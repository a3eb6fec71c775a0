/-
**The search for ancestors, and circles of inheritance.**

* `RoleGraph.Above` — one role is a parent of another along an edge.
* `RoleGraph.walk_covers` — **with enough steps the search leaves nothing out**: a role in the
  queue, and a parent of a role that was found, is found or was seen before.
  `RoleGraph.pending_cons` says why as many steps as there are edges are enough: the edges into a
  role are put into the queue once.
* `RoleGraph.mem_ancestors_iff` — the ancestors of a role are the other roles that it can be reached
  from.
* `RoleGraph.acyclic_append_iff` — an edge closes no circle exactly when its ends differ and no path
  leads from its child to its parent, which is what `RoleGraph.wouldCreateCycle` tests.
-/

import AccessControl.RoleGraph
import Mathlib.Logic.Relation

namespace AccessControl.RoleGraph

open Relation

variable {edges : List Edge} {role parent child : Id}

def Above (edges : List Edge) (parent child : Id) : Prop := ⟨parent, child⟩ ∈ edges

/-- No role is above itself. -/
def Acyclic (edges : List Edge) : Prop := ∀ role, ¬ TransGen (Above edges) role role

theorem mem_parents_iff : parent ∈ parents edges role ↔ Above edges parent role := by
  unfold parents Above
  rw [List.mem_map]
  constructor
  · rintro ⟨edge, member, rfl⟩
    obtain ⟨stored, below⟩ := List.mem_filter.mp member
    rw [← of_decide_eq_true below]
    exact stored
  · intro stored
    exact ⟨⟨parent, role⟩, List.mem_filter.mpr ⟨stored, by simp⟩, rfl⟩

/-! ### The search finds nothing but ancestors -/

/-- What the search finds it has not seen before, and it lies above the queue or in it. -/
theorem walk_sound {fuel : Nat} {queue seen : List Id} {found : Id}
    (member : found ∈ walk edges fuel queue seen) :
    found ∉ seen ∧ ∃ start ∈ queue, ReflTransGen (Above edges) found start := by
  induction fuel, queue, seen using walk.induct edges with
  | case1 => cases member
  | case2 => cases member
  | case3 fuel current queue seen known ih =>
    rw [walk, if_pos known] at member
    obtain ⟨new, start, queued, path⟩ := ih member
    exact ⟨new, start, List.mem_cons_of_mem _ queued, path⟩
  | case4 fuel current queue seen unknown ih =>
    rw [walk, if_neg unknown] at member
    rcases List.mem_cons.mp member with rfl | later
    · exact ⟨by simpa using unknown, found, List.mem_cons_self, .refl⟩
    · obtain ⟨new, start, queued, path⟩ := ih later
      refine ⟨fun old => new (List.mem_cons_of_mem _ old), ?_⟩
      rcases List.mem_append.mp queued with waiting | above
      · exact ⟨start, List.mem_cons_of_mem _ waiting, path⟩
      · exact ⟨current, List.mem_cons_self, path.tail (mem_parents_iff.mp above)⟩

/-! ### The search leaves nothing out -/

/-- How many edges lead into roles that were not seen yet. -/
def pending (edges : List Edge) (seen : List Id) : Nat :=
  edges.countP fun edge => edge.child ∉ seen

/-- The edges into a role that was not seen are pending no more once it is, and its parents are as
many. -/
theorem pending_cons {current : Id} {seen : List Id} (unknown : current ∉ seen) :
    (parents edges current).length + pending edges (current :: seen) = pending edges seen := by
  unfold parents pending
  rw [List.length_map, ← List.countP_eq_length_filter]
  induction edges with
  | nil => rfl
  | cons edge rest ih =>
    simp only [List.countP_cons, decide_eq_true_eq, List.mem_cons] at ih ⊢
    by_cases here : edge.child = current
    · simp only [here, unknown, true_or, not_true, not_false_eq_true, if_true, if_false]
      omega
    · by_cases known : edge.child ∈ seen
      · simp only [here, known, or_true, not_true, if_false]
        omega
      · simp only [here, known, or_false, not_false_eq_true, if_true, if_false]
        omega

/-- **With enough steps the search leaves nothing out.** A step is taken off the queue and the edges
into a new role are added to it, so that the queue and the pending edges together lose one. -/
theorem walk_covers {fuel : Nat} {queue seen : List Id}
    (enough : queue.length + pending edges seen ≤ fuel) :
    (∀ start ∈ queue, start ∈ seen ∨ start ∈ walk edges fuel queue seen) ∧
      ∀ found ∈ walk edges fuel queue seen, ∀ above, Above edges above found →
        above ∈ seen ∨ above ∈ walk edges fuel queue seen := by
  induction fuel, queue, seen using walk.induct edges with
  | case1 queue seen =>
    have none : queue = [] := List.length_eq_zero_iff.mp (by omega)
    subst none
    exact ⟨fun _ queued => (List.not_mem_nil queued).elim,
      fun _ member => (List.not_mem_nil member).elim⟩
  | case2 =>
    exact ⟨fun _ queued => (List.not_mem_nil queued).elim,
      fun _ member => (List.not_mem_nil member).elim⟩
  | case3 fuel current queue seen known ih =>
    rw [walk, if_pos known]
    rw [List.length_cons] at enough
    obtain ⟨queued, closed⟩ := ih (by omega)
    refine ⟨fun start member => ?_, closed⟩
    rcases List.mem_cons.mp member with rfl | later
    · exact .inl (List.contains_iff_mem.mp known)
    · exact queued start later
  | case4 fuel current queue seen unknown ih =>
    rw [walk, if_neg unknown]
    have unknown : current ∉ seen := fun member => unknown (List.contains_iff_mem.mpr member)
    have fewer : (parents edges current).length + pending edges (current :: seen) =
        pending edges seen := pending_cons unknown
    rw [List.length_cons] at enough
    obtain ⟨queued, closed⟩ := ih (by rw [List.length_append]; omega)
    have covered : ∀ other, other ∈ current :: seen ∨
        other ∈ walk edges fuel (queue ++ parents edges current) (current :: seen) →
        other ∈ seen ∨ other ∈ current ::
          walk edges fuel (queue ++ parents edges current) (current :: seen) := by
      intro other before
      rcases before with old | new
      · rcases List.mem_cons.mp old with rfl | old
        · exact .inr List.mem_cons_self
        · exact .inl old
      · exact .inr (List.mem_cons_of_mem _ new)
    constructor
    · intro start member
      rcases List.mem_cons.mp member with rfl | later
      · exact .inr List.mem_cons_self
      · exact covered start (queued start (List.mem_append_left _ later))
    · intro found member above edge
      rcases List.mem_cons.mp member with rfl | later
      · exact covered above (queued above (List.mem_append_right _ (mem_parents_iff.mpr edge)))
      · exact covered above (closed found later above edge)

/-! ### Ancestors -/

theorem length_parents_add_pending :
    (parents edges role).length + pending edges [role] = edges.length := by
  rw [pending_cons List.not_mem_nil]
  unfold pending
  simp

/-- **The ancestors of a role are the other roles that it can be reached from.** -/
theorem mem_ancestors_iff {found : Id} :
    found ∈ ancestors edges role ↔ found ≠ role ∧ TransGen (Above edges) found role := by
  constructor
  · intro member
    obtain ⟨new, start, queued, path⟩ := walk_sound member
    refine ⟨by simpa using new, ?_⟩
    exact TransGen.tail' path (mem_parents_iff.mp queued)
  · rintro ⟨different, path⟩
    have enough : (parents edges role).length + pending edges [role] ≤ edges.length :=
      Nat.le_of_eq length_parents_add_pending
    obtain ⟨queued, closed⟩ := walk_covers enough
    simp only [List.mem_singleton] at queued closed
    have covered : ∀ other, TransGen (Above edges) other role →
        other = role ∨ other ∈ ancestors edges role := by
      intro other way
      induction way using TransGen.head_induction_on with
      | single edge => exact queued _ (mem_parents_iff.mpr edge)
      | head edge _ ih =>
        rcases ih with same | found
        · exact queued _ (mem_parents_iff.mpr (same ▸ edge))
        · exact closed _ found _ edge
    exact (covered found path).resolve_left different

/-- The test for a circle asks whether the ends are one role or the child is above the parent. -/
theorem wouldCreateCycle_iff :
    wouldCreateCycle edges parent child = true ↔
      parent = child ∨ TransGen (Above edges) child parent := by
  unfold wouldCreateCycle
  rw [Bool.or_eq_true, decide_eq_true_eq, List.contains_iff_mem, mem_ancestors_iff]
  by_cases same : parent = child
  · simp [same]
  · simp [same, Ne.symm same]

theorem wouldCreateCycle_perm {fetched : List Edge} (same : fetched.Perm edges)
    (parent child : Id) :
    wouldCreateCycle fetched parent child = wouldCreateCycle edges parent child := by
  have above : Above fetched = Above edges := by
    funext upper lower
    exact propext same.mem_iff
  rw [Bool.eq_iff_iff, wouldCreateCycle_iff, wouldCreateCycle_iff, above]

/-! ### Circles -/

theorem Acyclic.subset {fewer : List Edge} (acyclic : Acyclic edges) (some_ : fewer ⊆ edges) :
    Acyclic fewer :=
  fun role circle => acyclic role (TransGen.mono (fun _ _ edge => some_ edge) _ _ circle)

/-- A path along old edges and a new one avoids the new one or leads up to it and on from it. -/
theorem transGen_append {first last : Id}
    (path : TransGen (Above (edges ++ [⟨parent, child⟩])) first last) :
    TransGen (Above edges) first last ∨
      ReflTransGen (Above edges) first parent ∧ ReflTransGen (Above edges) child last := by
  induction path with
  | single edge =>
    rcases List.mem_append.mp edge with old | new
    · exact .inl (.single old)
    · obtain ⟨rfl, rfl⟩ := Edge.mk.inj (List.mem_singleton.mp new)
      exact .inr ⟨.refl, .refl⟩
  | tail _ edge ih =>
    rcases List.mem_append.mp edge with old | new
    · rcases ih with avoiding | ⟨upTo, onFrom⟩
      · exact .inl (avoiding.tail old)
      · exact .inr ⟨upTo, onFrom.tail old⟩
    · obtain ⟨rfl, rfl⟩ := Edge.mk.inj (List.mem_singleton.mp new)
      rcases ih with avoiding | ⟨upTo, _⟩
      · exact .inr ⟨avoiding.to_reflTransGen, .refl⟩
      · exact .inr ⟨upTo, .refl⟩

/-- **An edge closes no circle exactly when the test says so.** -/
theorem acyclic_append_iff (acyclic : Acyclic edges) :
    Acyclic (edges ++ [⟨parent, child⟩]) ↔ wouldCreateCycle edges parent child = false := by
  rw [← Bool.not_eq_true, wouldCreateCycle_iff]
  have new : Above (edges ++ [⟨parent, child⟩]) parent child :=
    List.mem_append_right _ List.mem_cons_self
  constructor
  · rintro still (rfl | path)
    · exact still parent (.single new)
    · have wider : TransGen (Above (edges ++ [⟨parent, child⟩])) child parent :=
        TransGen.mono (fun _ _ edge => List.mem_append_left _ edge) _ _ path
      exact still parent (.head new wider)
  · intro harmless role circle
    rcases transGen_append circle with old | ⟨upTo, onFrom⟩
    · exact acyclic role old
    · rcases reflTransGen_iff_eq_or_transGen.mp (onFrom.trans upTo) with same | path
      · exact harmless (.inl same)
      · exact harmless (.inr path)

end AccessControl.RoleGraph

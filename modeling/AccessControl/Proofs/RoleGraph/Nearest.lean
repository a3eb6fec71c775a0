/-
**The search for ancestors ends, and finds the nearest first.**

* `RoleGraph.Searches` — the rounds of a search: a role is taken off the queue, and its parents are
  put at the end unless it was seen before. `RoleGraph.searches_walk` — **every search ends**, and
  what it finds is what `RoleGraph.walk` lists.
* `RoleGraph.Climbs`, `RoleGraph.distance` — paths of so many edges, and the shortest of them.
* `RoleGraph.Layered` — the roles of a queue are as many edges away from where the search began as
  their layer says; `RoleGraph.walk_ascends` — **no role is found behind one that is farther away.**
* `RoleGraph.nearest_first` — ancestors, children and circles of any list of edges.
-/

import AccessControl.Proofs.RoleGraph
import Mathlib.Order.Lattice.Nat

namespace AccessControl.RoleGraph

open Relation

variable {edges : List Edge} {role parent child found : Id}

/-! ### The search ends -/

/-- A search from a queue, with some roles seen before, takes so many rounds and finds some roles in
their order. In each round a role is taken off the queue; a role not seen before is found, and its
parents are put at the end of the queue. -/
inductive Searches (edges : List Edge) : List Id → List Id → Nat → List Id → Prop where
  | done {seen : List Id} : Searches edges [] seen 0 []
  | known {current : Id} {queue seen order : List Id} {rounds : Nat} (old : current ∈ seen)
      (rest : Searches edges queue seen rounds order) :
      Searches edges (current :: queue) seen (rounds + 1) order
  | new {current : Id} {queue seen order : List Id} {rounds : Nat} (fresh : current ∉ seen)
      (rest : Searches edges (queue ++ parents edges current) (current :: seen) rounds order) :
      Searches edges (current :: queue) seen (rounds + 1) (current :: order)

/-- **Every search ends**: in as many rounds as there are roles in the queue and edges into roles
not seen yet. -/
theorem searches_walk {fuel : Nat} {queue seen : List Id}
    (enough : queue.length + pending edges seen ≤ fuel) :
    ∃ rounds ≤ fuel, Searches edges queue seen rounds (walk edges fuel queue seen) := by
  induction fuel, queue, seen using walk.induct edges with
  | case1 queue seen =>
    obtain rfl : queue = [] := List.length_eq_zero_iff.mp (by omega)
    exact ⟨0, Nat.le_refl 0, .done⟩
  | case2 => exact ⟨0, Nat.zero_le _, .done⟩
  | case3 fuel current queue seen known ih =>
    rw [walk, if_pos known]
    rw [List.length_cons] at enough
    obtain ⟨rounds, few, searches⟩ := ih (by omega)
    exact ⟨rounds + 1, by omega, .known (List.contains_iff_mem.mp known) searches⟩
  | case4 fuel current queue seen unknown ih =>
    rw [walk, if_neg unknown]
    have unknown : current ∉ seen := fun member => unknown (List.contains_iff_mem.mpr member)
    have fewer : (parents edges current).length + pending edges (current :: seen) =
        pending edges seen := pending_cons unknown
    rw [List.length_cons] at enough
    obtain ⟨rounds, few, searches⟩ := ih (by rw [List.length_append]; omega)
    exact ⟨rounds + 1, by omega, .new unknown searches⟩

/-- A search goes one way only. -/
theorem Searches.unique {queue seen order other : List Id} {rounds more : Nat}
    (searches : Searches edges queue seen rounds order)
    (again : Searches edges queue seen more other) : more = rounds ∧ other = order := by
  induction searches generalizing more other with
  | done =>
    cases again
    exact ⟨rfl, rfl⟩
  | known old _ ih =>
    cases again with
    | known _ rest =>
      obtain ⟨rfl, rfl⟩ := ih rest
      exact ⟨rfl, rfl⟩
    | new fresh _ => exact absurd old fresh
  | new fresh _ ih =>
    cases again with
    | known old _ => exact absurd old fresh
    | new _ rest =>
      obtain ⟨rfl, rfl⟩ := ih rest
      exact ⟨rfl, rfl⟩

/-- What is found is marked as seen, and is not found again. -/
theorem nodup_walk (fuel : Nat) (queue seen : List Id) : (walk edges fuel queue seen).Nodup := by
  induction fuel, queue, seen using walk.induct edges with
  | case1 => exact .nil
  | case2 => exact .nil
  | case3 fuel current queue seen known ih =>
    rw [walk, if_pos known]
    exact ih
  | case4 fuel current queue seen unknown ih =>
    rw [walk, if_neg unknown]
    refine List.nodup_cons.mpr ⟨fun again => ?_, ih⟩
    exact (walk_sound again).1 List.mem_cons_self

/-! ### Distances -/

/-- A path of so many edges leads from one role down to another. -/
inductive Climbs (edges : List Edge) (role : Id) : Nat → Id → Prop where
  | here : Climbs edges role 0 role
  | up {length : Nat} {lower upper : Id} (edge : Above edges upper lower)
      (path : Climbs edges role length lower) : Climbs edges role (length + 1) upper

/-- The number of edges on a shortest path from one role down to another, zero if there is none. -/
noncomputable def distance (edges : List Edge) (upper role : Id) : Nat :=
  sInf {length | Climbs edges role length upper}

/-- A path goes on along a path of so many edges. -/
theorem climbs_of_path {lower upper : Id} (path : ReflTransGen (Above edges) upper lower)
    {length : Nat} (climbs : Climbs edges role length lower) :
    ∃ longer, Climbs edges role longer upper := by
  induction path using ReflTransGen.head_induction_on with
  | refl => exact ⟨length, climbs⟩
  | head edge _ ih =>
    obtain ⟨longer, path⟩ := ih
    exact ⟨longer + 1, path.up edge⟩

/-! ### The layers of the queue -/

/-- The queue of a search from a role falls into two layers: roles that are so many edges above it,
and behind them roles with one edge more. What is nearer was seen, and the first layer misses
nothing that was not; the parents of what was seen are seen or wait in a layer. -/
structure Layered (edges : List Edge) (role : Id) (level : Nat) (first second seen : List Id) :
    Prop where
  near : ∀ waiting ∈ first, Climbs edges role level waiting
  far : ∀ waiting ∈ second, Climbs edges role (level + 1) waiting
  nearer : ∀ length < level, ∀ upper, Climbs edges role length upper → upper ∈ seen
  complete : ∀ upper, Climbs edges role level upper → upper ∈ seen ∨ upper ∈ first
  beyond : ∀ lower ∈ seen, ∀ upper, Above edges upper lower →
    upper ∈ seen ∨ upper ∈ first ∨ upper ∈ second

namespace Layered

variable {level : Nat} {current : Id} {queue first second seen : List Id}

theorem start : Layered edges role 1 (parents edges role) [] [role] where
  near waiting member := .up (mem_parents_iff.mp member) .here
  far _ member := absurd member List.not_mem_nil
  nearer length few upper path := by
    cases path with
    | here => exact List.mem_singleton_self _
    | up => omega
  complete upper path := by
    cases path with
    | up edge path =>
      cases path
      exact .inr (mem_parents_iff.mpr edge)
  beyond lower member upper edge := by
    obtain rfl := List.mem_singleton.mp member
    exact .inr (.inl (mem_parents_iff.mpr edge))

theorem advance (layered : Layered edges role level [] second seen) :
    Layered edges role (level + 1) second [] seen where
  near := layered.far
  far _ member := absurd member List.not_mem_nil
  nearer length few upper path := by
    rcases Nat.lt_succ_iff_lt_or_eq.mp few with nearer | rfl
    · exact layered.nearer length nearer upper path
    · exact (layered.complete upper path).resolve_right List.not_mem_nil
  complete upper path := by
    cases path with
    | up edge path =>
      have old := (layered.complete _ path).resolve_right List.not_mem_nil
      exact (layered.beyond _ old upper edge).imp_right fun waiting =>
        waiting.resolve_left List.not_mem_nil
  beyond lower old upper edge := by
    rcases layered.beyond lower old upper edge with known | waiting | waiting
    · exact .inl known
    · exact absurd waiting List.not_mem_nil
    · exact .inr (.inl waiting)

theorem front (layered : Layered edges role level first second seen)
    (place : first ++ second = current :: queue) :
    ∃ level first second,
      Layered edges role level (current :: first) second seen ∧ first ++ second = queue := by
  cases first with
  | nil =>
    obtain rfl : second = current :: queue := place
    exact ⟨level + 1, queue, [], layered.advance, List.append_nil queue⟩
  | cons waiting first =>
    obtain ⟨rfl, rest⟩ := List.cons.inj place
    exact ⟨level, first, second, layered, rest⟩

/-- What waits behind a role that was seen is seen or waits without it. -/
theorem seen_or_waits {waiting : Id} (old : current ∈ seen) (member : waiting ∈ current :: first) :
    waiting ∈ seen ∨ waiting ∈ first := by
  rcases List.mem_cons.mp member with rfl | waits
  · exact .inl old
  · exact .inr waits

theorem skip (layered : Layered edges role level (current :: first) second seen)
    (old : current ∈ seen) : Layered edges role level first second seen where
  near waiting member := layered.near waiting (List.mem_cons_of_mem _ member)
  far := layered.far
  nearer := layered.nearer
  complete upper path := (layered.complete upper path).elim .inl (seen_or_waits old)
  beyond lower known upper edge := by
    rcases layered.beyond lower known upper edge with known | waiting | waiting
    · exact .inl known
    · exact (seen_or_waits old waiting).imp_right .inl
    · exact .inr (.inr waiting)

theorem visit (layered : Layered edges role level (current :: first) second seen) :
    Layered edges role level first (second ++ parents edges current) (current :: seen) where
  near waiting member := layered.near waiting (List.mem_cons_of_mem _ member)
  far waiting member := by
    rcases List.mem_append.mp member with waits | above
    · exact layered.far waiting waits
    · exact .up (mem_parents_iff.mp above) (layered.near current List.mem_cons_self)
  nearer length few upper path := List.mem_cons_of_mem _ (layered.nearer length few upper path)
  complete upper path := by
    rcases layered.complete upper path with known | waiting
    · exact .inl (List.mem_cons_of_mem _ known)
    · exact seen_or_waits List.mem_cons_self waiting
  beyond lower known upper edge := by
    rcases List.mem_cons.mp known with rfl | known
    · exact .inr (.inr (List.mem_append_right _ (mem_parents_iff.mpr edge)))
    rcases layered.beyond lower known upper edge with known | waiting | waiting
    · exact .inl (List.mem_cons_of_mem _ known)
    · exact (seen_or_waits List.mem_cons_self waiting).imp_right .inl
    · exact .inr (.inr (List.mem_append_left _ waiting))

theorem climbs (layered : Layered edges role level first second seen) {waiting : Id}
    (member : waiting ∈ first ++ second) : ∃ length, Climbs edges role length waiting := by
  rcases List.mem_append.mp member with near | far
  · exact ⟨level, layered.near waiting near⟩
  · exact ⟨level + 1, layered.far waiting far⟩

/-- What a search still finds is at least as far away as its first layer. -/
theorem le_distance (layered : Layered edges role level first second seen) {fuel : Nat}
    (member : found ∈ walk edges fuel (first ++ second) seen) :
    level ≤ distance edges found role := by
  obtain ⟨fresh, start, queued, path⟩ := walk_sound member
  obtain ⟨length, climbs⟩ := layered.climbs queued
  have shortest : Climbs edges role (distance edges found role) found :=
    Nat.sInf_mem (climbs_of_path path climbs)
  by_contra shorter
  exact fresh (layered.nearer _ (Nat.lt_of_not_le shorter) found shortest)

end Layered

/-- **No role is found behind one that is farther away.** -/
theorem walk_ascends {fuel level : Nat} {first second queue seen : List Id}
    (layered : Layered edges role level first second seen) (place : first ++ second = queue) :
    (walk edges fuel queue seen).Pairwise fun earlier later =>
      distance edges earlier role ≤ distance edges later role := by
  induction fuel, queue, seen using walk.induct edges generalizing level first second with
  | case1 => exact .nil
  | case2 => exact .nil
  | case3 fuel current queue seen known ih =>
    rw [walk, if_pos known]
    obtain ⟨level, first, second, layered, rest⟩ := layered.front place
    exact ih (layered.skip (List.contains_iff_mem.mp known)) rest
  | case4 fuel current queue seen unknown ih =>
    rw [walk, if_neg unknown]
    obtain ⟨level, first, second, layered, rfl⟩ := layered.front place
    rw [List.append_assoc] at ih ⊢
    refine List.pairwise_cons.mpr ⟨fun later member => ?_, ih layered.visit rfl⟩
    have here : distance edges current role ≤ level :=
      Nat.sInf_le (layered.near current List.mem_cons_self)
    exact here.trans (layered.visit.le_distance member)

/-! ### Lists of edges -/

theorem map_children (edges : List Edge) (parent : Id) :
    (children edges parent).map (Edge.mk parent) = edges.filter (·.parent = parent) := by
  unfold children
  rw [List.map_map]
  refine (List.map_congr_left fun edge member => ?_).trans (List.map_id _)
  have from_ : edge.parent = parent := of_decide_eq_true (List.mem_filter.mp member).2
  subst from_
  rfl

theorem mem_children_iff :
    child ∈ children edges role ↔ Above edges role child := by
  unfold Above
  rw [← List.mem_map_of_injective (f := Edge.mk role) fun _ _ same => (Edge.mk.inj same).2]
  rw [map_children, List.mem_filter]
  simp

/-- **Ancestors are found completely and nearest first**, whatever the edges are. The search ends in
at most as many rounds as there are edges; it lists the other roles that lead down to a role, each
once and none behind one that is farther away. The children of a role are the ends of its edges in
their order. An edge would close a circle exactly when its ends are one role or a path leads from
its child to its parent. Neither the order of the edges nor their repetition shows in what is listed
or in what would be a circle. -/
theorem nearest_first (edges : List Edge) (role : Id) :
    (∃ rounds ≤ edges.length,
      Searches edges (parents edges role) [role] rounds (ancestors edges role) ∧
      ∀ more order, Searches edges (parents edges role) [role] more order →
        more = rounds ∧ order = ancestors edges role) ∧
    (∀ found, found ∈ ancestors edges role ↔
      found ≠ role ∧ TransGen (Above edges) found role) ∧
    (ancestors edges role).Nodup ∧
    (ancestors edges role).Pairwise (fun earlier later =>
      distance edges earlier role ≤ distance edges later role) ∧
    (children edges role).map (Edge.mk role) = edges.filter (·.parent = role) ∧
    (∀ child, wouldCreateCycle edges role child = true ↔
      role = child ∨ TransGen (Above edges) child role) ∧
    ∀ others : List Edge, (∀ edge, edge ∈ others ↔ edge ∈ edges) →
      (∀ found, found ∈ ancestors others role ↔ found ∈ ancestors edges role) ∧
      ∀ child, wouldCreateCycle others role child = wouldCreateCycle edges role child := by
  have ends : ∃ rounds ≤ edges.length,
      Searches edges (parents edges role) [role] rounds (ancestors edges role) :=
    searches_walk (Nat.le_of_eq length_parents_add_pending)
  obtain ⟨rounds, few, searches⟩ := ends
  refine ⟨⟨rounds, few, searches, fun _ _ again => searches.unique again⟩,
    fun _ => mem_ancestors_iff, nodup_walk _ _ _,
    walk_ascends .start (List.append_nil _), map_children edges role,
    fun _ => wouldCreateCycle_iff, fun others same => ?_⟩
  have above : Above others = Above edges := by
    funext upper lower
    exact propext (same ⟨upper, lower⟩)
  constructor
  · intro found
    rw [mem_ancestors_iff, mem_ancestors_iff, above]
  · intro child
    rw [Bool.eq_iff_iff, wouldCreateCycle_iff, wouldCreateCycle_iff, above]

end AccessControl.RoleGraph

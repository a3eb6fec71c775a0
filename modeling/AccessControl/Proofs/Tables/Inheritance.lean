/-
**Inheritance between roles runs in no circle.**

* `Tables.Reachable.acyclic` — reachable tables hold no circle of edges: an edge is stored only when
  it closes none, and removing edges or roles only leaves fewer.
* `Tables.insertEdge_apply` — between two roles that exist an edge is refused when it is stored
  already or would close a circle, and stored in every other case.
* `Tables.inheritance_admits` — **no circle is ever admitted and no harmless edge ever refused.**
-/

import AccessControl.Proofs.Authority
import AccessControl.Proofs.RoleGraph
import AccessControl.Proofs.Tables.Step

namespace AccessControl.Tables

open RoleGraph

/-- A step of a call closes no circle of edges. -/
theorem Step.acyclic {before after : Tables} {call : Store.Call} (step : Step before call after)
    (acyclic : Acyclic before.edges) : Acyclic after.edges := by
  cases step with
  | insertEdge _ _ _ harmless => exact (acyclic_append_iff acyclic).mpr harmless
  | deleteEdge _ => exact acyclic.subset List.filter_sublist.subset
  | deleteRole _ _ => exact acyclic.subset List.filter_sublist.subset
  | _ => exact acyclic

theorem Reachable.acyclic {tables : Tables} (reachable : Reachable tables) :
    Acyclic tables.edges := by
  refine reachable.induction (fun tables => Acyclic tables.edges) ?_ Step.acyclic
  intro role circle
  obtain ⟨_, _, edge⟩ := Relation.TransGen.tail'_iff.mp circle
  exact List.not_mem_nil edge

variable {tables : Tables} {parent child : Id}

/-- An edge between two roles is refused when it is there or would close a circle. -/
theorem insertEdge_apply (above : parent ∈ tables.roles.map Role.id)
    (below : child ∈ tables.roles.map Role.id) (different : parent ≠ child) :
    insertEdge ⟨parent, child⟩ tables =
      if ⟨parent, child⟩ ∈ tables.edges then (.error (.edgeExists parent child), tables)
      else if wouldCreateCycle tables.edges parent child then
        (.error (.cycle parent child), tables)
      else (.value (), { tables with edges := tables.edges ++ [⟨parent, child⟩] }) := by
  have above : (tables.role? parent).isSome = true := isSome_find?_id.mpr above
  have below : (tables.role? child).isSome = true := isSome_find?_id.mpr below
  unfold insertEdge current
  rw [Effect.reading_bind, Effect.ensure_bind, id, if_pos above, Effect.ensure_bind, if_pos below,
    Effect.ensure_bind, if_pos (decide_eq_true different), Effect.ensure_bind, Effect.ensure_bind]
  by_cases stored : (⟨parent, child⟩ : Edge) ∈ tables.edges
  · simp [stored]
  · by_cases circle : wouldCreateCycle tables.edges parent child = true
    · simp [stored, circle]
    · simp [stored, circle, Effect.modify]

/-- **No circle is ever admitted and no harmless edge ever refused.** The stored edges close no
circle; and between two different roles an edge is stored exactly when it is new and closes none,
all else being a conflict that changes nothing. -/
theorem inheritance_admits (reachable : Reachable tables) :
    Acyclic tables.edges ∧
      ∀ (settings : Settings) (engine : Expression.Engine) (parent child : Id),
        parent ∈ tables.roles.map Role.id → child ∈ tables.roles.map Role.id → parent ≠ child →
        let outcome :=
          (Authority.ofStore store settings).perform (.addInheritance parent child) (tables, engine)
        let harmless :=
          ⟨parent, child⟩ ∉ tables.edges ∧ Acyclic (tables.edges ++ [⟨parent, child⟩])
        (harmless → outcome =
          (.value .done, { tables with edges := tables.edges ++ [⟨parent, child⟩] }, engine)) ∧
        (¬ harmless →
          ∃ cause : Error, cause.kind = .conflict ∧ outcome = (.error cause, tables, engine)) := by
  refine ⟨reachable.acyclic, fun settings engine parent child above below different => ?_⟩
  have performed : (Authority.ofStore store settings).perform (.addInheritance parent child)
      (tables, engine) =
        ((insertEdge ⟨parent, child⟩ tables).1.map fun _ => .done,
          (insertEdge ⟨parent, child⟩ tables).2, engine) :=
    Authority.onTables_apply _ (insertEdge ⟨parent, child⟩) (tables, engine)
  simp only [performed, insertEdge_apply above below different]
  rw [acyclic_append_iff reachable.acyclic]
  by_cases stored : (⟨parent, child⟩ : Edge) ∈ tables.edges
  · rw [if_pos stored]
    refine ⟨fun harmless => absurd stored harmless.1, fun _ => ?_⟩
    exact ⟨.edgeExists parent child, rfl, rfl⟩
  · rw [if_neg stored]
    by_cases circle : wouldCreateCycle tables.edges parent child = true
    · rw [if_pos circle]
      refine ⟨fun harmless => absurd circle (Bool.eq_false_iff.mp harmless.2), fun _ => ?_⟩
      exact ⟨.cycle parent child, rfl, rfl⟩
    · rw [if_neg circle]
      refine ⟨fun _ => rfl, fun harmful => ?_⟩
      exact absurd ⟨stored, Bool.eq_false_iff.mpr circle⟩ harmful

/-- Three roles in a row, each inheriting from the one before. -/
def chain : List Store.Call :=
  [.insertRole { name := "reader" }, .insertRole { name := "editor" },
    .insertRole { name := "chief" }, .insertEdge ⟨1, 2⟩, .insertEdge ⟨2, 3⟩]

/-- In a row of three roles the short cut down is stored and the way back up refused. -/
theorem inheritance_admits_chain :
    (1 ∈ (store.after chain empty).roles.map Role.id ∧
      3 ∈ (store.after chain empty).roles.map Role.id) ∧
    ((Authority.ofStore store {}).perform (.addInheritance 1 3)
        (store.after chain empty, .fresh true) =
      (.value .done, { store.after chain empty with edges := [⟨1, 2⟩, ⟨2, 3⟩, ⟨1, 3⟩] },
        .fresh true)) ∧
    ∃ cause : Error, cause.kind = .conflict ∧
      (Authority.ofStore store {}).perform (.addInheritance 3 1)
          (store.after chain empty, .fresh true) =
        (.error cause, store.after chain empty, .fresh true) := by
  obtain ⟨acyclic, admits⟩ := inheritance_admits (Reachable.start.after chain)
  have down : Acyclic ((store.after chain empty).edges ++ [⟨1, 3⟩]) :=
    (acyclic_append_iff acyclic).mpr (by decide)
  have up : ¬ Acyclic ((store.after chain empty).edges ++ [⟨3, 1⟩]) := fun harmless =>
    absurd ((acyclic_append_iff acyclic).mp harmless) (by decide)
  refine ⟨by decide, ?_, ?_⟩
  · exact (admits {} (.fresh true) 1 3 (by decide) (by decide) (by decide)).1 ⟨by decide, down⟩
  · exact (admits {} (.fresh true) 3 1 (by decide) (by decide) (by decide)).2 fun harmless =>
      up harmless.2

end AccessControl.Tables

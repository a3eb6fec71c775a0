/-
**The resources form a forest.**

* `Tables.forest_replaced` — a resource that is moved into one that is not inside it leaves a
  forest: the new place keeps its way to a root, and every chain that comes by goes on along it.
* `Tables.Reachable.forest` — in reachable tables the parents of every resource lead to a root.
* `Tables.updateResource_apply` — a resource is moved into another one unless that lies within it.
* `Tables.moves_in_forest` — **every harmless move is made and no circle ever closes.**
-/

import AccessControl.Proofs.ResourceTree
import AccessControl.Proofs.Tables.Integrity

namespace AccessControl.Tables

open Relation

section Rows

variable {resources : List Resource} {last id : Id}

theorem inside_of_row (filed : Filed Resource.id last resources) {row : Resource} {parent : Id}
    (stored : row ∈ resources) (within : row.parent = some parent) :
    Inside resources row.id parent := by
  unfold Inside parent?
  rw [filed.found row stored]
  exact within

/-! ### New and removed rows -/

/-- A row at the end stands at a root or inside a resource that is there. -/
theorem forest_append (forest : Forest resources) {row : Resource}
    (inside : ∀ parent, row.parent = some parent → parent ∈ resources.map Resource.id) :
    Forest (resources ++ [row]) := by
  refine forall_append (fun old stored => ?_) ?_
  · exact (forest old stored).mono (List.subset_append_left ..)
  · have new : row ∈ resources ++ [row] := by simp
    cases within : row.parent with
    | none => exact .root new within
    | some parent =>
      obtain ⟨above, stored, rfl⟩ := List.mem_map.mp (inside parent within)
      exact .inside new within ((forest above stored).mono (List.subset_append_left ..))

/-- The way to a root does not lead through a resource without children, except from itself. -/
theorem Rooted.filter (childless : ∀ resource ∈ resources, resource.parent ≠ some id) {place : Id}
    (rooted : Rooted resources place) (apart : place ≠ id) :
    Rooted (resources.filter (·.id ≠ id)) place := by
  induction rooted with
  | root stored top =>
    exact .root (List.mem_filter.mpr ⟨stored, decide_eq_true apart⟩) top
  | @inside row parent stored within _ ih =>
    have above : parent ≠ id := fun same => childless row stored (same ▸ within)
    exact .inside (List.mem_filter.mpr ⟨stored, decide_eq_true apart⟩) within (ih above)

theorem forest_filter (forest : Forest resources)
    (childless : ∀ resource ∈ resources, resource.parent ≠ some id) :
    Forest (resources.filter (·.id ≠ id)) := by
  intro row member
  obtain ⟨stored, apart⟩ := List.mem_filter.mp member
  exact (forest row stored).filter childless (of_decide_eq_true apart)

/-! ### Moved rows -/

variable {moved : Resource}

def replaced (id : Id) (moved : Resource) (resources : List Resource) : List Resource :=
  resources.map fun row => if row.id = id then moved else row

theorem mem_replaced {row : Resource} (stored : row ∈ resources) (apart : row.id ≠ id) :
    row ∈ replaced id moved resources :=
  List.mem_map.mpr ⟨row, stored, if_neg apart⟩

/-- A way to a root that does not lead through the moved resource is still there. -/
theorem Rooted.avoiding (filed : Filed Resource.id last resources) {place : Id}
    (rooted : Rooted resources place)
    (apart : ¬ ReflTransGen (Inside resources) place id) :
    Rooted (replaced id moved resources) place := by
  induction rooted with
  | @root row stored top =>
    have other : row.id ≠ id := fun same => apart (same ▸ .refl)
    exact .root (mem_replaced stored other) top
  | @inside row parent stored within _ ih =>
    have other : row.id ≠ id := fun same => apart (same ▸ .refl)
    have edge : Inside resources row.id parent := inside_of_row filed stored within
    have above : ¬ ReflTransGen (Inside resources) parent id := fun path => apart (.head edge path)
    exact .inside (mem_replaced stored other) within (ih above)

/-- Every way to a root still is one, when the moved resource has one from its new place. -/
theorem Rooted.through (own : Rooted (replaced id moved resources) id) {place : Id}
    (rooted : Rooted resources place) : Rooted (replaced id moved resources) place := by
  induction rooted with
  | @root row stored top =>
    by_cases same : row.id = id
    · exact same ▸ own
    · exact .root (mem_replaced stored same) top
  | @inside row parent stored within _ ih =>
    by_cases same : row.id = id
    · exact same ▸ own
    · exact .inside (mem_replaced stored same) within ih

/-- **A resource that is moved into one that is not within it leaves a forest.** -/
theorem forest_replaced (filed : Filed Resource.id last resources) (forest : Forest resources)
    (present : id ∈ resources.map Resource.id) (named : moved.id = id)
    (inside : ∀ parent, moved.parent = some parent → parent ∈ resources.map Resource.id ∧
      ¬ ReflTransGen (Inside resources) parent id) :
    Forest (replaced id moved resources) := by
  subst named
  obtain ⟨old, stored, own⟩ := List.mem_map.mp present
  have new : moved ∈ replaced moved.id moved resources :=
    List.mem_map.mpr ⟨old, stored, if_pos own⟩
  have ownRoot : Rooted (replaced moved.id moved resources) moved.id := by
    cases within : moved.parent with
    | none => exact .root new within
    | some parent =>
      obtain ⟨known, apart⟩ := inside parent within
      obtain ⟨above, standing, rfl⟩ := List.mem_map.mp known
      exact .inside new within ((forest above standing).avoiding filed apart)
  intro row member
  obtain ⟨before, known, rfl⟩ := List.mem_map.mp member
  split
  · exact ownRoot
  · exact ownRoot.through (forest before known)

end Rows

/-! ### All reachable tables -/

/-- A step of a call leaves a forest. -/
theorem Step.forest {before after : Tables} {call : Store.Call} (step : Step before call after)
    (sound : Sound before) (forest : Forest before.resources) : Forest after.resources := by
  cases step with
  | insertResource _ inside => exact forest_append forest inside
  | updateResource present _ inside =>
    refine forest_replaced sound.resources forest present rfl fun parent within => ?_
    obtain ⟨known, apart⟩ := inside parent within
    exact ⟨known, fun path => Bool.eq_false_iff.mp apart (isWithin_iff.mpr path)⟩
  | deleteResource _ childless _ => exact forest_filter forest childless
  | _ => exact forest

/-- In reachable tables the parents of every resource lead to a root. -/
theorem Reachable.forest {tables : Tables} (reachable : Reachable tables) :
    Forest tables.resources := by
  have both : Sound tables ∧ Forest tables.resources :=
    reachable.induction (fun tables => Sound tables ∧ Forest tables.resources)
      ⟨.empty, fun _ member => nomatch member⟩
      fun step kept => ⟨kept.1.step step, step.forest kept.1 kept.2⟩
  exact both.2

variable {tables : Tables} {id parent : Id} {new : NewResource}

/-- A resource is moved into another one unless that lies within it. -/
theorem updateResource_apply (present : id ∈ tables.resources.map Resource.id)
    (free : ∀ resource ∈ tables.resources, resource.name = new.name → resource.id = id)
    (within : new.parent = some parent) (standing : parent ∈ tables.resources.map Resource.id) :
    store.updateResource id new tables =
      if tables.isWithin id parent then (.error (.nestedInItself id), tables)
      else (.value ⟨id, new.name, new.description, new.parent⟩,
        { tables with
          resources :=
            replaced id ⟨id, new.name, new.description, new.parent⟩ tables.resources }) := by
  have present : (tables.resource? id).isSome = true := isSome_find?_id.mpr present
  have standing : (tables.resource? parent).isSome = true := isSome_find?_id.mpr standing
  have free : (!tables.resourceNameTaken new.name (some id)) = true := not_any_other.mpr free
  show updateResource id new tables = _
  unfold updateResource current
  rw [Effect.reading_bind, Effect.ensure_bind, id_eq, if_pos present, Effect.ensure_bind,
    if_pos free, within]
  show (Effect.ensure _ _ >>= fun _ => Effect.ensure _ _ >>= _) tables = _
  rw [Effect.ensure_bind, if_pos standing, Effect.ensure_bind]
  cases tables.isWithin id parent <;> rfl

theorem isWithin_eq_false_iff :
    tables.isWithin id parent = false ↔ parent ≠ id ∧ ¬ Descends tables.resources parent id := by
  rw [← Bool.not_eq_true, isWithin_iff, reflTransGen_iff_eq_or_transGen, not_or, eq_comm]
  rfl

/-- **Every harmless move is made and no circle ever closes.** The parents of every resource lead to
a root; and a resource is moved into another one exactly when that is neither the resource itself
nor inside it, which leaves a forest again. Any other move is invalid and changes nothing. -/
theorem moves_in_forest (reachable : Reachable tables) :
    Forest tables.resources ∧
      ∀ (id parent : Id) (new : NewResource), id ∈ tables.resources.map Resource.id →
        (∀ resource ∈ tables.resources, resource.name = new.name → resource.id = id) →
        new.parent = some parent → parent ∈ tables.resources.map Resource.id →
        let outcome := store.updateResource id new tables
        let moved : Resource := ⟨id, new.name, new.description, new.parent⟩
        let after : Tables := { tables with resources := replaced id moved tables.resources }
        let harmless := parent ≠ id ∧ ¬ Descends tables.resources parent id
        (harmless → outcome = (.value moved, after) ∧ Forest after.resources) ∧
        (¬ harmless →
          ∃ cause : Error, cause.kind = .validation ∧ outcome = (.error cause, tables)) := by
  refine ⟨reachable.forest, fun id parent new present free within standing => ?_⟩
  intro outcome moved after harmless
  have run : outcome = if tables.isWithin id parent then (.error (.nestedInItself id), tables)
      else (.value moved, after) := updateResource_apply present free within standing
  constructor
  · intro apart
    have apart : tables.isWithin id parent = false := isWithin_eq_false_iff.mpr apart
    rw [run, apart]
    refine ⟨rfl, forest_replaced reachable.sound.resources reachable.forest present rfl ?_⟩
    intro other also
    obtain rfl : parent = other := Option.some.inj (within.symm.trans also)
    exact ⟨standing, fun path => Bool.eq_false_iff.mp apart (isWithin_iff.mpr path)⟩
  · intro harmful
    have nested : tables.isWithin id parent = true := by
      rw [← Bool.not_eq_false, isWithin_eq_false_iff]
      exact harmful
    rw [run, nested]
    exact ⟨.nestedInItself id, rfl, rfl⟩

/-- A shelf with a folder that holds a page, and a box beside it. -/
def shelf : List Store.Call :=
  [.insertResource { name := "shelf" }, .insertResource { name := "folder", parent := some 1 },
    .insertResource { name := "page", parent := some 2 }, .insertResource { name := "box" }]

/-- The folder is moved into the box with its page; the shelf does not go into the page. -/
theorem moves_in_forest_shelf :
    let tables := store.after shelf empty
    let folder : Resource := ⟨2, "folder", none, some 4⟩
    (2 ∈ tables.resources.map Resource.id ∧ 4 ∈ tables.resources.map Resource.id) ∧
    store.updateResource 2 { name := "folder", parent := some 4 } tables =
      (.value folder, { tables with resources := replaced 2 folder tables.resources }) ∧
    ∃ cause : Error, cause.kind = .validation ∧
      store.updateResource 1 { name := "shelf", parent := some 3 } tables =
        (.error cause, tables) := by
  obtain ⟨-, moves⟩ := moves_in_forest (Reachable.start.after shelf)
  have harmless := isWithin_eq_false_iff.mp
    (by decide : (store.after shelf empty).isWithin 2 4 = false)
  have harmful : ¬ (3 ≠ (1 : Id) ∧ ¬ Descends (store.after shelf empty).resources 3 1) :=
    fun apart => absurd (isWithin_eq_false_iff.mpr apart) (by decide)
  refine ⟨by decide, ?_, ?_⟩
  · exact ((moves 2 4 { name := "folder", parent := some 4 } (by decide) (by decide) rfl
      (by decide)).1 harmless).1
  · exact (moves 1 3 { name := "shelf", parent := some 3 } (by decide) (by decide) rfl
      (by decide)).2 harmful

end AccessControl.Tables

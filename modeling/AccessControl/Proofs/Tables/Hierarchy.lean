/-
**The hierarchy of roles, listed role by role.**

* `Authority.ListsChild` — a role is listed among the children of another one.
* `Authority.relatives_apply` — the relatives of a role that exists are looked up by their ids.
* `Tables.Sound.map_id_rows` — where the ids are those of stored roles, no look-up comes to nothing.
* `Tables.Sound.listsChild_eq` — a role lists its children along the stored edges.
* `Tables.hierarchy_lists` — **above a role those are listed that lead down to it child by child**,
  each once, and a role that is deleted takes its edges along.
-/

import AccessControl.Proofs.Listing
import AccessControl.Proofs.RoleGraph.Nearest
import AccessControl.Proofs.Tables.Inheritance
import AccessControl.Proofs.Tables.Removal

namespace AccessControl

open Effect Relation RoleGraph

variable {tables : Tables} {engine : Expression.Engine} {settings : Settings} {role : Id}

/-! ### Looking up relatives -/

/-- A loop over steps that only look collects what they see. -/
theorem Effect.forEach_reading {ε σ α β : Type} (view : α → σ → β) (items : List α) (state : σ) :
    forEach (fun item => (reading (view item) : Effect ε σ β)) items state =
      (.value (items.map (view · state)), state) := by
  induction items with
  | nil => rfl
  | cons item rest ih =>
    show ((reading (view item) : Effect ε σ β) >>= fun result =>
      forEach (fun item => reading (view item)) rest >>= fun results =>
        pure (result :: results)) state = _
    rw [reading_bind, bind_of_value ih]
    rfl

/-- The roles with some ids are the rows found under them. -/
theorem Administration.rolesWithIds_apply (ids : List Id) (tables : Tables) :
    rolesWithIds Tables.store ids tables = (.value (ids.filterMap tables.role?), tables) := by
  have found : forEach Tables.store.role ids tables = (.value (ids.map tables.role?), tables) :=
    forEach_reading (fun id tables => Tables.role? tables id) ids tables
  unfold rolesWithIds
  rw [bind_of_value found]
  show (Ending.value ((ids.map tables.role?).filterMap id), tables) = _
  rw [List.filterMap_map]
  rfl

namespace Authority

/-- A role is listed among the children of another one. -/
def ListsChild {σ : Type} (authority : Authority σ) (world : Check.World σ) (parent child : Id) :
    Prop :=
  ∃ below after,
    authority.perform (.getRoleChildren parent) world = (.value (.roles below), after) ∧
      child ∈ below.map Role.id

section Relatives

variable {relatives : List Edge → List Id}

/-- **The relatives of a role that exists are looked up by their ids.** -/
theorem relatives_apply (present : role ∈ tables.roles.map Role.id) :
    onTables .roles (do
      let _ ← Administration.role Tables.store role
      let edges ← Tables.store.edges
      Administration.rolesWithIds Tables.store (relatives edges)) (tables, engine) =
      (.value (.roles ((relatives tables.edges).filterMap tables.role?)), tables, engine) := by
  obtain ⟨row, here⟩ := Option.isSome_iff_exists.mp (Tables.isSome_find?_id.mpr present)
  have found : Administration.role Tables.store role tables = (.value row, tables) :=
    Prod.ext (Administration.found_value_iff.mpr here) (Administration.found_still _ _ tables)
  have looked : Tables.store.edges tables = (.value tables.edges, tables) := rfl
  rw [onTables_apply, bind_of_value found, bind_of_value looked,
    Administration.rolesWithIds_apply]
  rfl

/-- Only of a role that exists relatives are listed. -/
theorem present_of_relatives {answer : Answer} {after : Check.World Tables}
    (listed : onTables .roles (do
      let _ ← Administration.role Tables.store role
      let edges ← Tables.store.edges
      Administration.rolesWithIds Tables.store (relatives edges)) (tables, engine) =
      (.value answer, after)) :
    role ∈ tables.roles.map Role.id := by
  obtain ⟨rows, done, _⟩ := bind_value_iff.mp (congrArg Prod.fst listed)
  have done : ((Administration.role Tables.store role >>= fun _ =>
    Tables.store.edges >>= fun edges =>
      Administration.rolesWithIds Tables.store (relatives edges)) tables).1 = .value rows := done
  obtain ⟨row, found, _⟩ := bind_value_iff.mp done
  have here : tables.role? role = some row := Administration.found_value_iff.mp found
  exact Tables.isSome_find?_id.mp (Option.isSome_of_eq_some here)

end Relatives

end Authority

namespace Tables

variable {ids : List Id}

/-! ### No relative is left out -/

/-- **Where the ids are those of stored roles, no look-up comes to nothing.** -/
theorem Sound.map_id_rows (sound : Sound tables)
    (known : ∀ id ∈ ids, id ∈ tables.roles.map Role.id) :
    (ids.filterMap tables.role?).map Role.id = ids := by
  rw [List.map_filterMap]
  refine (List.filterMap_congr fun id member => ?_).trans List.filterMap_some
  obtain ⟨row, here⟩ := Option.isSome_iff_exists.mp (isSome_find?_id.mpr (known id member))
  have own : row.id = id := (sound.roles.find?_iff.mp here).2
  show (tables.role? id).map Role.id = some id
  rw [show tables.role? id = some row from here, Option.map_some, own]

theorem mem_of_mem_rows {row : Role} (member : row ∈ ids.filterMap tables.role?) :
    row ∈ tables.roles := by
  obtain ⟨id, _, found⟩ := List.mem_filterMap.mp member
  exact List.mem_of_find?_eq_some found

theorem Sound.ancestors_known (sound : Sound tables) (role : Id) :
    ∀ id ∈ ancestors tables.edges role, id ∈ tables.roles.map Role.id := by
  intro id member
  obtain ⟨lower, edge, _⟩ := TransGen.head'_iff.mp (mem_ancestors_iff.mp member).2
  exact sound.edgeParents _ edge

theorem Sound.children_known (sound : Sound tables) (role : Id) :
    ∀ id ∈ children tables.edges role, id ∈ tables.roles.map Role.id :=
  fun _ member => sound.edgeChildren _ (mem_children_iff.mp member)

theorem Sound.nodup_children (sound : Sound tables) (role : Id) :
    (children tables.edges role).Nodup := by
  refine List.Nodup.of_map (Edge.mk role) ?_
  rw [map_children]
  exact sound.edges.filter _

/-- **A role lists its children along the stored edges.** -/
theorem Sound.listsChild_eq (sound : Sound tables) :
    (Authority.ofStore store settings).ListsChild (tables, engine) = Above tables.edges := by
  funext parent child
  have listed := sound.map_id_rows (sound.children_known parent)
  refine propext ⟨fun ⟨below, after, performed, member⟩ => ?_, fun edge => ?_⟩
  · have present : parent ∈ tables.roles.map Role.id := Authority.present_of_relatives performed
    obtain ⟨rfl⟩ := (Authority.relatives_apply present).symm.trans performed
    rw [listed] at member
    exact mem_children_iff.mp member
  · refine ⟨_, _, Authority.relatives_apply (sound.edgeParents _ edge), ?_⟩
    rw [listed]
    exact mem_children_iff.mpr edge

/-! ### The hierarchy -/

/-- **Above a role those are listed that lead down to it child by child**, each once, none left out
and never the role itself; below it its children, each once. When a role was deleted, the
hierarchies of the others are those of the edges that it was no end of. -/
theorem hierarchy_lists (reachable : Reachable tables) (settings : Settings)
    (engine : Expression.Engine) :
    let authority := Authority.ofStore store settings
    (∀ role ∈ tables.roles.map Role.id,
      (∃ above,
        authority.perform (.getRoleHierarchy role) (tables, engine) =
          (.value (.roles above), tables, engine) ∧
        above ⊆ tables.roles ∧ above.map Role.id = ancestors tables.edges role ∧
        (above.map Role.id).Nodup ∧ role ∉ above.map Role.id ∧
        ∀ upper, upper ∈ above.map Role.id ↔
          TransGen (authority.ListsChild (tables, engine)) upper role) ∧
      ∃ below,
        authority.perform (.getRoleChildren role) (tables, engine) =
          (.value (.roles below), tables, engine) ∧
        below ⊆ tables.roles ∧ below.map Role.id = children tables.edges role ∧
        (below.map Role.id).Nodup ∧
        ∀ child, child ∈ below.map Role.id ↔ ⟨role, child⟩ ∈ tables.edges) ∧
    ∀ gone after, authority.perform (.deleteRole gone) (tables, engine) = (.value .done, after) →
      ∀ role ∈ tables.roles.map Role.id, role ≠ gone →
        ∃ above,
          authority.perform (.getRoleHierarchy role) after = (.value (.roles above), after) ∧
          above ⊆ tables.roles ∧
          above.map Role.id = ancestors (tables.edges.filter fun edge =>
            edge.parent ≠ gone ∧ edge.child ≠ gone) role := by
  have sound := reachable.sound
  refine ⟨fun role present => ⟨?_, ?_⟩, ?_⟩
  · have listed := sound.map_id_rows (sound.ancestors_known role)
    refine ⟨_, Authority.relatives_apply present, fun _ => mem_of_mem_rows, ?_⟩
    rw [listed]
    refine ⟨rfl, nodup_walk _ _ _, fun own => (mem_ancestors_iff.mp own).1 rfl, fun upper => ?_⟩
    rw [mem_ancestors_iff, sound.listsChild_eq]
    exact ⟨And.right, fun path => ⟨fun same => reachable.acyclic _ (same ▸ path), path⟩⟩
  · have listed := sound.map_id_rows (sound.children_known role)
    refine ⟨_, Authority.relatives_apply present, fun _ => mem_of_mem_rows, ?_⟩
    rw [listed]
    exact ⟨rfl, sound.nodup_children role, fun _ => mem_children_iff⟩
  · intro gone after deleted role present apart
    obtain ⟨⟨_, unused⟩, rfl⟩ := (Authority.deleteRole_iff sound).mp deleted
    have sound := sound.deleteRole unused
    have present : role ∈ (tables.roles.filter (·.id ≠ gone)).map Role.id :=
      mem_ids_removed present apart
    refine ⟨_, Authority.relatives_apply present, fun _ row => ?_, ?_⟩
    · exact List.mem_of_mem_filter (mem_of_mem_rows row)
    · exact sound.map_id_rows (sound.ancestors_known role)

/-- A role inherits from two others, and both inherit from a fourth. -/
def diamond : List Store.Call :=
  [.insertRole { name := "reader" }, .insertRole { name := "editor" },
    .insertRole { name := "auditor" }, .insertRole { name := "chief" }, .insertEdge ⟨1, 2⟩,
    .insertEdge ⟨1, 3⟩, .insertEdge ⟨2, 4⟩, .insertEdge ⟨3, 4⟩]

/-- Both ways up from the last role are listed, and one is left when a role on the other is
deleted. -/
theorem hierarchy_lists_diamond :
    let authority := Authority.ofStore store {}
    let world : Check.World Tables := (store.after diamond empty, .fresh true)
    4 ∈ world.1.roles.map Role.id ∧
    (∃ above, authority.perform (.getRoleHierarchy 4) world = (.value (.roles above), world) ∧
      above.map Role.id = [2, 3, 1]) ∧
    ∃ after, authority.perform (.deleteRole 2) world = (.value .done, after) ∧
      ∃ above, authority.perform (.getRoleHierarchy 4) after = (.value (.roles above), after) ∧
        above.map Role.id = [3, 1] := by
  obtain ⟨lists, remain⟩ := hierarchy_lists (Reachable.start.after diamond) {} (.fresh true)
  obtain ⟨⟨above, listed, _, both, _⟩, _⟩ := lists 4 (by decide)
  obtain ⟨others, still, _, one⟩ := remain 2 _ rfl 4 (by decide) (by decide)
  exact ⟨by decide, ⟨above, listed, both.trans (by decide)⟩, _, rfl, others, still,
    one.trans (by decide)⟩

end Tables

end AccessControl

/-
**Grants, and what is kept of their conditions.**

* `Administration.Makes` — what making a grant does to the tables: its condition is kept as text.
* `Administration.listing_after` — the listing of its role then shows what that text is read as, and
  there is no listing any more if the text cannot be read.
* `Administration.grant_rereads` — **a grant keeps the meaning of its condition up to its doubles**:
  what is held against the circumstances is the condition with its values read back.
* `Administration.grant_changes_condition` — a double that its text does not stand for changes the
  meaning, and one that is not finite takes the listing of the role away.
-/

import AccessControl.Proofs.Check.Listing
import AccessControl.Proofs.Condition.Stored

namespace AccessControl.Administration

open Effect

variable {tables after : Tables} {grant : Grant} {permission : Permission} {condition : Condition}

/-! ### Making a grant -/

theorem text?_eq (asked : grant.condition = some condition) :
    grant.text? = some (grant.arrangement condition).text :=
  congrArg (Option.map fun condition => (grant.arrangement condition).text) asked

/-- A grant was made for what exists, and put behind the others. -/
structure Makes (tables : Tables) (grant : Grant) (permission : Permission) (after : Tables) :
    Prop where
  role : (tables.role? grant.role).isSome = true
  resource : (tables.resource? grant.resource).isSome = true
  action : (tables.action? grant.action).isSome = true
  made : permission =
    ⟨tables.lastId + 1, grant.role, grant.resource, grant.action, grant.status,
      grant.text?, grant.priority⟩
  after : after =
    { tables with
      lastId := tables.lastId + 1
      permissions := tables.permissions ++ [permission] }

/-- Making a grant fails, or makes it. -/
theorem makes_of_value
    (made : (Administration.grant Tables.store grant tables).1 = .value permission) :
    Makes tables grant permission (Administration.grant Tables.store grant tables).2 := by
  have leads : (Administration.grant Tables.store grant).Leads tables (Makes tables grant) := by
    refine leads_reading_bind (leads_ensure_bind fun role => ?_)
    refine leads_ensure_bind fun resource => leads_ensure_bind fun action => ?_
    refine leads_ensure_bind fun _ => leads_of_value rfl ?_
    exact ⟨role, resource, action, rfl, rfl⟩
  exact leads.of_value made

/-! ### The listing of its role -/

/-- A grant that is made stands behind those in force of its role, if it is in force itself. -/
theorem Makes.grantsInForce (makes : Makes tables grant permission after) :
    after.grantsInForce grant.role =
      tables.grantsInForce grant.role ++ if grant.status = .active then [permission] else [] := by
  obtain ⟨-, -, -, rfl, rfl⟩ := makes
  unfold Tables.grantsInForce Tables.permissionsOf
  rw [List.filter_append, List.filter_append]
  congr 1
  by_cases inForce : grant.status = .active
  · simp [Permission.isActive, inForce]
  · simp [Permission.isActive, inForce]

/-- What other grants are about stays as it was. -/
theorem Makes.describes_iff (makes : Makes tables grant permission after) {other : Permission}
    {entry : PermissionDetail} : Describes after other entry ↔ Describes tables other entry := by
  obtain ⟨-, -, -, -, rfl⟩ := makes
  exact ⟨fun ⟨permission, role, resource, action, condition, priority⟩ =>
      ⟨permission, role, resource, action, condition, priority⟩,
    fun ⟨permission, role, resource, action, condition, priority⟩ =>
      ⟨permission, role, resource, action, condition, priority⟩⟩

/-- The entry of a grant that was made shows the condition that its text is read as. -/
theorem Makes.described (makes : Makes tables grant permission after)
    (asked : grant.condition = some condition) {again : Condition}
    (read : condition.reread? = some again) :
    ∃ entry, Describes after permission entry ∧ entry.condition = some again := by
  obtain ⟨-, resource, action, rfl, rfl⟩ := makes
  obtain ⟨onResource, foundResource⟩ := Option.isSome_iff_exists.mp resource
  obtain ⟨toAct, foundAction⟩ := Option.isSome_iff_exists.mp action
  refine ⟨⟨_, _, onResource, toAct, some again, _⟩, ⟨rfl, rfl, foundResource, foundAction, ?_, rfl⟩,
    rfl⟩
  show grant.text?.map Condition.ofText? = _
  rw [text?_eq asked]
  exact congrArg some ((grant.arrangement condition).ofText?_text.trans read)

theorem Makes.unreadable (makes : Makes tables grant permission after)
    (asked : grant.condition = some condition) (unread : condition.reread? = none) :
    (detail Tables.store permission after).1 = .error .unreadable := by
  obtain ⟨-, resource, action, rfl, rfl⟩ := makes
  exact detail_unreadable resource action (text?_eq asked)
    ((grant.arrangement condition).ofText?_text.trans unread)

/-- **Making a grant puts an entry behind the listing of its role**, or takes the listing away. -/
theorem listing_after {details : List PermissionDetail}
    (makes : Makes tables grant permission after) (asked : grant.condition = some condition)
    (listing : (rolePermissions Tables.store grant.role tables).1 = .value details) :
    if grant.status = .active then
      match condition.reread? with
      | some again => ∃ entry, Describes after permission entry ∧ entry.condition = some again ∧
        (rolePermissions Tables.store grant.role after).1 = .value (details ++ [entry])
      | none => (rolePermissions Tables.store grant.role after).1 = .error .unreadable
    else (rolePermissions Tables.store grant.role after).1 = .value details := by
  obtain ⟨⟨role, known⟩, described⟩ := rolePermissions_value_iff.mp listing
  have still : after.role? grant.role = some role := makes.after ▸ known
  have described : List.Forall₂ (Describes after) (tables.grantsInForce grant.role) details :=
    described.imp fun _ _ => makes.describes_iff.mpr
  have inForce := makes.grantsInForce
  split
  · rename_i active
    rw [if_pos active] at inForce
    cases read : condition.reread? with
    | some again =>
      obtain ⟨entry, shown, own⟩ := makes.described asked read
      refine ⟨entry, shown, own, rolePermissions_value_iff.mpr ⟨⟨role, still⟩, ?_⟩⟩
      rw [inForce]
      exact List.rel_append described (.cons shown .nil)
    | none =>
      show ((found (reading (Tables.role? · grant.role)) _ >>= _) after).1 = _
      rw [Check.found_some _ still]
      show (forEach (detail Tables.store) (after.grantsInForce grant.role) after).1 = _
      rw [inForce]
      exact forEach_error (detail_still after) (described.imp fun _ _ => detail_value_iff.mpr)
        (makes.unreadable asked read)
  · rename_i idle
    rw [if_neg idle, List.append_nil] at inForce
    rw [rolePermissions_value_iff, inForce]
    exact ⟨⟨role, still⟩, described⟩

/-! ### What becomes of its condition -/

/-- **A grant keeps the meaning of its condition up to its doubles.** Its text, in whatever order
the entries are written, stands for the condition with its values read back, which is the condition
itself exactly if its doubles are read back as they were; and the role whose grants could be listed
has one entry more if the grant is in force, unless the text cannot be read. -/
theorem grant_rereads (asked : grant.condition = some condition)
    (made : (Administration.grant Tables.store grant tables).1 = .value permission) :
    let after := (Administration.grant Tables.store grant tables).2
    let text := (grant.arrangement condition).text
    permission.condition = some text ∧
      (∀ circumstances, Condition.isSatisfiedText text circumstances =
        match condition.reread? with
        | some again => again.isSatisfied circumstances
        | none => pure false) ∧
      (condition.reread? = some condition ↔ condition.Exact) ∧
      ∀ details, (rolePermissions Tables.store grant.role tables).1 = .value details →
        if grant.status = .active then
          match condition.reread? with
          | some again => ∃ entry, Describes after permission entry ∧
            entry.condition = some again ∧
            (rolePermissions Tables.store grant.role after).1 = .value (details ++ [entry])
          | none => (rolePermissions Tables.store grant.role after).1 = .error .unreadable
        else (rolePermissions Tables.store grant.role after).1 = .value details := by
  intro after text
  have makes : Makes tables grant permission after := makes_of_value made
  refine ⟨?_, (grant.arrangement condition).isSatisfiedText_text, Condition.reread?_eq_self_iff,
    fun details listing => listing_after makes asked listing⟩
  rw [makes.made]
  exact text?_eq asked

/-- A user with a role in force, a page, and what can be done to it. -/
def desk : Tables :=
  Tables.store.after
    [.insertUser "ann", .insertRole { name := "reader" }, .insertResource { name := "page" },
      .insertAction { name := "read" }, .assignRole 1 2]
    Tables.empty

def scored (score : Float) : Condition := { user := Dictionary.empty.insert "score" (.float score) }

/-- The role at the desk may read the page if the user has a score. -/
def deskGrant (score : Float) : Grant :=
  { role := 2, resource := 3, action := 4, condition := some (scored score) }

theorem desk_listing : (rolePermissions Tables.store 2 desk).1 = .value [] :=
  rolePermissions_value_iff.mpr ⟨⟨⟨2, "reader", none, .active⟩, by decide⟩, .nil⟩

theorem deskGrant_made (score : Float) :
    (Administration.grant Tables.store (deskGrant score) desk).1 =
      .value ⟨5, 2, 3, 4, .active, some (scored score).text, 0⟩ := rfl

/-- The score is the only double of the condition. -/
theorem scored_exact {score : Float} (finite : score.isFinite = true)
    (same : Json.rereadFloat? score = some score) : (scored score).Exact := by
  refine ⟨nofun, fun key x found => ?_, nofun⟩
  change (Dictionary.empty.insert "score" (AttributeValue.float score)).find? key = _ at found
  rw [Dictionary.find?_insert] at found
  split at found
  · obtain rfl := AttributeValue.float.inj (Option.some.inj found)
    exact ⟨finite, same⟩
  · cases found

/-- A half is read back as it was: the condition means the same, and is listed as it was given. -/
theorem grant_rereads_desk :
    let after := (Administration.grant Tables.store (deskGrant 0.5) desk).2
    (∀ circumstances, Condition.isSatisfiedText (scored 0.5).text circumstances =
      (scored 0.5).isSatisfied circumstances) ∧
      ∃ entry, entry.condition = some (scored 0.5) ∧
        (rolePermissions Tables.store 2 after).1 = .value [entry] := by
  intro after
  have exact : (scored 0.5).Exact := scored_exact (by decide +kernel) (by decide +kernel)
  obtain ⟨-, meaning, same, listed⟩ :=
    @grant_rereads desk (deskGrant 0.5) _ (scored 0.5) rfl (deskGrant_made 0.5)
  have again : (scored 0.5).reread? = some (scored 0.5) := same.mpr exact
  have listed := listed [] desk_listing
  have active : (deskGrant 0.5).status = .active := rfl
  rw [if_pos active, again] at listed
  rw [again] at meaning
  obtain ⟨entry, -, own, listing⟩ := listed
  exact ⟨meaning, entry, own, listing⟩

/-- **A double that is read back as another one changes what the condition means**: a user with the
high score fulfils it, and its text does not hold for them. A condition with a double that is not
finite cannot be read back, and the role whose listing was empty has none any more. -/
theorem grant_changes_condition :
    let high := 9.188997506404703e21
    let circumstances : Circumstances := ⟨(scored high).user, .empty, .empty, .ordered⟩
    let endless := Administration.grant Tables.store (deskGrant (1 / 0)) desk
    (Administration.grant Tables.store (deskGrant high) desk).1 =
        .value ⟨5, 2, 3, 4, .active, some (scored high).text, 0⟩ ∧
      ((scored high).isSatisfied circumstances (.fresh true)).1 = .value true ∧
      (Condition.isSatisfiedText (scored high).text circumstances (.fresh true)).1 =
        .value false ∧
      endless.1 = .value ⟨5, 2, 3, 4, .active, some (scored (1 / 0)).text, 0⟩ ∧
      (rolePermissions Tables.store 2 desk).1 = .value [] ∧
      (rolePermissions Tables.store 2 endless.2).1 = .error .unreadable := by
  intro high circumstances endless
  have unread : (scored (1 / 0)).reread? = none :=
    Option.isNone_iff_eq_none.mp (by decide +kernel)
  have listed := listing_after (makes_of_value (deskGrant_made (1 / 0))) rfl desk_listing
  have active : (deskGrant (1 / 0)).status = .active := rfl
  rw [if_pos active, unread] at listed
  exact ⟨deskGrant_made high, by decide +kernel, by decide +kernel, deskGrant_made (1 / 0),
    desk_listing, listed⟩

end AccessControl.Administration

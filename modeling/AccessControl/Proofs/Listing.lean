/-
**Listings of grants.**

* `Tables.listed` — the grants in force of the roles in force of a user: its roles in the order in
  which they were assigned, the grants of each in the order of their ids.
* `Administration.Describes` — an entry of a listing shows a grant, with the resource and the action
  that it is about and the condition that its stored text is.
* `Administration.userPermissions_value_iff` — **the listing of a user shows the grants in force of
  its roles in force, one entry for each**, and there is none if one of them cannot be shown.
-/

import AccessControl.Proofs.Authority
import AccessControl.Proofs.Tables.Integrity

namespace AccessControl

def Tables.grantsInForce (tables : Tables) (role : Id) : List Permission :=
  (tables.permissionsOf role).filter Permission.isActive

/-- The grants in force of the roles in force of a user. -/
def Tables.listed (tables : Tables) (user : Id) : List Permission :=
  ((tables.rolesOf user).filter Role.isActive).flatMap fun role => tables.grantsInForce role.id

namespace Administration

open Effect

/-- An entry shows a grant, with what it is about as it stands in the tables. -/
structure Describes (tables : Tables) (grant : Permission) (entry : PermissionDetail) : Prop where
  permission : entry.permission = grant.id
  role : entry.role = grant.role
  resource : tables.resource? grant.resource = some entry.resource
  action : tables.action? grant.action = some entry.action
  condition : grant.condition.map Condition.ofText? = entry.condition.map some
  priority : entry.priority = grant.priority

variable {tables : Tables} {permission : Permission} {entry : PermissionDetail}

/-! ### One entry -/

/-- What is looked up is there, or it is an error. -/
theorem found_value_iff {α : Type} {view : Tables → Option α} {otherwise : Error} {row : α} :
    (found (reading view) otherwise tables).1 = .value row ↔ view tables = some row := by
  unfold found
  rw [reading_bind]
  cases view tables with
  | some other => simp [require, Effect.pure]
  | none => simp [require, fail]

theorem found_still {α : Type} (view : Tables → Option α) (otherwise : Error) (tables : Tables) :
    (found (reading view) otherwise tables).2 = tables :=
  @keeps_found _ (· = tables) _ _ (fun _ same => same) otherwise tables rfl

/-- A stored condition is read, or it is an error. -/
theorem readCondition_value_iff {σ : Type} {state : σ} {stored : Option String}
    {condition : Option Condition} :
    (readCondition stored state).1 = .value condition ↔
      stored.map Condition.ofText? = condition.map some := by
  cases stored with
  | none =>
    show Ending.value none = Ending.value condition ↔ _
    cases condition <;> simp
  | some text =>
    show ((ending (.ofExcept (Condition.read text)) >>= fun condition => pure (some condition))
      state).1 = _ ↔ _
    rw [bind_value_iff]
    unfold Condition.read ending
    cases readable : Condition.ofText? text with
    | none => cases condition <;> simp [Ending.ofExcept, readable]
    | some read =>
      show (∃ middle, Ending.value read = .value middle ∧
        Ending.value (some middle) = Ending.value condition) ↔ _
      cases condition <;> simp [readable]

/-- A text that is no condition is an error. -/
theorem readCondition_unreadable {σ : Type} {text : String}
    (unreadable : Condition.ofText? text = none) (state : σ) :
    (readCondition (some text) state).1 = .error .unreadable := by
  have failed : Condition.read text = .error .unreadable := by
    unfold Condition.read
    rw [unreadable]
  show ((ending (.ofExcept (Condition.read text)) >>= _) state).1 = _
  rw [failed]
  exact bind_of_error rfl _

/-- **An entry is made of a grant exactly when it shows it.** -/
theorem detail_value_iff :
    (detail Tables.store permission tables).1 = .value entry ↔
      Describes tables permission entry := by
  show ((found (reading (Tables.resource? · permission.resource)) _ >>= fun resource =>
    found (reading (Tables.action? · permission.action)) _ >>= fun action =>
      readCondition permission.condition >>= fun condition => pure _) tables).1 = _ ↔ _
  simp only [bind_value_iff, found_still, found_value_iff, readCondition_value_iff]
  constructor
  · rintro ⟨resource, onResource, action, toAct, condition, read, same⟩
    obtain rfl := Ending.value.inj same
    exact ⟨rfl, rfl, onResource, toAct, read, rfl⟩
  · intro describes
    obtain ⟨grant, role, resource, action, condition, priority⟩ := entry
    obtain ⟨rfl, rfl, onResource, toAct, read, rfl⟩ := describes
    exact ⟨resource, onResource, action, toAct, condition, read, rfl⟩

/-- **There is no entry for a grant whose condition cannot be read**, if what it is about
is there. -/
theorem detail_unreadable (resource : (tables.resource? permission.resource).isSome = true)
    (action : (tables.action? permission.action).isSome = true) {text : String}
    (written : permission.condition = some text) (unread : Condition.ofText? text = none) :
    (detail Tables.store permission tables).1 = .error .unreadable := by
  obtain ⟨onResource, thereResource⟩ := Option.isSome_iff_exists.mp resource
  obtain ⟨toAct, thereAction⟩ := Option.isSome_iff_exists.mp action
  have run {α : Type} {view : Tables → Option α} {row : α} (here : view tables = some row)
      (otherwise : Error) : found (reading view) otherwise tables = (.value row, tables) :=
    Prod.ext (found_value_iff.mpr here) (found_still view otherwise tables)
  show ((found (reading (Tables.resource? · permission.resource)) _ >>= fun resource =>
    found (reading (Tables.action? · permission.action)) _ >>= fun action =>
      readCondition permission.condition >>= fun condition => pure _) tables).1 = _
  rw [bind_of_value (run thereResource _), bind_of_value (run thereAction _), written]
  exact bind_of_error (readCondition_unreadable unread tables) _

theorem detail_still (tables : Tables) (permission : Permission) :
    (detail Tables.store permission tables).2 = tables :=
  @keeps_detail _ (· = tables) Tables.store Tables.look_keeps permission tables rfl

/-! ### The entries of a role and of a user -/

variable {id : Id} {details : List PermissionDetail}

theorem details_still (tables : Tables) (grants : List Permission) :
    (forEach (detail Tables.store) grants tables).2 = tables :=
  @keeps_forEach _ _ _ _ (· = tables) _ (keeps_detail Tables.look_keeps) grants tables rfl

/-- **A loop over the roles of a user that makes the entries of each one is one loop** over the
listed grants. -/
theorem parts_eq {part : Role → Effect Error Tables (List PermissionDetail)}
    (same : ∀ role ∈ tables.rolesOf id,
      part role tables = forEach (detail Tables.store) (tables.grantsInForce role.id) tables) :
    (forEach part ((tables.rolesOf id).filter Role.isActive) >>= fun parts =>
      pure parts.flatten) tables =
        forEach (detail Tables.store) (tables.listed id) tables := by
  unfold Tables.listed
  rw [← forEach_flatMap, bind_apply, bind_apply]
  rw [forEach_congr (fun role => details_still tables (tables.grantsInForce role.id))
    fun role member => same role (List.mem_of_mem_filter member)]

/-- **The listing of a role shows its grants in force**, one entry for each. -/
theorem rolePermissions_value_iff :
    (rolePermissions Tables.store id tables).1 = .value details ↔
      (∃ row, tables.role? id = some row) ∧
        List.Forall₂ (Describes tables) (tables.grantsInForce id) details := by
  show ((found (reading (Tables.role? · id)) _ >>= _) tables).1 = _ ↔ _
  rw [bind_value_iff, found_still]
  show (∃ row, _ ∧ (forEach (detail Tables.store) (tables.grantsInForce id) tables).1 = _) ↔ _
  simp only [found_value_iff, forEach_value_iff (detail_still tables), detail_value_iff,
    exists_and_right]

/-- The roles of a user are listed that are in force. -/
theorem userRoles_value_iff {roles : List Role} :
    (userRoles Tables.store id tables).1 = .value roles ↔
      (∃ row, tables.user? id = some row) ∧ (tables.rolesOf id).filter Role.isActive = roles := by
  show ((found (reading (Tables.user? · id)) _ >>= _) tables).1 = _ ↔ _
  rw [bind_value_iff, found_still]
  show (∃ row, _ ∧ Ending.value ((tables.rolesOf id).filter Role.isActive) = .value roles) ↔ _
  simp only [found_value_iff, Ending.value.injEq, exists_and_right]

/-- **The listing of a user shows the grants in force of its roles in force**, an entry for each. -/
theorem userPermissions_value_iff :
    (userPermissions Tables.store id tables).1 = .value details ↔
      (∃ row, tables.user? id = some row) ∧
        List.Forall₂ (Describes tables) (tables.listed id) details := by
  show ((found (reading (Tables.user? · id)) _ >>= _) tables).1 = _ ↔ _
  rw [bind_value_iff, found_still]
  let entries (role : Role) : Effect Error Tables (List PermissionDetail) :=
    reading (Tables.permissionsOf · role.id) >>= activeDetails Tables.store
  show (∃ row, _ ∧ ((forEach entries ((tables.rolesOf id).filter Role.isActive) >>= fun parts =>
    pure parts.flatten) tables).1 = _) ↔ _
  have same : ∀ role ∈ tables.rolesOf id,
    entries role tables = forEach (detail Tables.store) (tables.grantsInForce role.id) tables :=
      fun _ _ => rfl
  rw [parts_eq same]
  simp only [found_value_iff, forEach_value_iff (detail_still tables), detail_value_iff,
    exists_and_right]

end Administration

end AccessControl

/-
**Entities as rows of the database, read back.**

* `Row.bigint_iff` and its neighbours — when a column has a value.
* `Row.ofUser`, `Row.ofRole`, … — the row that an entity is, its columns as they are written: a
  status, a kind of owner and a type by their names, a value as text beside its type.
* `Row.user_ofUser`, `Row.role_ofRole`, … — **every entity is read back from its row**, a stored
  fact if its value is read back from its text.
* `Row.mapM_read` — and so are the entities of several rows, in their order.
-/

import AccessControl.Proofs.Attribute
import AccessControl.Sql.Rows

namespace AccessControl.Sql

/-- A text that may be missing, as the value of a column. -/
def Cell.optionalText : Option String → Cell
  | some value => .text value
  | none => .null

/-- A number that may be missing, as the value of a column. -/
def Cell.optionalBigint : Option Int → Cell
  | some value => .bigint value
  | none => .null

namespace Row

/-! ### Columns -/

section Columns

variable {row : Row} {name : String}

theorem bigint_iff {value : Int} :
    row.bigint name = .ok value ↔ row.lookup name = some (.bigint value) := by
  unfold bigint cell
  cases row.lookup name with
  | none => simp [bind, Except.bind]
  | some cell => cases cell <;> simp [bind, Except.bind]

theorem boolean_iff {value : Bool} :
    row.boolean name = .ok value ↔ row.lookup name = some (.boolean value) := by
  unfold boolean cell
  cases row.lookup name with
  | none => simp [bind, Except.bind]
  | some cell => cases cell <;> simp [bind, Except.bind]

theorem text_iff {value : String} :
    row.text name = .ok value ↔ row.lookup name = some (.text value) := by
  unfold Row.text cell
  cases row.lookup name with
  | none => simp [bind, Except.bind]
  | some cell => cases cell <;> simp [bind, Except.bind]

end Columns

/-! ### Entities as rows -/

def ofUser (user : User) : Row :=
  [("id", .bigint user.id), ("username", .text user.username), ("created_at", .time)]

def ofResource (resource : Resource) : Row :=
  [("id", .bigint resource.id), ("name", .text resource.name),
    ("description", .optionalText resource.description),
    ("parent_id", .optionalBigint resource.parent), ("created_at", .time), ("updated_at", .time)]

def ofAction (action : Action) : Row :=
  [("id", .bigint action.id), ("name", .text action.name),
    ("description", .optionalText action.description), ("created_at", .time), ("updated_at", .time)]

def ofRole (role : Role) : Row :=
  [("id", .bigint role.id), ("name", .text role.name),
    ("description", .optionalText role.description), ("status", .text role.status.name),
    ("created_at", .time)]

def ofEdge (edge : Edge) : Row :=
  [("parent_id", .bigint edge.parent), ("child_id", .bigint edge.child)]

def ofPermission (permission : Permission) : Row :=
  [("id", .bigint permission.id), ("role_id", .bigint permission.role),
    ("resource_id", .bigint permission.resource), ("action_id", .bigint permission.action),
    ("status", .text permission.status.name), ("condition", .optionalText permission.condition),
    ("priority", .integer permission.priority), ("created_at", .time)]

def ofFact (fact : Attribute) : Row :=
  [("owner_type", .text fact.owner.name), ("owner_id", .bigint fact.ownerId),
    ("key", .text fact.key), ("value", .text fact.value.encode),
    ("value_type", .text fact.type.name), ("updated_at", .time)]

/-! ### Entities read back -/

theorem user_ofUser (user : User) : (ofUser user).user = .ok user := rfl

theorem resource_ofResource (resource : Resource) :
    (ofResource resource).resource = .ok resource := by
  obtain ⟨id, name, description, parent⟩ := resource
  cases description <;> cases parent <;> rfl

theorem action_ofAction (action : Action) : (ofAction action).action = .ok action := by
  obtain ⟨id, name, description⟩ := action
  cases description <;> rfl

theorem role_ofRole (role : Role) : (ofRole role).role = .ok role := by
  obtain ⟨id, name, description, status⟩ := role
  cases description <;> cases status <;> rfl

theorem edge_ofEdge (edge : Edge) : (ofEdge edge).edge = .ok edge := rfl

theorem permission_ofPermission (permission : Permission) :
    (ofPermission permission).permission = .ok permission := by
  obtain ⟨id, role, resource, action, status, condition, priority⟩ := permission
  cases condition <;> cases status <;> rfl

/-- **A stored fact is read back from its row**, if its value is from its text. -/
theorem fact_ofFact {fact : Attribute} (own : fact.type = fact.value.type)
    (legible : fact.value.Legible) : (ofFact fact).fact = .ok fact := by
  obtain ⟨owner, ownerId, key, value, type⟩ := fact
  obtain rfl : type = value.type := own
  have ownerRead : attributeOwner owner.name = .ok owner := by cases owner <;> rfl
  have typeRead : attributeType value.type.name = .ok value.type := by cases value <;> rfl
  have valueRead : AttributeValue.decode value.type value.encode = .ok value := by
    unfold AttributeValue.decode
    rw [AttributeValue.ofText?_encode legible]
  have columns : (ofFact ⟨owner, ownerId, key, value, value.type⟩).fact = (do
      let type ← attributeType value.type.name
      let owner ← attributeOwner owner.name
      let value ← AttributeValue.decode type value.encode
      pure { owner, ownerId, key, value, type }) := rfl
  rw [columns, typeRead, ownerRead]
  show (AttributeValue.decode value.type value.encode >>= fun value' =>
    pure (Attribute.mk owner ownerId key value' value.type)) = _
  rw [valueRead]
  rfl

/-- **Entities are read back from their rows, in their order.** -/
theorem mapM_read {α : Type} {read : Row → Checked α} {written : α → Row} {entities : List α}
    (back : ∀ entity ∈ entities, read (written entity) = .ok entity) :
    (entities.map written).mapM read = .ok entities := by
  induction entities with
  | nil => rfl
  | cons entity rest ih =>
    obtain ⟨here, later⟩ := List.forall_mem_cons.mp back
    rw [List.map_cons, List.mapM_cons, here, ih later]
    rfl

end Row

end AccessControl.Sql

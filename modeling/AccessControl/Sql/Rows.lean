/-
**Rows of the database as entities.**

* `Row.bigint`, `Row.text`, … — the value of a column, which must be there and of exactly that type;
  a value that may be missing may also be null.
* `Row.user`, `Row.role`, … — an entity, its columns read in a fixed order; the first that cannot be
  read is the error.
-/

import AccessControl.Entity.Basic
import AccessControl.Sql.Session

namespace AccessControl.Sql.Row

/-! ### Columns -/

/-- A column of a row, which must be there. -/
def cell (row : Row) (name : String) : Checked Cell :=
  match row.lookup name with
  | some cell => .ok cell
  | none => .error (.column name)

def bigint (row : Row) (name : String) : Checked Int := do
  match ← row.cell name with
  | .bigint value => .ok value
  | _ => .error (.column name)

def integer (row : Row) (name : String) : Checked Int := do
  match ← row.cell name with
  | .integer value => .ok value
  | _ => .error (.column name)

def boolean (row : Row) (name : String) : Checked Bool := do
  match ← row.cell name with
  | .boolean value => .ok value
  | _ => .error (.column name)

def text (row : Row) (name : String) : Checked String := do
  match ← row.cell name with
  | .text value => .ok value
  | _ => .error (.column name)

/-- A time, which is looked at only to see that it is one. -/
def time (row : Row) (name : String) : Checked Unit := do
  match ← row.cell name with
  | .time => .ok ()
  | _ => .error (.column name)

/-- A number of 64 bits that may be missing. -/
def bigint? (row : Row) (name : String) : Checked (Option Int) := do
  match ← row.cell name with
  | .null => .ok none
  | _ => return some (← row.bigint name)

/-- A text that may be missing. -/
def text? (row : Row) (name : String) : Checked (Option String) := do
  match ← row.cell name with
  | .null => .ok none
  | _ => return some (← row.text name)

/-! ### Entities -/

def user (row : Row) : Checked User := do
  let id ← row.bigint "id"
  let username ← row.text "username"
  row.time "created_at"
  pure { id, username }

def resource (row : Row) : Checked Resource := do
  let id ← row.bigint "id"
  let name ← row.text "name"
  let description ← row.text? "description"
  let parent ← row.bigint? "parent_id"
  row.time "created_at"
  row.time "updated_at"
  pure { id, name, description, parent }

def action (row : Row) : Checked Action := do
  let id ← row.bigint "id"
  let name ← row.text "name"
  let description ← row.text? "description"
  row.time "created_at"
  row.time "updated_at"
  pure { id, name, description }

def role (row : Row) : Checked Role := do
  let word ← row.text "status"
  let id ← row.bigint "id"
  let name ← row.text "name"
  let description ← row.text? "description"
  let status ← roleStatus word
  row.time "created_at"
  pure { id, name, description, status }

def edge (row : Row) : Checked Edge := do
  let parent ← row.bigint "parent_id"
  let child ← row.bigint "child_id"
  pure { parent, child }

def permission (row : Row) : Checked Permission := do
  let word ← row.text "status"
  let id ← row.bigint "id"
  let role ← row.bigint "role_id"
  let resource ← row.bigint "resource_id"
  let action ← row.bigint "action_id"
  let status ← permissionStatus word
  let condition ← row.text? "condition"
  let priority ← row.integer "priority"
  row.time "created_at"
  pure { id, role, resource, action, status, condition, priority }

def fact (row : Row) : Checked Attribute := do
  let ownerWord ← row.text "owner_type"
  let type ← attributeType (← row.text "value_type")
  let text ← row.text "value"
  let owner ← attributeOwner ownerWord
  let ownerId ← row.bigint "owner_id"
  let key ← row.text "key"
  let value ← AttributeValue.decode type text
  row.time "updated_at"
  pure { owner, ownerId, key, value, type }

def auditEntry (row : Row) : Checked AuditEntry := do
  let id ← row.bigint "id"
  let user ← row.bigint "user_id"
  let resource ← row.bigint "resource_id"
  let action ← row.bigint "action_id"
  let operation ← row.text "operation"
  let result ← row.boolean "result"
  let reason ← row.text "reason"
  let context ← row.text? "context"
  row.time "created_at"
  pure { id, user, resource, action, operation, result, reason, context }

end AccessControl.Sql.Row

/-
**Tables held in a database.**

* Reading and single writes are one statement each; the database sees to uniqueness and references.
* What has to look before it writes does both in one transaction: it locks the rows that it is
  about, and nothing is sent after a refusal or an answer that forbids the change.
* `Sql.store` — all of it together, as a place for the tables.
-/

import AccessControl.RoleGraph
import AccessControl.Sql.Rows
import AccessControl.Store

namespace AccessControl.Sql

open Session

/-! ### Common parts -/

/-- An entity in the one row of a statement. -/
def oneAs {α : Type} (read : Row → Checked α) (context : String) (reading : Reading)
    (statement : Statement) : Exchange α := do
  checked (read (← one context reading statement))

/-- An entity in the first row of a statement, if there is one. -/
def firstAs {α : Type} (read : Row → Checked α) (context : String) (statement : Statement) :
    Exchange (Option α) := do
  match ← first context .plain statement with
  | some row => return some (← checked (read row))
  | none => pure none

/-- An entity in the first row of a statement, or an error when there is none. -/
def foundAs {α : Type} (read : Row → Checked α) (context : String) (reading : Reading)
    (otherwise : Error) (statement : Statement) : Exchange α := do
  let row ← Effect.require (← first context reading statement) otherwise
  checked (read row)

def allAs {α : Type} (read : Row → Checked α) (context : String) (statement : Statement) :
    Exchange (List α) := do
  checked ((← rows context .plain statement).mapM read)

/-- Lock the row with an id, which must be there. -/
def lockRow (table mode : String) (id : Id) (otherwise : Error) : Exchange Unit := do
  let statement : Statement :=
    ⟨"SELECT id FROM " ++ table ++ " WHERE id = $1 FOR " ++ mode, [.integer id]⟩
  let row ← first "Failed to lock row" .plain statement
  Effect.ensure row.isSome otherwise

/-- Go on only if a count is not positive. -/
def ensureNone (statement : String) (id : Id) (otherwise : Error) : Exchange Unit := do
  let row ← one "Failed to count references" .plain ⟨statement, [.integer id]⟩
  let count ← checked (row.bigint "n")
  Effect.ensure (count ≤ 0) otherwise

/-- A statement that must have been about some row. -/
def ensureAffected (context : String) (otherwise : Error) (statement : Statement) :
    Exchange Unit := do
  let count ← affected context .plain statement
  Effect.ensure (count ≠ 0) otherwise

/-! ### Users -/

def insertUser (username : String) : Exchange User :=
  oneAs Row.user "Failed to create user" .writing
    ⟨"INSERT INTO authz_users (username) VALUES ($1) RETURNING *", [.text username]⟩

def user (id : Id) : Exchange (Option User) :=
  firstAs Row.user "Failed to get user" ⟨"SELECT * FROM authz_users WHERE id = $1", [.integer id]⟩

/-! ### Resources and actions -/

def insertResource (new : NewResource) : Exchange Resource :=
  oneAs Row.resource "Failed to create resource" .writing
    ⟨"INSERT INTO authz_resources (name, description, parent_id) VALUES ($1, $2, $3) RETURNING *",
      [.text new.name, .optionalText new.description, .optionalId new.parent]⟩

/-- The number under which changes of parents are made one after the other. -/
def parentLock : Int := 0x617770726e74

/-- The question whether the second of two resources is on the chain of parents of the first. -/
def lineageQuery : String :=
  "WITH RECURSIVE lineage (id, parent_id) AS ( " ++
    "SELECT id, parent_id FROM authz_resources WHERE id = $1 UNION " ++
    "SELECT r.id, r.parent_id FROM authz_resources r JOIN lineage l ON r.id = l.parent_id ) " ++
    "SELECT EXISTS (SELECT 1 FROM lineage WHERE id = $2) AS nested"

/-- Lock the changes of parents, if there is to be a parent. -/
def lockParents : Option Id → Exchange Unit
  | some _ =>
    execute "Failed to lock resource lineage" .plain
      ⟨"SELECT pg_advisory_xact_lock($1)", [.integer parentLock]⟩
  | none => pure ()

/-- Go on only if a resource would not come to lie inside itself. -/
def ensureNotNested (id : Id) : Option Id → Exchange Unit
  | some parent => do
    let row ← one "Failed to inspect resource lineage" .plain
      ⟨lineageQuery, [.integer parent, .integer id]⟩
    let nested ← checked (row.boolean "nested")
    Effect.ensure (!nested) (.nestedInItself id)
  | none => pure ()

def updateResource (id : Id) (new : NewResource) : Exchange Resource := do
  start
  lockParents new.parent
  lockRow "authz_resources" "UPDATE" id (.noId .resource id)
  ensureNotNested id new.parent
  let row ← one "Failed to update resource" .writing
    ⟨"UPDATE authz_resources SET name = $2, description = $3, parent_id = $4, " ++
        "updated_at = NOW() WHERE id = $1 RETURNING *",
      [.integer id, .text new.name, .optionalText new.description, .optionalId new.parent]⟩
  commit
  checked row.resource

/-- Remove a resource and its attributes. -/
def deleteResource (id : Id) : Exchange Unit := do
  start
  lockRow "authz_resources" "UPDATE" id (.noId .resource id)
  ensureNone "SELECT COUNT(*) AS n FROM authz_resources WHERE parent_id = $1" id (.hasChildren id)
  ensureNone "SELECT COUNT(*) AS n FROM authz_permissions WHERE resource_id = $1" id
    (.referenced .resource id)
  execute "Failed to delete resource attributes" .plain
    ⟨"DELETE FROM authz_attributes WHERE owner_type = 'resource' AND owner_id = $1", [.integer id]⟩
  execute "Failed to delete resource" .removing
    ⟨"DELETE FROM authz_resources WHERE id = $1", [.integer id]⟩
  commit

def resource (id : Id) : Exchange (Option Resource) :=
  firstAs Row.resource "Failed to get resource"
    ⟨"SELECT * FROM authz_resources WHERE id = $1", [.integer id]⟩

def resourceByName (name : String) : Exchange (Option Resource) :=
  firstAs Row.resource "Failed to get resource"
    ⟨"SELECT * FROM authz_resources WHERE name = $1", [.text name]⟩

def resources : Exchange (List Resource) :=
  allAs Row.resource "Failed to list resources" ⟨"SELECT * FROM authz_resources ORDER BY id", []⟩

def childResources (id : Id) : Exchange (List Resource) :=
  allAs Row.resource "Failed to list child resources"
    ⟨"SELECT * FROM authz_resources WHERE parent_id = $1 ORDER BY id", [.integer id]⟩

def insertAction (new : NewAction) : Exchange Action :=
  oneAs Row.action "Failed to create action" .writing
    ⟨"INSERT INTO authz_actions (name, description) VALUES ($1, $2) RETURNING *",
      [.text new.name, .optionalText new.description]⟩

def updateAction (id : Id) (new : NewAction) : Exchange Action :=
  foundAs Row.action "Failed to update action" .writing (.noId .action id)
    ⟨"UPDATE authz_actions SET name = $2, description = $3, updated_at = NOW() " ++
        "WHERE id = $1 RETURNING *",
      [.integer id, .text new.name, .optionalText new.description]⟩

def deleteAction (id : Id) : Exchange Unit := do
  start
  lockRow "authz_actions" "UPDATE" id (.noId .action id)
  ensureNone "SELECT COUNT(*) AS n FROM authz_permissions WHERE action_id = $1" id
    (.referenced .action id)
  execute "Failed to delete action" .removing
    ⟨"DELETE FROM authz_actions WHERE id = $1", [.integer id]⟩
  commit

def action (id : Id) : Exchange (Option Action) :=
  firstAs Row.action "Failed to get action"
    ⟨"SELECT * FROM authz_actions WHERE id = $1", [.integer id]⟩

def actionByName (name : String) : Exchange (Option Action) :=
  firstAs Row.action "Failed to get action"
    ⟨"SELECT * FROM authz_actions WHERE name = $1", [.text name]⟩

def actions : Exchange (List Action) :=
  allAs Row.action "Failed to list actions" ⟨"SELECT * FROM authz_actions ORDER BY id", []⟩

/-! ### Roles -/

def insertRole (new : NewRole) : Exchange Role :=
  oneAs Row.role "Failed to create role" .writing
    ⟨"INSERT INTO authz_roles (name, description, status) VALUES ($1, $2, $3) RETURNING *",
      [.text new.name, .optionalText new.description, .text new.status.name]⟩

/-- Put a role in or out of force. -/
def setRoleStatus (id : Id) (status : Status) : Exchange Role :=
  foundAs Row.role "Failed to update role" .plain (.noId .role id)
    ⟨"UPDATE authz_roles SET status = $2 WHERE id = $1 RETURNING *",
      [.integer id, .text status.name]⟩

/-- Remove a role; the database removes its links and edges with it. -/
def deleteRole (id : Id) : Exchange Unit := do
  start
  lockRow "authz_roles" "UPDATE" id (.noId .role id)
  ensureNone "SELECT COUNT(*) AS n FROM authz_permissions WHERE role_id = $1" id
    (.referenced .role id)
  execute "Failed to delete role" .removing ⟨"DELETE FROM authz_roles WHERE id = $1", [.integer id]⟩
  commit

def role (id : Id) : Exchange (Option Role) :=
  firstAs Row.role "Failed to get role" ⟨"SELECT * FROM authz_roles WHERE id = $1", [.integer id]⟩

def roleByName (name : String) : Exchange (Option Role) :=
  firstAs Row.role "Failed to get role" ⟨"SELECT * FROM authz_roles WHERE name = $1", [.text name]⟩

def roles : Exchange (List Role) :=
  allAs Row.role "Failed to list roles" ⟨"SELECT * FROM authz_roles ORDER BY id", []⟩

def assignRole (user role : Id) : Exchange Unit :=
  execute "Failed to assign role" .writing
    ⟨"INSERT INTO authz_user_roles (user_id, role_id) VALUES ($1, $2)",
      [.integer user, .integer role]⟩

def unassignRole (user role : Id) : Exchange Unit :=
  ensureAffected "Failed to unassign role" (.notLinked user role)
    ⟨"DELETE FROM authz_user_roles WHERE user_id = $1 AND role_id = $2",
      [.integer user, .integer role]⟩

/-- The roles of a user, in the order in which they were assigned. -/
def userRoles (user : Id) : Exchange (List Role) :=
  allAs Row.role "Failed to load user roles"
    ⟨"SELECT r.* FROM authz_user_roles ur JOIN authz_roles r ON r.id = ur.role_id " ++
        "WHERE ur.user_id = $1 ORDER BY ur.assigned_seq",
      [.integer user]⟩

/-- Declare that a role inherits from another, unless that closes a circle. -/
def insertEdge (edge : Edge) : Exchange Unit := do
  start
  execute "Failed to lock role hierarchy" .plain
    ⟨"LOCK TABLE authz_role_hierarchy IN SHARE ROW EXCLUSIVE MODE", []⟩
  lockRow "authz_roles" "SHARE" edge.parent (.noId .role edge.parent)
  lockRow "authz_roles" "SHARE" edge.child (.noId .role edge.child)
  Effect.ensure (edge.parent ≠ edge.child) (.inheritsFromItself edge.parent)
  let edges ← allAs Row.edge "Failed to load role hierarchy"
    ⟨"SELECT parent_id, child_id FROM authz_role_hierarchy", []⟩
  Effect.ensure (!edges.contains edge) (.edgeExists edge.parent edge.child)
  Effect.ensure (!RoleGraph.wouldCreateCycle edges edge.parent edge.child)
    (.cycle edge.parent edge.child)
  execute "Failed to add role inheritance" .writing
    ⟨"INSERT INTO authz_role_hierarchy (parent_id, child_id) VALUES ($1, $2)",
      [.integer edge.parent, .integer edge.child]⟩
  commit

/-- Take a declaration of inheritance back. -/
def deleteEdge (edge : Edge) : Exchange Unit :=
  ensureAffected "Failed to remove role inheritance" (.noEdge edge.parent edge.child)
    ⟨"DELETE FROM authz_role_hierarchy WHERE parent_id = $1 AND child_id = $2",
      [.integer edge.parent, .integer edge.child]⟩

/-- All declarations of inheritance, in the order in which they were made. -/
def edges : Exchange (List Edge) :=
  allAs Row.edge "Failed to load role hierarchy"
    ⟨"SELECT parent_id, child_id FROM authz_role_hierarchy ORDER BY created_at", []⟩

/-! ### Grants -/

def insertPermission (new : NewPermission) : Exchange Permission :=
  oneAs Row.permission "Failed to grant permission" .writing
    ⟨"INSERT INTO authz_permissions " ++
        "(role_id, resource_id, action_id, status, condition, priority) " ++
        "VALUES ($1, $2, $3, $4, $5, $6) RETURNING *",
      [.integer new.role, .integer new.resource, .integer new.action, .text new.status.name,
        .optionalText new.condition, .integer new.priority]⟩

def deletePermission (role resource action : Id) : Exchange Unit :=
  ensureAffected "Failed to revoke permission" (.noGrant role resource action)
    ⟨"DELETE FROM authz_permissions WHERE role_id = $1 AND resource_id = $2 AND action_id = $3",
      [.integer role, .integer resource, .integer action]⟩

/-- Put a grant in or out of force. -/
def setPermissionStatus (id : Id) (status : Status) : Exchange Permission :=
  foundAs Row.permission "Failed to update permission" .plain (.noId .permission id)
    ⟨"UPDATE authz_permissions SET status = $2 WHERE id = $1 RETURNING *",
      [.integer id, .text status.name]⟩

def permission (id : Id) : Exchange (Option Permission) :=
  firstAs Row.permission "Failed to get permission"
    ⟨"SELECT * FROM authz_permissions WHERE id = $1", [.integer id]⟩

def rolePermissions (role : Id) : Exchange (List Permission) :=
  allAs Row.permission "Failed to load role permissions"
    ⟨"SELECT * FROM authz_permissions WHERE role_id = $1 ORDER BY id", [.integer role]⟩

/-! ### Attributes -/

/-- The table and the kind of an owner of attributes. -/
def ownerTable : Owner → String × Entity
  | .user => ("authz_users", .user)
  | .resource => ("authz_resources", .resource)

def setAttribute (owner : Owner) (id : Id) (key : String) (value : AttributeValue) :
    Exchange Attribute := do
  start
  lockRow (ownerTable owner).1 "SHARE" id (.noId (ownerTable owner).2 id)
  let row ← one "Failed to set attribute" .plain
    ⟨"INSERT INTO authz_attributes (owner_type, owner_id, key, value, value_type, updated_at) " ++
        "VALUES ($1, $2, $3, $4, $5, NOW()) ON CONFLICT (owner_type, owner_id, key) " ++
        "DO UPDATE SET value = EXCLUDED.value, value_type = EXCLUDED.value_type, " ++
        "updated_at = NOW() RETURNING *",
      [.text owner.name, .integer id, .text key, .text value.encode, .text value.type.name]⟩
  commit
  checked row.fact

/-- The attributes of an owner, in the order of their keys. -/
def attributes (owner : Owner) (id : Id) : Exchange (List Attribute) :=
  allAs Row.fact "Failed to load attributes"
    ⟨"SELECT * FROM authz_attributes WHERE owner_type = $1 AND owner_id = $2 ORDER BY key",
      [.text owner.name, .integer id]⟩

/-! ### The audit log -/

def appendAudit (new : NewAuditEntry) : Exchange AuditEntry :=
  oneAs Row.auditEntry "Failed to write audit entry" .plain
    ⟨"INSERT INTO authz_audit_log " ++
        "(user_id, resource_id, action_id, operation, result, reason, context) " ++
        "VALUES ($1, $2, $3, $4, $5, $6, $7) RETURNING *",
      [.integer new.user, .integer new.resource, .integer new.action, .text new.operation,
        .boolean new.result, .text new.reason, .optionalText new.context]⟩

/-- The newest recorded decisions that a query asks for. -/
def auditEntries (query : AuditQuery) : Exchange (List AuditEntry) :=
  allAs Row.auditEntry "Failed to query audit log"
    ⟨"SELECT * FROM authz_audit_log WHERE ($1::BIGINT IS NULL OR user_id = $1) " ++
        "ORDER BY id DESC LIMIT $2",
      [.optionalId query.user, .integer (min (query.limit : Int) Word.greatestInt64)]⟩

/-- The numbers of decisions; a difference that does not fit 64 bits breaks off. -/
def statsOf (total allowed : Int) : Exchange AuditStats :=
  if Word.leastInt64 ≤ total - allowed ∧ total - allowed ≤ Word.greatestInt64 then
    pure ⟨Word.unsigned total, Word.unsigned allowed, Word.unsigned (total - allowed)⟩
  else Effect.ending .broken

def auditStats : Exchange AuditStats := do
  let row ← one "Failed to compute audit stats" .plain
    ⟨"SELECT COUNT(*) AS total, COUNT(*) FILTER (WHERE result) AS allowed FROM authz_audit_log", []⟩
  let total ← checked (row.bigint "total")
  let allowed ← checked (row.bigint "allowed")
  statsOf total allowed

def trail : AuditTrail Session := ⟨appendAudit, auditEntries, auditStats⟩

/-! ### All together -/

def store : Store Session where
  insertUser
  user
  insertResource
  updateResource
  deleteResource
  resource
  resourceByName
  resources
  childResources
  insertAction
  updateAction
  deleteAction
  action
  actionByName
  actions
  insertRole
  setRoleStatus
  deleteRole
  role
  roleByName
  roles
  assignRole
  unassignRole
  userRoles
  insertEdge
  deleteEdge
  edges
  insertPermission
  deletePermission
  setPermissionStatus
  permission
  rolePermissions
  setAttribute
  attributes
  trail

end AccessControl.Sql

/-
**The operations on tables in memory.**

* Each operation looks for everything that forbids it before it changes a row.
* An id is taken from the sequence only by what is created.
* `Tables.store` — all of them together, as a place for the tables.
-/

import AccessControl.Store
import AccessControl.Tables.Basic

namespace AccessControl.Tables

abbrev Change (α : Type) : Type := Effect Error Tables α

def current : Change Tables := Effect.reading id

/-- Take the next id from the sequence. -/
def takeId : Change Id := fun tables =>
  (.value (tables.lastId + 1), { tables with lastId := tables.lastId + 1 })

/-! ### Users -/

/-- Create a user with a name that no other has. -/
def insertUser (username : String) : Change User := do
  let tables ← current
  Effect.ensure (!tables.users.any (·.username = username)) (.nameTaken .user username)
  let user : User := ⟨← takeId, username⟩
  Effect.modify fun tables => { tables with users := tables.users ++ [user] }
  pure user

/-! ### Resources and actions -/

/-- Create a resource with a name that no other has, perhaps inside one that exists. -/
def insertResource (new : NewResource) : Change Resource := do
  let tables ← current
  Effect.ensure (!tables.resourceNameTaken new.name none) (.nameTaken .resource new.name)
  match new.parent with
  | some parent => Effect.ensure (tables.resource? parent).isSome (.noId .parentResource parent)
  | none => pure ()
  let resource : Resource := ⟨← takeId, new.name, new.description, new.parent⟩
  Effect.modify fun tables => { tables with resources := tables.resources ++ [resource] }
  pure resource

/-- Give a resource another name, description and place. It can be moved neither into itself nor
into what is inside it. -/
def updateResource (id : Id) (new : NewResource) : Change Resource := do
  let tables ← current
  Effect.ensure (tables.resource? id).isSome (.noId .resource id)
  Effect.ensure (!tables.resourceNameTaken new.name (some id)) (.nameTaken .resource new.name)
  match new.parent with
  | some parent =>
    Effect.ensure (tables.resource? parent).isSome (.noId .parentResource parent)
    Effect.ensure (!tables.isWithin id parent) (.nestedInItself id)
  | none => pure ()
  let resource : Resource := ⟨id, new.name, new.description, new.parent⟩
  Effect.modify fun tables =>
    { tables with
      resources := tables.resources.map fun row => if row.id = id then resource else row }
  pure resource

/-- Remove a resource that holds no others and that no grant is about, and its attributes. -/
def deleteResource (id : Id) : Change Unit := do
  let tables ← current
  Effect.ensure (tables.resource? id).isSome (.noId .resource id)
  Effect.ensure (!tables.resources.any (·.parent = some id)) (.hasChildren id)
  Effect.ensure (!tables.permissions.any (·.resource = id)) (.referenced .resource id)
  Effect.modify fun tables =>
    { tables with
      resources := tables.resources.filter (·.id ≠ id)
      facts := fun owner other =>
        if owner = .resource ∧ other = id then .empty else tables.facts owner other }

/-- Create an action with a name that no other has. -/
def insertAction (new : NewAction) : Change Action := do
  let tables ← current
  Effect.ensure (!tables.actionNameTaken new.name none) (.nameTaken .action new.name)
  let action : Action := ⟨← takeId, new.name, new.description⟩
  Effect.modify fun tables => { tables with actions := tables.actions ++ [action] }
  pure action

/-- Give an action another name and description. -/
def updateAction (id : Id) (new : NewAction) : Change Action := do
  let tables ← current
  Effect.ensure (tables.action? id).isSome (.noId .action id)
  Effect.ensure (!tables.actionNameTaken new.name (some id)) (.nameTaken .action new.name)
  let action : Action := ⟨id, new.name, new.description⟩
  Effect.modify fun tables =>
    { tables with actions := tables.actions.map fun row => if row.id = id then action else row }
  pure action

/-- Remove an action that no grant is about. -/
def deleteAction (id : Id) : Change Unit := do
  let tables ← current
  Effect.ensure (tables.action? id).isSome (.noId .action id)
  Effect.ensure (!tables.permissions.any (·.action = id)) (.referenced .action id)
  Effect.modify fun tables => { tables with actions := tables.actions.filter (·.id ≠ id) }

/-! ### Roles -/

/-- Create a role with a name that no other has. -/
def insertRole (new : NewRole) : Change Role := do
  let tables ← current
  Effect.ensure (!tables.roles.any (·.name = new.name)) (.nameTaken .role new.name)
  let role : Role := ⟨← takeId, new.name, new.description, new.status⟩
  Effect.modify fun tables => { tables with roles := tables.roles ++ [role] }
  pure role

/-- Put a role in or out of force. -/
def setRoleStatus (id : Id) (status : Status) : Change Role := do
  let tables ← current
  let role ← Effect.require (tables.role? id) (.noId .role id)
  let changed : Role := { role with status := status }
  Effect.modify fun tables =>
    { tables with roles := tables.roles.map fun row => if row.id = id then changed else row }
  pure changed

/-- Remove a role that no grant is for, its links to users and the edges at it. -/
def deleteRole (id : Id) : Change Unit := do
  let tables ← current
  Effect.ensure (tables.role? id).isSome (.noId .role id)
  Effect.ensure (!tables.permissions.any (·.role = id)) (.referenced .role id)
  Effect.modify fun tables =>
    { tables with
      roles := tables.roles.filter (·.id ≠ id)
      links := tables.links.filter (·.role ≠ id)
      edges := tables.edges.filter fun edge => edge.parent ≠ id ∧ edge.child ≠ id }

def assignRole (user role : Id) : Change Unit := do
  let tables ← current
  Effect.ensure (tables.user? user).isSome (.noId .user user)
  Effect.ensure (tables.role? role).isSome (.noId .role role)
  Effect.ensure (!tables.links.contains ⟨user, role⟩) (.alreadyLinked user role)
  Effect.modify fun tables => { tables with links := tables.links ++ [⟨user, role⟩] }

def unassignRole (user role : Id) : Change Unit := do
  let tables ← current
  Effect.ensure (tables.links.contains ⟨user, role⟩) (.notLinked user role)
  Effect.modify fun tables => { tables with links := tables.links.filter (· ≠ ⟨user, role⟩) }

/-- Declare that a role inherits from another, unless that closes a circle. -/
def insertEdge (edge : Edge) : Change Unit := do
  let tables ← current
  Effect.ensure (tables.role? edge.parent).isSome (.noId .role edge.parent)
  Effect.ensure (tables.role? edge.child).isSome (.noId .role edge.child)
  Effect.ensure (edge.parent ≠ edge.child) (.inheritsFromItself edge.parent)
  Effect.ensure (!tables.edges.contains edge) (.edgeExists edge.parent edge.child)
  Effect.ensure (!RoleGraph.wouldCreateCycle tables.edges edge.parent edge.child)
    (.cycle edge.parent edge.child)
  Effect.modify fun tables => { tables with edges := tables.edges ++ [edge] }

/-- Take a declaration of inheritance back. -/
def deleteEdge (edge : Edge) : Change Unit := do
  let tables ← current
  Effect.ensure (tables.edges.contains edge) (.noEdge edge.parent edge.child)
  Effect.modify fun tables => { tables with edges := tables.edges.filter (· ≠ edge) }

/-! ### Grants -/

/-- Grant a role an action on a resource; there is at most one grant for the three. -/
def insertPermission (new : NewPermission) : Change Permission := do
  let tables ← current
  Effect.ensure (tables.role? new.role).isSome (.noId .role new.role)
  Effect.ensure (tables.resource? new.resource).isSome (.noId .resource new.resource)
  Effect.ensure (tables.action? new.action).isSome (.noId .action new.action)
  Effect.ensure (!tables.permissions.any (·.grants new.role new.resource new.action))
    (.alreadyGranted new.role new.resource new.action)
  let permission : Permission :=
    ⟨← takeId, new.role, new.resource, new.action, new.status, new.condition, new.priority⟩
  Effect.modify fun tables => { tables with permissions := tables.permissions ++ [permission] }
  pure permission

def deletePermission (role resource action : Id) : Change Unit := do
  let tables ← current
  let permission ← Effect.require (tables.permissions.find? (·.grants role resource action))
    (.noGrant role resource action)
  Effect.modify fun tables =>
    { tables with permissions := tables.permissions.filter (·.id ≠ permission.id) }

/-- Put a grant in or out of force. -/
def setPermissionStatus (id : Id) (status : Status) : Change Permission := do
  let tables ← current
  let permission ← Effect.require (tables.permission? id) (.noId .permission id)
  let changed : Permission := { permission with status := status }
  Effect.modify fun tables =>
    { tables with
      permissions := tables.permissions.map fun row => if row.id = id then changed else row }
  pure changed

/-! ### Attributes -/

def ownerEntity : Owner → Entity
  | .user => .user
  | .resource => .resource

/-- Set an attribute of a user or a resource that exists; a value under the same key is replaced. -/
def setAttribute (owner : Owner) (id : Id) (key : String) (value : AttributeValue) :
    Change Attribute := do
  let tables ← current
  Effect.ensure (tables.hasOwner owner id) (.noId (ownerEntity owner) id)
  let fact : Attribute := ⟨owner, id, key, value, value.type⟩
  Effect.modify fun tables =>
    { tables with
      facts := fun other number =>
        if other = owner ∧ number = id then (tables.facts owner id).insert key fact
        else tables.facts other number }
  pure fact

/-! ### The audit log -/

def appendAudit (new : NewAuditEntry) : Change AuditEntry := do
  let entry : AuditEntry := ⟨new, ← takeId⟩
  Effect.modify fun tables => { tables with audit := tables.audit ++ [entry] }
  pure entry

/-- The newest recorded decisions that a query asks for. -/
def auditEntries (tables : Tables) (query : AuditQuery) : List AuditEntry :=
  (tables.audit.reverse.filter query.accepts).take query.limit

def auditStats (tables : Tables) : AuditStats :=
  let allowed := (tables.audit.filter (·.result)).length
  ⟨tables.audit.length, allowed, tables.audit.length - allowed⟩

def trail : AuditTrail Tables where
  append := appendAudit
  entries query := Effect.reading (auditEntries · query)
  stats := Effect.reading auditStats

/-! ### All together -/

def store : Store Tables where
  insertUser
  user id := Effect.reading (user? · id)
  insertResource
  updateResource
  deleteResource
  resource id := Effect.reading (resource? · id)
  resourceByName name := Effect.reading fun tables => tables.resources.find? (·.name = name)
  resources := Effect.reading resources
  childResources id := Effect.reading fun tables => tables.resources.filter (·.parent = some id)
  insertAction
  updateAction
  deleteAction
  action id := Effect.reading (action? · id)
  actionByName name := Effect.reading fun tables => tables.actions.find? (·.name = name)
  actions := Effect.reading actions
  insertRole
  setRoleStatus
  deleteRole
  role id := Effect.reading (role? · id)
  roleByName name := Effect.reading fun tables => tables.roles.find? (·.name = name)
  roles := Effect.reading roles
  assignRole
  unassignRole
  userRoles user := Effect.reading (rolesOf · user)
  insertEdge
  deleteEdge
  edges := Effect.reading edges
  insertPermission
  deletePermission
  setPermissionStatus
  permission id := Effect.reading (permission? · id)
  rolePermissions role := Effect.reading (permissionsOf · role)
  setAttribute
  attributes owner id := Effect.reading (attributesOf · owner id)
  trail

end AccessControl.Tables

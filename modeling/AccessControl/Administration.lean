/-
**Administration: creating, changing, looking up and removing.**

* Names of users, roles, resources and actions, and keys of attributes, are taken without the blanks
  at their ends, and none may be blank; a look-up by name takes the name as it is.
* What is asked for and does not exist is an error; among the relatives of a role those that are
  gone are left out.
* `Administration.userPermissions` — every grant in force of every role in force of a user, with
  what it is about.
-/

import AccessControl.RoleGraph
import AccessControl.Store

namespace AccessControl.Administration

variable {σ : Type}

/-- A name without blank ends, which must not be blank. -/
def properName (entity : Entity) (name : String) : Effect Error σ String := do
  Effect.ensure (!(Text.trim name).isEmpty) (.blankName entity)
  pure (Text.trim name)

def found {α : Type} (lookUp : Effect Error σ (Option α)) (otherwise : Error) :
    Effect Error σ α := do
  Effect.require (← lookUp) otherwise

variable (store : Store σ)

/-! ### Users -/

def createUser (username : String) : Effect Error σ User := do
  store.insertUser (← properName .user username)

def user (id : Id) : Effect Error σ User := found (store.user id) (.noId .user id)

/-! ### Resources and actions -/

def createResource (new : NewResource) : Effect Error σ Resource := do
  let name ← properName .resource new.name
  store.insertResource { new with name := name }

def updateResource (id : Id) (new : NewResource) : Effect Error σ Resource := do
  let name ← properName .resource new.name
  store.updateResource id { new with name := name }

def resource (id : Id) : Effect Error σ Resource := found (store.resource id) (.noId .resource id)

def resourceByName (name : String) : Effect Error σ Resource :=
  found (store.resourceByName name) (.noName .resource name)

/-- The resources right inside one that exists. -/
def resourceChildren (id : Id) : Effect Error σ (List Resource) := do
  let _ ← resource store id
  store.childResources id

def createAction (new : NewAction) : Effect Error σ Action := do
  let name ← properName .action new.name
  store.insertAction { new with name := name }

def updateAction (id : Id) (new : NewAction) : Effect Error σ Action := do
  let name ← properName .action new.name
  store.updateAction id { new with name := name }

def action (id : Id) : Effect Error σ Action := found (store.action id) (.noId .action id)

def actionByName (name : String) : Effect Error σ Action :=
  found (store.actionByName name) (.noName .action name)

/-! ### Roles -/

def createRole (new : NewRole) : Effect Error σ Role := do
  let name ← properName .role new.name
  store.insertRole { new with name := name }

def role (id : Id) : Effect Error σ Role := found (store.role id) (.noId .role id)

def roleByName (name : String) : Effect Error σ Role :=
  found (store.roleByName name) (.noName .role name)

/-- The roles in force of a user that exists, in the order in which they were assigned. -/
def userRoles (id : Id) : Effect Error σ (List Role) := do
  let _ ← user store id
  let roles ← store.userRoles id
  pure (roles.filter Role.isActive)

/-- The roles with some ids, those that are gone left out. -/
def rolesWithIds (ids : List Id) : Effect Error σ (List Role) := do
  let roles ← Effect.forEach store.role ids
  pure (roles.filterMap id)

/-- The roles above a role that exists, the nearest first. -/
def roleHierarchy (id : Id) : Effect Error σ (List Role) := do
  let _ ← role store id
  let edges ← store.edges
  rolesWithIds store (RoleGraph.ancestors edges id)

/-- The roles right below a role that exists. -/
def roleChildren (id : Id) : Effect Error σ (List Role) := do
  let _ ← role store id
  let edges ← store.edges
  rolesWithIds store (RoleGraph.children edges id)

/-! ### Grants -/

/-- A grant to be made, and in which order the entries of its condition come. -/
structure Grant where
  role : Id
  resource : Id
  action : Id
  condition : Option Condition := none
  arrangement : (condition : Condition) → condition.Arrangement := Condition.arranged
  priority : Int := 0
  status : Status := .active

/-- The text that is stored of the condition of a grant. -/
def Grant.text? (grant : Grant) : Option String :=
  grant.condition.map fun condition => (grant.arrangement condition).text

/-- Make a grant; its condition is stored as text. -/
def grant (grant : Grant) : Effect Error σ Permission :=
  store.insertPermission
    { role := grant.role
      resource := grant.resource
      action := grant.action
      status := grant.status
      condition := grant.text?
      priority := grant.priority }

def permission (id : Id) : Effect Error σ Permission :=
  found (store.permission id) (.noId .permission id)

/-- The condition that is stored with a grant, which must be readable. -/
def readCondition : Option String → Effect Error σ (Option Condition)
  | none => pure none
  | some text => do
    let condition ← Effect.ending (.ofExcept (Condition.read text))
    pure (some condition)

/-- A grant with what it is about. -/
def detail (permission : Permission) : Effect Error σ PermissionDetail := do
  let resource ← found (store.resource permission.resource) (.noId .resource permission.resource)
  let action ← found (store.action permission.action) (.noId .action permission.action)
  let condition ← readCondition permission.condition
  pure
    { permission := permission.id
      role := permission.role
      resource, action, condition
      priority := permission.priority }

/-- The grants in force among some, with what they are about. -/
def activeDetails (permissions : List Permission) : Effect Error σ (List PermissionDetail) :=
  Effect.forEach (detail store) (permissions.filter Permission.isActive)

/-- The grants in force of a role that exists. -/
def rolePermissions (id : Id) : Effect Error σ (List PermissionDetail) := do
  let _ ← role store id
  let permissions ← store.rolePermissions id
  activeDetails store permissions

/-- The grants in force of the roles in force of a user that exists. -/
def userPermissions (id : Id) : Effect Error σ (List PermissionDetail) := do
  let _ ← user store id
  let roles ← store.userRoles id
  let details ← Effect.forEach (fun role => do
    let permissions ← store.rolePermissions role.id
    activeDetails store permissions) (roles.filter Role.isActive)
  pure details.flatten

/-! ### Attributes -/

def setAttribute (owner : Owner) (id : Id) (key : String) (value : AttributeValue) :
    Effect Error σ Attribute := do
  Effect.ensure (!(Text.trim key).isEmpty) .blankKey
  store.setAttribute owner id (Text.trim key) value

/-- The attributes of an owner, none when it does not exist. -/
def attributes (owner : Owner) (id : Id) : Effect Error σ AttributeMap := do
  let facts ← store.attributes owner id
  pure (attributeMap facts)

end AccessControl.Administration

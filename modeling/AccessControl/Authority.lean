/-
**The whole: a store, its settings, and what can be asked of it.**

* `Authority` — a store with its logger and settings; its state is that of the store beside the
  expression engine.
* `Operation` — everything that can be asked; `Answer` — what comes back.
* `Authority.perform` — one operation; `Authority.run` — several, one after the other, whatever each
  comes to.
-/

import AccessControl.Check
import AccessControl.Settings

namespace AccessControl

variable {σ : Type}

/-- A store with its logger and settings. -/
structure Authority (σ : Type) where
  store : Store σ
  logger : AuditLogger σ
  settings : Settings

/-- The authority over a store, recording decisions as the settings say. -/
def Authority.ofStore (store : Store σ) (settings : Settings) : Authority σ :=
  ⟨store, .ofStore store settings.enableAudit, settings⟩

def Authority.engine (authority : Authority σ) : Expression.Engine :=
  .fresh authority.settings.cacheExpressions

/-- What can be asked. -/
inductive Operation where
  | createUser (username : String)
  | getUser (id : Id)
  | createRole (new : NewRole)
  | setRoleStatus (id : Id) (status : Status)
  | deleteRole (id : Id)
  | getRole (id : Id)
  | getRoleByName (name : String)
  | listRoles
  | assignRole (user role : Id)
  | unassignRole (user role : Id)
  | getUserRoles (user : Id)
  | addInheritance (parent child : Id)
  | removeInheritance (parent child : Id)
  | getRoleHierarchy (id : Id)
  | getRoleChildren (id : Id)
  | createResource (new : NewResource)
  | updateResource (id : Id) (new : NewResource)
  | deleteResource (id : Id)
  | getResource (id : Id)
  | getResourceByName (name : String)
  | listResources
  | getResourceChildren (id : Id)
  | createAction (new : NewAction)
  | updateAction (id : Id) (new : NewAction)
  | deleteAction (id : Id)
  | getAction (id : Id)
  | getActionByName (name : String)
  | listActions
  | grant (grant : Administration.Grant)
  | revoke (role resource action : Id)
  | setPermissionStatus (id : Id) (status : Status)
  | getPermission (id : Id)
  | getRolePermissions (role : Id)
  | getUserPermissions (user : Id)
  | setAttribute (owner : Owner) (id : Id) (key : String) (value : AttributeValue)
  | getAttributes (owner : Owner) (id : Id)
  | check (request : Check.Request)
  | logCheck (request : Check.Request) (result : Bool) (reason : String)
  | recentEntries (query : AuditQuery)
  | auditStats
  | clearCache

/-- What comes back. -/
inductive Answer where
  | done
  | user (user : User)
  | role (role : Role)
  | roles (roles : List Role)
  | resource (resource : Resource)
  | resources (resources : List Resource)
  | action (action : Action)
  | actions (actions : List Action)
  | permission (permission : Permission)
  | details (details : List PermissionDetail)
  | fact (fact : Attribute)
  | attributes (attributes : AttributeMap)
  | decision (decision : Decision)
  | entries (entries : List AuditEntry)
  | stats (stats : AuditStats)

namespace Authority

open Check (World)

def onTables {α : Type} (answer : α → Answer) (effect : Effect Error σ α) :
    Effect Error (World σ) Answer := do
  let result ← Effect.onFirst effect
  pure (answer result)

def onTablesOnly (effect : Effect Error σ Unit) : Effect Error (World σ) Answer :=
  onTables (fun _ => .done) effect

def perform (authority : Authority σ) : Operation → Effect Error (World σ) Answer
  | .createUser username => onTables .user (Administration.createUser authority.store username)
  | .getUser id => onTables .user (Administration.user authority.store id)
  | .createRole new => onTables .role (Administration.createRole authority.store new)
  | .setRoleStatus id status => onTables .role (authority.store.setRoleStatus id status)
  | .deleteRole id => onTablesOnly (authority.store.deleteRole id)
  | .getRole id => onTables .role (Administration.role authority.store id)
  | .getRoleByName name => onTables .role (Administration.roleByName authority.store name)
  | .listRoles => onTables .roles authority.store.roles
  | .assignRole user role => onTablesOnly (authority.store.assignRole user role)
  | .unassignRole user role => onTablesOnly (authority.store.unassignRole user role)
  | .getUserRoles user => onTables .roles (Administration.userRoles authority.store user)
  | .addInheritance parent child => onTablesOnly (authority.store.insertEdge ⟨parent, child⟩)
  | .removeInheritance parent child => onTablesOnly (authority.store.deleteEdge ⟨parent, child⟩)
  | .getRoleHierarchy id => onTables .roles (Administration.roleHierarchy authority.store id)
  | .getRoleChildren id => onTables .roles (Administration.roleChildren authority.store id)
  | .createResource new => onTables .resource (Administration.createResource authority.store new)
  | .updateResource id new =>
    onTables .resource (Administration.updateResource authority.store id new)
  | .deleteResource id => onTablesOnly (authority.store.deleteResource id)
  | .getResource id => onTables .resource (Administration.resource authority.store id)
  | .getResourceByName name =>
    onTables .resource (Administration.resourceByName authority.store name)
  | .listResources => onTables .resources authority.store.resources
  | .getResourceChildren id =>
    onTables .resources (Administration.resourceChildren authority.store id)
  | .createAction new => onTables .action (Administration.createAction authority.store new)
  | .updateAction id new => onTables .action (Administration.updateAction authority.store id new)
  | .deleteAction id => onTablesOnly (authority.store.deleteAction id)
  | .getAction id => onTables .action (Administration.action authority.store id)
  | .getActionByName name => onTables .action (Administration.actionByName authority.store name)
  | .listActions => onTables .actions authority.store.actions
  | .grant grant => onTables .permission (Administration.grant authority.store grant)
  | .revoke role resource action =>
    onTablesOnly (authority.store.deletePermission role resource action)
  | .setPermissionStatus id status =>
    onTables .permission (authority.store.setPermissionStatus id status)
  | .getPermission id => onTables .permission (Administration.permission authority.store id)
  | .getRolePermissions role =>
    onTables .details (Administration.rolePermissions authority.store role)
  | .getUserPermissions user =>
    onTables .details (Administration.userPermissions authority.store user)
  | .setAttribute owner id key value =>
    onTables .fact (Administration.setAttribute authority.store owner id key value)
  | .getAttributes owner id =>
    onTables .attributes (Administration.attributes authority.store owner id)
  | .check request => do
    let decision ← Check.check authority.store authority.logger request
    pure (.decision decision)
  | .logCheck request result reason =>
    onTablesOnly (authority.logger.log request.user request.resource request.action result reason
      request.context)
  | .recentEntries query => onTables .entries (authority.logger.trail.entries query)
  | .auditStats => onTables .stats authority.logger.trail.stats
  | .clearCache => do
    Effect.onSecond (Effect.modify Expression.Engine.cleared)
    pure .done

/-- Several operations one after the other, with what each came to. -/
def run (authority : Authority σ) : List Operation → World σ → List (Ending Error Answer) × World σ
  | [], world => ([], world)
  | operation :: rest, world =>
    let (ending, after) := authority.perform operation world
    let (endings, last) := authority.run rest after
    (ending :: endings, last)

end Authority

end AccessControl

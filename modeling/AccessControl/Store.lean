/-
**What a place for the tables must be able to do.**

* `AuditTrail` — where decisions are recorded and looked up.
* `Store` — users, resources, actions, roles, their links, grants and attributes, and an audit
  trail. Each of its operations is atomic and checks what it needs in the tables themselves.
-/

import AccessControl.Effect
import AccessControl.Entity.Basic

namespace AccessControl

structure AuditTrail (σ : Type) where
  append : NewAuditEntry → Effect Error σ AuditEntry
  entries : AuditQuery → Effect Error σ (List AuditEntry)
  stats : Effect Error σ AuditStats

/-- A trail that cannot be written or read, and counts nothing. -/
def AuditTrail.unavailable {σ : Type} : AuditTrail σ where
  append _ := Effect.fail .auditUnavailable
  entries _ := Effect.fail .auditUnavailable
  stats := pure ⟨0, 0, 0⟩

/-- A place for the tables. Names and keys are taken as they are given. -/
structure Store (σ : Type) where
  insertUser : String → Effect Error σ User
  user : Id → Effect Error σ (Option User)
  insertResource : NewResource → Effect Error σ Resource
  updateResource : Id → NewResource → Effect Error σ Resource
  deleteResource : Id → Effect Error σ Unit
  resource : Id → Effect Error σ (Option Resource)
  resourceByName : String → Effect Error σ (Option Resource)
  resources : Effect Error σ (List Resource)
  childResources : Id → Effect Error σ (List Resource)
  insertAction : NewAction → Effect Error σ Action
  updateAction : Id → NewAction → Effect Error σ Action
  deleteAction : Id → Effect Error σ Unit
  action : Id → Effect Error σ (Option Action)
  actionByName : String → Effect Error σ (Option Action)
  actions : Effect Error σ (List Action)
  insertRole : NewRole → Effect Error σ Role
  setRoleStatus : Id → Status → Effect Error σ Role
  deleteRole : Id → Effect Error σ Unit
  role : Id → Effect Error σ (Option Role)
  roleByName : String → Effect Error σ (Option Role)
  roles : Effect Error σ (List Role)
  assignRole : (user role : Id) → Effect Error σ Unit
  unassignRole : (user role : Id) → Effect Error σ Unit
  userRoles : Id → Effect Error σ (List Role)
  insertEdge : Edge → Effect Error σ Unit
  deleteEdge : Edge → Effect Error σ Unit
  edges : Effect Error σ (List Edge)
  insertPermission : NewPermission → Effect Error σ Permission
  deletePermission : (role resource action : Id) → Effect Error σ Unit
  setPermissionStatus : Id → Status → Effect Error σ Permission
  permission : Id → Effect Error σ (Option Permission)
  rolePermissions : Id → Effect Error σ (List Permission)
  setAttribute : Owner → Id → String → AttributeValue → Effect Error σ Attribute
  attributes : Owner → Id → Effect Error σ (List Attribute)
  trail : AuditTrail σ

end AccessControl

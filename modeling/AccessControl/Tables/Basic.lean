/-
**Tables held in memory.**

* `Tables` — the rows of every table, in the order of their ids; links of users to roles, and edges
  between roles, in the order in which they were made; one sequence of ids for all of them.
* `Tables.isWithin` — whether one resource is on the chain of parents that begins at another.
-/

import AccessControl.Entity.Basic
import AccessControl.RoleGraph

namespace AccessControl

/-- A role that a user has. -/
structure Link where
  user : Id
  role : Id
  deriving Repr, DecidableEq

/-- The tables. Every user and every resource, whether it exists or not, has stored facts under
their keys, none until one is set. -/
structure Tables where
  lastId : Id := 0
  users : List User := []
  resources : List Resource := []
  actions : List Action := []
  roles : List Role := []
  links : List Link := []
  edges : List Edge := []
  permissions : List Permission := []
  facts : Owner → Id → Dictionary Attribute := fun _ _ => .empty
  audit : List AuditEntry := []

namespace Tables

def empty : Tables := {}

/-! ### Looking up -/

def user? (tables : Tables) (id : Id) : Option User := tables.users.find? (·.id = id)

def resource? (tables : Tables) (id : Id) : Option Resource := tables.resources.find? (·.id = id)

def action? (tables : Tables) (id : Id) : Option Action := tables.actions.find? (·.id = id)

def role? (tables : Tables) (id : Id) : Option Role := tables.roles.find? (·.id = id)

def permission? (tables : Tables) (id : Id) : Option Permission :=
  tables.permissions.find? (·.id = id)

/-- Whether there is a user or a resource to attach attributes to. -/
def hasOwner (tables : Tables) (owner : Owner) (id : Id) : Bool :=
  match owner with
  | .user => (tables.user? id).isSome
  | .resource => (tables.resource? id).isSome

def resourceNameTaken (tables : Tables) (name : String) (except : Option Id) : Bool :=
  tables.resources.any fun resource => resource.name = name && some resource.id ≠ except

def actionNameTaken (tables : Tables) (name : String) (except : Option Id) : Bool :=
  tables.actions.any fun action => action.name = name && some action.id ≠ except

/-- The roles of a user, in the order in which they were assigned. -/
def rolesOf (tables : Tables) (user : Id) : List Role :=
  (tables.links.filter fun link => link.user = user).filterMap fun link => tables.role? link.role

/-- The grants of a role, in the order of their ids. -/
def permissionsOf (tables : Tables) (role : Id) : List Permission :=
  tables.permissions.filter fun permission => permission.role = role

/-- The stored facts about an owner, in the order of their keys. -/
def attributesOf (tables : Tables) (owner : Owner) (id : Id) : List Attribute :=
  (tables.facts owner id).toList.map Prod.snd

/-! ### The tree of resources -/

/-- The parent of a resource, if it is there and has one. -/
def parent? (resources : List Resource) (id : Id) : Option Id :=
  (resources.find? (·.id = id)).bind Resource.parent

/-- Whether an id is met within so many steps along the parents from another. -/
def meets (resources : List Resource) (id : Id) : Nat → Id → Bool
  | steps, current =>
    if current = id then true
    else
      match steps, parent? resources current with
      | steps + 1, some parent => meets resources id steps parent
      | _, _ => false

/-- Whether a resource is another one or above it; as many steps as there are resources are
enough. -/
def isWithin (tables : Tables) (id candidate : Id) : Bool :=
  meets tables.resources id tables.resources.length candidate

end Tables

end AccessControl

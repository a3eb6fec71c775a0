/-
**The entities of access control.**

* `User`, `Resource`, `Action`, `Role` — who, what, and doing what; a resource may be inside
  another.
* `Edge` — a role whose rights another one is declared to inherit.
* `Permission` — a grant: a role may do an action on a resource, perhaps under a condition.
* `Attribute`, `AuditEntry` — a stored fact, and a recorded decision.
* `Decision` — the outcome of a check, with the grant that decided.
-/

import AccessControl.Condition

namespace AccessControl

/-- Somebody who asks. -/
structure User where
  id : Id
  username : String
  deriving Repr, DecidableEq

/-- Something to protect, perhaps inside another resource. -/
structure Resource where
  id : Id
  name : String
  description : Option String
  parent : Option Id
  deriving Repr, DecidableEq

/-- A resource to be created, or what one is to become. -/
structure NewResource where
  name : String
  description : Option String := none
  parent : Option Id := none
  deriving Repr, DecidableEq

/-- Something that can be done to a resource. -/
structure Action where
  id : Id
  name : String
  description : Option String
  deriving Repr, DecidableEq

/-- An action to be created, or what one is to become. -/
structure NewAction where
  name : String
  description : Option String := none
  deriving Repr, DecidableEq

/-- What rights are granted to. -/
structure Role where
  id : Id
  name : String
  description : Option String
  status : Status
  deriving Repr, DecidableEq

def Role.isActive (role : Role) : Bool := role.status = .active

structure NewRole where
  name : String
  description : Option String := none
  status : Status := .active
  deriving Repr, DecidableEq

/-- The declaration that a child inherits from a parent. -/
structure Edge where
  parent : Id
  child : Id
  deriving Repr, DecidableEq

/-- A grant. The priority is kept and has no effect. -/
structure Permission where
  id : Id
  role : Id
  resource : Id
  action : Id
  status : Status
  condition : Option String
  priority : Int
  deriving Repr, DecidableEq

namespace Permission

def isActive (permission : Permission) : Bool := permission.status = .active

def targets (permission : Permission) (resource action : Id) : Bool :=
  permission.resource = resource && permission.action = action

def grants (permission : Permission) (role resource action : Id) : Bool :=
  permission.role = role && permission.targets resource action

end Permission

/-- A grant to be stored, its condition as text. -/
structure NewPermission where
  role : Id
  resource : Id
  action : Id
  status : Status := .active
  condition : Option String := none
  priority : Int := 0
  deriving Repr, DecidableEq

/-- A grant with what it is about. -/
structure PermissionDetail where
  permission : Id
  role : Id
  resource : Resource
  action : Action
  condition : Option Condition
  priority : Int
  deriving Repr, BEq

/-- A stored fact about a user or a resource. -/
structure Attribute where
  owner : Owner
  ownerId : Id
  key : String
  value : AttributeValue
  type : ValueType
  deriving Repr, BEq

/-- The values of some stored facts under their keys. -/
def attributeMap (attributes : List Attribute) : AttributeMap :=
  Dictionary.ofList (attributes.map fun fact => (fact.key, fact.value))

/-! ### The audit log -/

/-- A decision to be recorded. -/
structure NewAuditEntry where
  user : Id
  resource : Id
  action : Id
  operation : String
  result : Bool
  reason : String
  context : Option String
  deriving Repr, DecidableEq

structure AuditEntry extends NewAuditEntry where
  id : Id
  deriving Repr, DecidableEq

/-- A question to the audit log: the newest entries, perhaps of one user, up to a number. -/
structure AuditQuery where
  user : Option Id
  limit : Nat
  deriving Repr, DecidableEq

def AuditQuery.accepts (query : AuditQuery) (entry : AuditEntry) : Bool :=
  match query.user with
  | some user => entry.user = user
  | none => true

/-- How many decisions there were, and how they came out. -/
structure AuditStats where
  total : Nat
  allowed : Nat
  denied : Nat
  deriving Repr, DecidableEq

/-! ### Decisions -/

/-- The outcome of a check. -/
inductive Decision where
  | granted (permission role : Id)
  | noRoles
  | noMatchingPermission
  deriving Repr, DecidableEq

namespace Decision

def allowed : Decision → Bool
  | .granted .. => true
  | _ => false

def reason : Decision → Reason
  | .granted .. => .permissionGranted
  | .noRoles => .noRoles
  | .noMatchingPermission => .noMatchingPermission

/-- The grant that decided, if one did. -/
def permission? : Decision → Option Id
  | .granted permission _ => some permission
  | _ => none

/-- The role of the grant that decided, if one did. -/
def role? : Decision → Option Id
  | .granted _ role => some role
  | _ => none

end Decision

/-- A decision as a message carries it; nothing ties its parts together. -/
structure DecisionRecord where
  id : String
  allowed : Bool
  reason : Reason
  permission : Option Id
  role : Option Id
  deriving Repr, DecidableEq

end AccessControl

/-
**The words of access control: ids, and what comes in a few kinds.**

* `Id` — the number of an entity; numbers are handed out from one on, and zero stands for none.
* `Status`, `Owner`, `ValueType`, `Reason` — each with its name, and what a name stands for.
-/

namespace AccessControl

/-- The number of an entity. Ids are kept in 64 bits with a sign: whatever is said about runs of any
length is meant of those that take fewer than `2 ^ 63 - 1` of them. -/
abbrev Id : Type := Int

/-- The number that stands for an entity that was not found. -/
def noId : Id := 0

/-- Whether a role or a grant is in force. -/
inductive Status where
  | active
  | inactive
  deriving Repr, DecidableEq

namespace Status

def name : Status → String
  | .active => "active"
  | .inactive => "inactive"

def ofName? (name : String) : Option Status :=
  match name with
  | "active" => some .active
  | "inactive" => some .inactive
  | _ => none

theorem ofName?_name (status : Status) : ofName? status.name = some status := by
  cases status <;> rfl

end Status

/-- What an attribute is attached to. -/
inductive Owner where
  | user
  | resource
  deriving Repr, DecidableEq

namespace Owner

def name : Owner → String
  | .user => "user"
  | .resource => "resource"

def ofName? (name : String) : Option Owner :=
  match name with
  | "user" => some .user
  | "resource" => some .resource
  | _ => none

theorem ofName?_name (owner : Owner) : ofName? owner.name = some owner := by
  cases owner <;> rfl

end Owner

/-- The type of an attribute's value. -/
inductive ValueType where
  | string
  | integer
  | float
  | boolean
  deriving Repr, DecidableEq

namespace ValueType

def name : ValueType → String
  | .string => "string"
  | .integer => "integer"
  | .float => "float"
  | .boolean => "boolean"

def ofName? (name : String) : Option ValueType :=
  match name with
  | "string" => some .string
  | "integer" => some .integer
  | "float" => some .float
  | "boolean" => some .boolean
  | _ => none

theorem ofName?_name (type : ValueType) : ofName? type.name = some type := by
  cases type <;> rfl

end ValueType

/-- Why a check came out as it did. -/
inductive Reason where
  | permissionGranted
  | noRoles
  | noMatchingPermission
  deriving Repr, DecidableEq

namespace Reason

def name : Reason → String
  | .permissionGranted => "permission_granted"
  | .noRoles => "no_roles"
  | .noMatchingPermission => "no_matching_permission"

def ofName? (name : String) : Option Reason :=
  match name with
  | "permission_granted" => some .permissionGranted
  | "no_roles" => some .noRoles
  | "no_matching_permission" => some .noMatchingPermission
  | _ => none

theorem ofName?_name (reason : Reason) : ofName? reason.name = some reason := by
  cases reason <;> rfl

/-- The reason in words, as the audit log has it. -/
def text : Reason → String
  | .permissionGranted => "Permission granted"
  | .noRoles => "User has no roles"
  | .noMatchingPermission => "No matching permission found"

end Reason

end AccessControl

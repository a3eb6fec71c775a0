/-
**Entities as JSON.**

* `members` — an entity's fields under their names; an optional field is left out or `null`, as its
  kind of entity has it.
* `ofSource?` — the entity that is written, if it is one.
* `Dated` — an entity with the times noted on it, which are written in universal time.
-/

import AccessControl.Entity.Basic
import AccessControl.RoleGraph
import AccessControl.Settings
import AccessControl.Time.Rfc3339

namespace AccessControl

namespace Json

abbrev Members : Type := List (String × Document)

def Document.whole (n : Int) : Document :=
  match Number.ofInt? n with
  | some value => .number value
  | none => .null

/-- A value that may be missing as JSON, `null` in its absence. -/
def Document.orNull {α : Type} (write : α → Document) : Option α → Document
  | some value => write value
  | none => .null

/-- A member that is left out when its value is missing. -/
def Members.optional {α : Type} (name : String) (write : α → Document) : Option α → Members
  | some value => [(name, write value)]
  | none => []

/-- An integer of 32 bits with a sign. -/
def Source.int32? : Source → Option Int := Source.integer? Word.leastInt32 Word.greatestInt32

def Source.word? {α : Type} (ofName? : String → Option α) (source : Source) : Option α :=
  source.tag?.bind ofName?

end Json

open Json (Document Members Source Field Record.required Record.optional Record.withDefault)

/-! ### Requests -/

namespace NewResource

/-- The fields of a resource to be created. -/
def fields : List Field := [⟨"name", .refused⟩, ⟨"description", .default⟩, ⟨"parent_id", .default⟩]

def ofSource? (source : Source) : Option NewResource := do
  match ← Json.Record.read fields source with
  | [name, description, parent] =>
    let name ← Record.required Source.text? name
    let description ← Record.optional Source.text? description
    let parent ← Record.optional Source.id? parent
    some { name, description, parent }
  | _ => none

/-- A resource to be created as JSON. -/
def members (resource : NewResource) : Members :=
  [("name", .string resource.name), ("description", .orNull .string resource.description),
    ("parent_id", .orNull .whole resource.parent)]

end NewResource

namespace NewAction

/-- The fields of an action to be created. -/
def fields : List Field := [⟨"name", .refused⟩, ⟨"description", .default⟩]

def ofSource? (source : Source) : Option NewAction := do
  match ← Json.Record.read fields source with
  | [name, description] =>
    let name ← Record.required Source.text? name
    let description ← Record.optional Source.text? description
    some { name, description }
  | _ => none

/-- An action to be created as JSON. -/
def members (action : NewAction) : Members :=
  [("name", .string action.name), ("description", .orNull .string action.description)]

end NewAction

namespace NewRole

/-- The fields of a role to be created. -/
def fields : List Field := [⟨"name", .refused⟩, ⟨"description", .default⟩, ⟨"status", .default⟩]

/-- The role that is written; it is in force unless it says otherwise. -/
def ofSource? (source : Source) : Option NewRole := do
  match ← Json.Record.read fields source with
  | [name, description, status] =>
    let name ← Record.required Source.text? name
    let description ← Record.optional Source.text? description
    let status ← Record.withDefault (Source.word? Status.ofName?) .active status
    some { name, description, status }
  | _ => none

/-- A role to be created as JSON. -/
def members (role : NewRole) : Members :=
  [("name", .string role.name), ("description", .orNull .string role.description),
    ("status", .string role.status.name)]

end NewRole

namespace AuditQuery

/-- The fields of a question to the audit log. -/
def fields : List Field := [⟨"user_id", .default⟩, ⟨"limit", .refused⟩]

def ofSource? (source : Source) : Option AuditQuery := do
  match ← Json.Record.read fields source with
  | [user, limit] =>
    let user ← Record.optional Source.id? user
    let limit ← Record.required (Source.count? Word.greatestUInt64) limit
    some { user, limit }
  | _ => none

/-- A question to the audit log as JSON. -/
def members (query : AuditQuery) : Members :=
  [("user_id", .orNull .whole query.user), ("limit", .whole query.limit)]

end AuditQuery

/-! ### Entities without their times -/

namespace User

def fields : List Field := [⟨"id", .refused⟩, ⟨"username", .refused⟩]

def ofFields? : List (Option Source) → Option User
  | [id, username] => do
    let id ← Record.required Source.id? id
    let username ← Record.required Source.text? username
    some { id, username }
  | _ => none

def members (user : User) : Members := [("id", .whole user.id), ("username", .string user.username)]

end User

namespace Resource

def fields : List Field :=
  [⟨"id", .refused⟩, ⟨"name", .refused⟩, ⟨"description", .default⟩, ⟨"parent_id", .default⟩]

def ofFields? : List (Option Source) → Option Resource
  | [id, name, description, parent] => do
    let id ← Record.required Source.id? id
    let name ← Record.required Source.text? name
    let description ← Record.optional Source.text? description
    let parent ← Record.optional Source.id? parent
    some { id, name, description, parent }
  | _ => none

def members (resource : Resource) : Members :=
  [("id", .whole resource.id), ("name", .string resource.name)] ++
    Members.optional "description" .string resource.description ++
    Members.optional "parent_id" .whole resource.parent

end Resource

namespace Action

def fields : List Field := [⟨"id", .refused⟩, ⟨"name", .refused⟩, ⟨"description", .default⟩]

def ofFields? : List (Option Source) → Option Action
  | [id, name, description] => do
    let id ← Record.required Source.id? id
    let name ← Record.required Source.text? name
    let description ← Record.optional Source.text? description
    some { id, name, description }
  | _ => none

def members (action : Action) : Members :=
  [("id", .whole action.id), ("name", .string action.name)] ++
    Members.optional "description" .string action.description

end Action

namespace Role

def fields : List Field :=
  [⟨"id", .refused⟩, ⟨"name", .refused⟩, ⟨"description", .default⟩, ⟨"status", .refused⟩]

def ofFields? : List (Option Source) → Option Role
  | [id, name, description, status] => do
    let id ← Record.required Source.id? id
    let name ← Record.required Source.text? name
    let description ← Record.optional Source.text? description
    let status ← Record.required (Source.word? Status.ofName?) status
    some { id, name, description, status }
  | _ => none

def members (role : Role) : Members :=
  [("id", .whole role.id), ("name", .string role.name)] ++
    Members.optional "description" .string role.description ++
    [("status", .string role.status.name)]

end Role

namespace Edge

def fields : List Field := [⟨"parent_id", .refused⟩, ⟨"child_id", .refused⟩]

def ofFields? : List (Option Source) → Option Edge
  | [parent, child] => do
    let parent ← Record.required Source.id? parent
    let child ← Record.required Source.id? child
    some { parent, child }
  | _ => none

def members (edge : Edge) : Members :=
  [("parent_id", .whole edge.parent), ("child_id", .whole edge.child)]

end Edge

namespace Permission

def fields : List Field :=
  [⟨"id", .refused⟩, ⟨"role_id", .refused⟩, ⟨"resource_id", .refused⟩, ⟨"action_id", .refused⟩,
    ⟨"status", .refused⟩, ⟨"condition", .default⟩, ⟨"priority", .default⟩]

def ofFields? : List (Option Source) → Option Permission
  | [id, role, resource, action, status, condition, priority] => do
    let id ← Record.required Source.id? id
    let role ← Record.required Source.id? role
    let resource ← Record.required Source.id? resource
    let action ← Record.required Source.id? action
    let status ← Record.required (Source.word? Status.ofName?) status
    let condition ← Record.optional Source.text? condition
    let priority ← Record.withDefault Source.int32? 0 priority
    some { id, role, resource, action, status, condition, priority }
  | _ => none

/-- A grant as JSON, its condition written in a given way. -/
def membersWith (writeCondition : String → Document) (permission : Permission) : Members :=
  [("id", .whole permission.id), ("role_id", .whole permission.role),
    ("resource_id", .whole permission.resource), ("action_id", .whole permission.action),
    ("status", .string permission.status.name)] ++
    Members.optional "condition" writeCondition permission.condition ++
    [("priority", .whole permission.priority)]

/-- A grant as JSON, its condition as the text that is stored. -/
def members (permission : Permission) : Members := permission.membersWith .string

end Permission

namespace Attribute

/-- The fields of a stored fact. -/
def fields : List Field :=
  [⟨"owner", .refused⟩, ⟨"owner_id", .refused⟩, ⟨"key", .refused⟩, ⟨"value", .refused⟩,
    ⟨"value_type", .refused⟩]

/-- The fact in some fields; its type is what is written, whatever the value is. -/
def ofFields? : List (Option Source) → Option Attribute
  | [owner, ownerId, key, value, type] => do
    let owner ← Record.required (Source.word? Owner.ofName?) owner
    let ownerId ← Record.required Source.id? ownerId
    let key ← Record.required Source.text? key
    let value ← Record.required AttributeValue.ofSource? value
    let type ← Record.required (Source.word? ValueType.ofName?) type
    some { owner, ownerId, key, value, type }
  | _ => none

/-- A stored fact as JSON, its value written in a given way. -/
def membersWith (writeValue : AttributeValue → Document) (fact : Attribute) : Members :=
  [("owner", .string fact.owner.name), ("owner_id", .whole fact.ownerId), ("key", .string fact.key),
    ("value", writeValue fact.value), ("value_type", .string fact.type.name)]

def members (fact : Attribute) : Members := fact.membersWith AttributeValue.document

end Attribute

namespace AuditEntry

/-- The fields of a recorded decision. -/
def fields : List Field :=
  [⟨"id", .refused⟩, ⟨"user_id", .refused⟩, ⟨"resource_id", .refused⟩, ⟨"action_id", .refused⟩,
    ⟨"operation", .refused⟩, ⟨"result", .refused⟩, ⟨"reason", .refused⟩, ⟨"context", .default⟩]

/-- The recorded decision in some fields. -/
def ofFields? : List (Option Source) → Option AuditEntry
  | [id, user, resource, action, operation, result, reason, context] => do
    let id ← Record.required Source.id? id
    let user ← Record.required Source.id? user
    let resource ← Record.required Source.id? resource
    let action ← Record.required Source.id? action
    let operation ← Record.required Source.text? operation
    let result ← Record.required Source.bool? result
    let reason ← Record.required Source.text? reason
    let context ← Record.optional Source.text? context
    some { id, user, resource, action, operation, result, reason, context }
  | _ => none

/-- A recorded decision as JSON, its context written in a given way. -/
def membersWith (writeContext : String → Document) (entry : AuditEntry) : Members :=
  [("id", .whole entry.id), ("user_id", .whole entry.user), ("resource_id", .whole entry.resource),
    ("action_id", .whole entry.action), ("operation", .string entry.operation),
    ("result", .bool entry.result), ("reason", .string entry.reason)] ++
    Members.optional "context" writeContext entry.context

/-- A recorded decision as JSON, its context as the text that is stored. -/
def members (entry : AuditEntry) : Members := entry.membersWith .string

end AuditEntry

namespace AuditStats

/-- The fields of the numbers of decisions. -/
def fields : List Field :=
  [⟨"total_decisions", .refused⟩, ⟨"allowed_decisions", .refused⟩, ⟨"denied_decisions", .refused⟩]

def ofFields? : List (Option Source) → Option AuditStats
  | [total, allowed, denied] => do
    let total ← Record.required (Source.count? Word.greatestUInt64) total
    let allowed ← Record.required (Source.count? Word.greatestUInt64) allowed
    let denied ← Record.required (Source.count? Word.greatestUInt64) denied
    some { total, allowed, denied }
  | _ => none

/-- The numbers of decisions as JSON. -/
def members (stats : AuditStats) : Members :=
  [("total_decisions", .whole stats.total), ("allowed_decisions", .whole stats.allowed),
    ("denied_decisions", .whole stats.denied)]

end AuditStats

namespace Settings

def fields : List Field :=
  [⟨"enable_audit", .refused⟩, ⟨"cache_expressions", .refused⟩, ⟨"database_url", .null⟩,
    ⟨"max_connections", .refused⟩]

def ofFields? : List (Option Source) → Option Settings
  | [enableAudit, cacheExpressions, databaseUrl, maxConnections] => do
    let enableAudit ← Record.required Source.bool? enableAudit
    let cacheExpressions ← Record.required Source.bool? cacheExpressions
    let databaseUrl ← Record.optional Source.text? databaseUrl
    let maxConnections ← Record.required (Source.count? Word.greatestUInt32) maxConnections
    some { enableAudit, cacheExpressions, databaseUrl, maxConnections }
  | _ => none

def members (settings : Settings) : Members :=
  [("enable_audit", .bool settings.enableAudit),
    ("cache_expressions", .bool settings.cacheExpressions),
    ("database_url", .orNull .string settings.databaseUrl),
    ("max_connections", .whole settings.maxConnections)]

end Settings

namespace DecisionRecord

def fields : List Field :=
  [⟨"id", .refused⟩, ⟨"allowed", .refused⟩, ⟨"reason", .refused⟩, ⟨"permission_id", .null⟩,
    ⟨"role_id", .null⟩]

def ofFields? : List (Option Source) → Option DecisionRecord
  | [id, allowed, reason, permission, role] => do
    let id ← Record.required Source.text? id
    let allowed ← Record.required Source.bool? allowed
    let reason ← Record.required (Source.word? Reason.ofName?) reason
    let permission ← Record.optional Source.id? permission
    let role ← Record.optional Source.id? role
    some { id, allowed, reason, permission, role }
  | _ => none

def members (decision : DecisionRecord) : Members :=
  [("id", .string decision.id), ("allowed", .bool decision.allowed),
    ("reason", .string decision.reason.name),
    ("permission_id", .orNull .whole decision.permission),
    ("role_id", .orNull .whole decision.role)]

end DecisionRecord

/-! ### Entities with their times -/

/-- An entity and the times noted on it, under their names. -/
structure Dated (α : Type) where
  content : α
  times : List (String × Time.Instant)

namespace Dated

variable {α : Type}

def instant? : Option Source → Option Time.Instant :=
  Record.required fun source => source.text?.bind Time.Instant.ofLooseText?

def ofSource? (fields : List Field) (timeNames : List String)
    (ofFields? : List (Option Source) → Option α) (source : Source) : Option (Dated α) := do
  let contents ← Json.Record.read (fields ++ timeNames.map fun name => ⟨name, .refused⟩) source
  let content ← ofFields? (contents.take fields.length)
  let times ← (contents.drop fields.length).mapM instant?
  some ⟨content, timeNames.zip times⟩

/-- An entity with its times as JSON. -/
def members (write : α → Members) (dated : Dated α) : Members :=
  write dated.content ++ dated.times.map fun time => (time.1, .string time.2.universalText)

def user? : Source → Option (Dated User) := ofSource? User.fields ["created_at"] User.ofFields?

def resource? : Source → Option (Dated Resource) :=
  ofSource? Resource.fields ["created_at", "updated_at"] Resource.ofFields?

def action? : Source → Option (Dated Action) :=
  ofSource? Action.fields ["created_at", "updated_at"] Action.ofFields?

def role? : Source → Option (Dated Role) := ofSource? Role.fields ["created_at"] Role.ofFields?

/-- The link between roles that is written. -/
def edge? : Source → Option (Dated Edge) := ofSource? Edge.fields [] Edge.ofFields?

/-- The dated grant that is written. -/
def permission? : Source → Option (Dated Permission) :=
  ofSource? Permission.fields ["created_at"] Permission.ofFields?

def attribute? : Source → Option (Dated Attribute) :=
  ofSource? Attribute.fields ["updated_at"] Attribute.ofFields?

def auditEntry? : Source → Option (Dated AuditEntry) :=
  ofSource? AuditEntry.fields ["created_at"] AuditEntry.ofFields?

/-- The numbers of decisions that are written. -/
def auditStats? : Source → Option (Dated AuditStats) :=
  ofSource? AuditStats.fields [] AuditStats.ofFields?

def settings? : Source → Option (Dated Settings) := ofSource? Settings.fields [] Settings.ofFields?

def decision? : Source → Option (Dated DecisionRecord) :=
  ofSource? DecisionRecord.fields ["decided_at"] DecisionRecord.ofFields?

end Dated

/-- A grant with what it is about, and the times noted on that. -/
structure DatedDetail where
  permission : Id
  role : Id
  resource : Dated Resource
  action : Dated Action
  condition : Option Condition
  priority : Int

namespace DatedDetail

/-- The fields of a grant with what it is about. -/
def fields : List Field :=
  [⟨"permission_id", .refused⟩, ⟨"role_id", .refused⟩, ⟨"resource", .refused⟩, ⟨"action", .refused⟩,
    ⟨"condition", .default⟩, ⟨"priority", .refused⟩]

def ofSource? (source : Source) : Option DatedDetail := do
  match ← Json.Record.read fields source with
  | [permission, role, resource, action, condition, priority] =>
    let permission ← Record.required Source.id? permission
    let role ← Record.required Source.id? role
    let resource ← Record.required Dated.resource? resource
    let action ← Record.required Dated.action? action
    let condition ← Record.optional Condition.ofSource? condition
    let priority ← Record.required Source.int32? priority
    some { permission, role, resource, action, condition, priority }
  | _ => none

end DatedDetail

def detailMembers (permission role : Id) (resource action : Members)
    (writeCondition : Condition → Document) (condition : Option Condition) (priority : Int) :
    Members :=
  [("permission_id", .whole permission), ("role_id", .whole role), ("resource", .object resource),
    ("action", .object action)] ++ Members.optional "condition" writeCondition condition ++
    [("priority", .whole priority)]

/-- A grant with what it is about as JSON, its condition written in a given way. -/
def PermissionDetail.membersWith (writeCondition : Condition → Document)
    (detail : PermissionDetail) : Members :=
  detailMembers detail.permission detail.role detail.resource.members detail.action.members
    writeCondition detail.condition detail.priority

/-- A grant with what it is about and the times noted on that as JSON. -/
def DatedDetail.membersWith (writeCondition : Condition → Document) (detail : DatedDetail) :
    Members :=
  detailMembers detail.permission detail.role (detail.resource.members Resource.members)
    (detail.action.members Action.members) writeCondition detail.condition detail.priority

end AccessControl

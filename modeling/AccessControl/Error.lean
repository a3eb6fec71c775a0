/-
**What can go wrong, as causes.**

* `Error` — the causes, each with what it is about.
* `Error.category` — the family that a cause belongs to; `Category.kind` — the coarser one that
  callers distinguish.
* `Error.message` — the cause in words.
-/

import AccessControl.Decimal.Text
import AccessControl.Expression.Engine
import AccessControl.Vocabulary

namespace AccessControl

/-- The families of errors. -/
inductive Category where
  | validation
  | notFound
  | conflict
  | constraint
  | evaluation
  | database
  | serialization
  | internal
  deriving Repr, DecidableEq

/-- The kinds of errors that a caller distinguishes. -/
inductive Kind where
  | validation
  | notFound
  | conflict
  | constraint
  | evaluation
  | internal
  deriving Repr, DecidableEq

namespace Category

/-- The kind of a family: what the caller can do nothing about is internal. -/
def kind : Category → Kind
  | .validation => .validation
  | .notFound => .notFound
  | .conflict => .conflict
  | .constraint => .constraint
  | .evaluation => .evaluation
  | .database => .internal
  | .serialization => .internal
  | .internal => .internal

/-- How the message of a family begins. -/
def label : Category → String
  | .validation => "Validation failed"
  | .notFound => "Not found"
  | .conflict => "Conflict"
  | .constraint => "Constraint violated"
  | .evaluation => "Condition evaluation failed"
  | .database => "Database error"
  | .serialization => "Serialization error"
  | .internal => "Internal error"

end Category

/-- What is looked up, created and removed. -/
inductive Entity where
  | user
  | resource
  | parentResource
  | action
  | role
  | permission
  deriving Repr, DecidableEq

def Entity.name : Entity → String
  | .user => "user"
  | .resource => "resource"
  | .parentResource => "parent resource"
  | .action => "action"
  | .role => "role"
  | .permission => "permission"

/-- The lists of words of which each has a meaning. -/
inductive WordList where
  | roleStatus
  | permissionStatus
  | attributeOwner
  | attributeType
  deriving Repr, DecidableEq

def WordList.name : WordList → String
  | .roleStatus => "role status"
  | .permissionStatus => "permission status"
  | .attributeOwner => "attribute owner"
  | .attributeType => "attribute type"

/-- A cause of failure. `context` says what a statement to the database was for. -/
inductive Error where
  | blankName (entity : Entity)
  | blankKey
  | unknownWord (list : WordList) (word : String)
  | wrongValue (text : String) (type : ValueType)
  | nestedInItself (resource : Id)
  | inheritsFromItself (role : Id)
  | invalidExpression
  | noDatabaseUrl
  | noId (entity : Entity) (id : Id)
  | noName (entity : Entity) (name : String)
  | notLinked (user role : Id)
  | noEdge (parent child : Id)
  | noGrant (role resource action : Id)
  | missingReference (context : String) (constraint : Option String)
  | nameTaken (entity : Entity) (name : String)
  | alreadyLinked (user role : Id)
  | edgeExists (parent child : Id)
  | cycle (parent child : Id)
  | alreadyGranted (role resource action : Id)
  | duplicate (context message : String)
  | hasChildren (resource : Id)
  | referenced (entity : Entity) (id : Id)
  | stillReferenced (context : String) (constraint : Option String)
  | noAnswer (expression : String) (cause : Expression.ExpressionError)
  | statement (context : String) (message : Option String)
  | column (name : String)
  | auditUnavailable
  | unreadable
  | other (category : Category) (text : String)
  deriving Repr, DecidableEq

namespace Error

/-- The family that a cause belongs to. -/
def category : Error → Category
  | .blankName _ | .blankKey | .unknownWord .. | .wrongValue .. | .nestedInItself _
  | .inheritsFromItself _ | .invalidExpression | .noDatabaseUrl => .validation
  | .noId .. | .noName .. | .notLinked .. | .noEdge .. | .noGrant ..
  | .missingReference .. => .notFound
  | .nameTaken .. | .alreadyLinked .. | .edgeExists .. | .cycle .. | .alreadyGranted ..
  | .duplicate .. => .conflict
  | .hasChildren _ | .referenced .. | .stillReferenced .. => .constraint
  | .noAnswer .. => .evaluation
  | .statement .. | .column _ | .auditUnavailable => .database
  | .unreadable => .serialization
  | .other category _ => category

def kind (error : Error) : Kind := error.category.kind

def inQuotes (text : String) : String := "'" ++ text ++ "'"

def digits (id : Id) : String := Decimal.ofInt id

/-- What is particular to a cause, in words. -/
def detail : Error → String
  | .blankName entity => entity.name ++ " name cannot be empty"
  | .blankKey => "attribute key cannot be empty"
  | .unknownWord list word => "unknown " ++ list.name ++ " " ++ inQuotes word
  | .wrongValue text type => "value " ++ inQuotes text ++ " is not a valid " ++ type.name
  | .nestedInItself resource =>
    "resource " ++ digits resource ++ " cannot be nested under itself or a descendant"
  | .inheritsFromItself role => "role " ++ digits role ++ " cannot inherit from itself"
  | .invalidExpression => "invalid condition expression"
  | .noDatabaseUrl => "database_url is not configured"
  | .noId entity id => entity.name ++ " " ++ inQuotes (digits id)
  | .noName entity name => entity.name ++ " " ++ inQuotes name
  | .notLinked user role => "user " ++ digits user ++ " does not have role " ++ digits role
  | .noEdge parent child => "no inheritance edge " ++ digits parent ++ " -> " ++ digits child
  | .noGrant role resource action =>
    "no permission for role " ++ digits role ++ " on resource " ++ digits resource ++ " action " ++
      digits action
  | .missingReference context constraint => context ++ ": missing " ++ constraint.getD "reference"
  | .nameTaken entity name => entity.name ++ " " ++ inQuotes name ++ " already exists"
  | .alreadyLinked user role => "user " ++ digits user ++ " already has role " ++ digits role
  | .edgeExists parent child =>
    "role " ++ digits child ++ " already inherits from role " ++ digits parent
  | .cycle parent child =>
    "edge " ++ digits parent ++ " -> " ++ digits child ++ " would create a cycle"
  | .alreadyGranted role resource action =>
    "role " ++ digits role ++ " already has action " ++ digits action ++ " on resource " ++
      digits resource
  | .duplicate context message => context ++ ": " ++ message
  | .hasChildren resource => "resource " ++ digits resource ++ " has child resources"
  | .referenced entity id => entity.name ++ " " ++ digits id ++ " is referenced by permissions"
  | .stillReferenced context constraint =>
    context ++ ": still referenced via " ++ constraint.getD "reference"
  | .noAnswer expression .nonBoolean =>
    "expression " ++ inQuotes expression ++ " did not return a boolean"
  | .noAnswer _ cause => cause.message
  | .statement context none => context
  | .statement context (some message) => context ++ ": error returned from database: " ++ message
  | .column name => "column " ++ inQuotes name
  | .auditUnavailable => "audit table unavailable"
  | .unreadable => ""
  | .other _ text => text

/-- A cause in words. What cannot be read says no more than that. -/
def message : Error → String
  | .unreadable => Category.serialization.label
  | error => error.category.label ++ ": " ++ error.detail

end Error

/-- What can be wrong with a request that has an outcome of its own: an error, or a value. -/
abbrev Checked (α : Type) : Type := Except Error α

/-- The meaning of a word, or the error that it has none. -/
def WordList.read {α : Type} (list : WordList) (ofName? : String → Option α) (word : String) :
    Checked α :=
  match ofName? word with
  | some meaning => .ok meaning
  | none => .error (.unknownWord list word)

def roleStatus (word : String) : Checked Status := WordList.roleStatus.read Status.ofName? word

/-- The status of a grant by its name. -/
def permissionStatus (word : String) : Checked Status :=
  WordList.permissionStatus.read Status.ofName? word

/-- The kind of owner by its name. -/
def attributeOwner (word : String) : Checked Owner :=
  WordList.attributeOwner.read Owner.ofName? word

def attributeType (word : String) : Checked ValueType :=
  WordList.attributeType.read ValueType.ofName? word

end AccessControl

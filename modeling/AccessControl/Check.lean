/-
**Checks: may a user do an action on a resource?**

* `AuditLogger` — records decisions, if it is enabled. Names are resolved anew, an unresolved one
  counting as no entity, and whatever fails in recording is dropped: it never changes an outcome.
* `Check.Request` — a request, with the orders that nothing fixes: of the entries of its
  environment, and for every grant of the visits to maps while its condition is evaluated.
* `Check.firstGrant` — the roles in the order in which they were assigned, the grants of each in the
  order of the store; the first that is in force, about the pair, and whose condition holds.
* `Check.check` — the decision, which is then recorded. Who or what is missing is an error; a
  condition that cannot be evaluated only does not hold. `Check.allows` is whether it allows.
-/

import AccessControl.Administration

namespace AccessControl

variable {σ : Type}

/-- Records decisions, if it is enabled. -/
structure AuditLogger (σ : Type) where
  enabled : Bool
  trail : AuditTrail σ
  resourceByName : String → Effect Error σ (Option Resource)
  actionByName : String → Effect Error σ (Option Action)

namespace AuditLogger

def ofStore (store : Store σ) (enabled : Bool) : AuditLogger σ :=
  ⟨enabled, store.trail, store.resourceByName, store.actionByName⟩

def operation : String := "check"

/-- The id that a look-up comes to, an error or an absence counting as no entity. -/
def idOr {α : Type} (idOf : α → Id) (lookUp : Effect Error σ (Option α)) : Effect Error σ Id :=
  (do
    let found ← lookUp
    pure (match found with
      | some row => idOf row
      | none => noId) : Effect Error σ Id).recover fun _ => noId

/-- Record how a request came out, with the text of its environment. -/
def log (logger : AuditLogger σ) (user : Id) (resource action : String) (result : Bool)
    (reason context : String) : Effect Error σ Unit :=
  if logger.enabled then do
    let resource ← idOr Resource.id (logger.resourceByName resource)
    let action ← idOr Action.id (logger.actionByName action)
    let entry : NewAuditEntry :=
      { user, resource, action, operation, result, reason, context := some context }
    (do
      let _ ← logger.trail.append entry
      pure () : Effect Error σ Unit).recover fun _ => ()
  else pure ()

end AuditLogger

namespace Check

/-- A place for the tables beside the expression engine. -/
abbrev World (σ : Type) : Type := σ × Expression.Engine

/-- A request: who wants to do what, to what, and where. The entries of the environment come in some
order, and so do the keys of maps when the condition of a grant is evaluated. -/
structure Request where
  user : Id
  resource : String
  action : String
  environment : AttributeMap := .empty
  arrangement : Shuffle (String × AttributeValue) := .kept
  visits : Id → Expression.Visits := fun _ => .ordered

def Request.context (request : Request) : String :=
  (AttributeMap.written (request.arrangement.arrange request.environment.toList)).text

/-- Whether the condition stored with a grant holds; no condition does. -/
def holds (circumstances : Circumstances) : Option String → Effect Error Expression.Engine Bool
  | none => pure true
  | some text => Condition.isSatisfiedText text circumstances

/-- The first of some grants whose condition holds. -/
def firstHolding (circumstances : Id → Circumstances) :
    List Permission → Effect Error Expression.Engine (Option Permission)
  | [] => pure none
  | permission :: rest => do
    if ← holds (circumstances permission.id) permission.condition then pure (some permission)
    else firstHolding circumstances rest

/-- The grants that a request is about: those in force for the pair. -/
def relevant (resource action : Id) (permissions : List Permission) : List Permission :=
  permissions.filter fun permission => permission.isActive && permission.targets resource action

/-- The first grant of some roles that is relevant and whose condition holds, with its role. -/
def firstGrant (store : Store σ) (resource action : Id) (circumstances : Id → Circumstances) :
    List Role → Effect Error (World σ) Decision
  | [] => pure .noMatchingPermission
  | role :: rest => do
    let permissions ← Effect.onFirst (store.rolePermissions role.id)
    match ← Effect.onSecond (firstHolding circumstances (relevant resource action permissions)) with
    | some permission => pure (.granted permission.id role.id)
    | none => firstGrant store resource action circumstances rest

/-- What a request is about: the user, the resource and the action, all of which must exist. -/
def resolve (store : Store σ) (request : Request) : Effect Error σ (Id × Id × Id) := do
  let user ← Administration.user store request.user
  let resource ← Administration.resourceByName store request.resource
  let action ← Administration.actionByName store request.action
  pure (user.id, resource.id, action.id)

/-- The user of a request and the decision on it, not yet recorded. -/
def decide (store : Store σ) (request : Request) : Effect Error (World σ) (Id × Decision) := do
  let (user, resource, action) ← Effect.onFirst (resolve store request)
  let assigned ← Effect.onFirst (store.userRoles user)
  let roles := assigned.filter Role.isActive
  if roles.isEmpty then pure (user, .noRoles)
  else
    let userFacts ← Effect.onFirst (store.attributes .user user)
    let resourceFacts ← Effect.onFirst (store.attributes .resource resource)
    let circumstances (grant : Id) : Circumstances :=
      ⟨attributeMap userFacts, attributeMap resourceFacts, request.environment,
        request.visits grant⟩
    let decision ← firstGrant store resource action circumstances roles
    pure (user, decision)

/-- The decision on a request, recorded. -/
def check (store : Store σ) (logger : AuditLogger σ) (request : Request) :
    Effect Error (World σ) Decision := do
  let (user, decision) ← decide store request
  Effect.onFirst (logger.log user request.resource request.action decision.allowed
    decision.reason.text request.context)
  pure decision

end Check

end AccessControl

/-
**What the answer to a request should be, as a statement about the tables.**

* `Check.Resolves` — the user, the resource and the action of a request are there.
* `Check.Supports` — a grant gives the request what it asks for, its condition holding;
  `Check.Decides` — it is the one whose role the user was given first.
* `Check.Unwinds` — a grant that is reached, no supporting one coming before it, breaks off.
* `Check.Answers` — the answers: what is missing, or the decision.
* `Check.Answers.unique` — **in sound tables a request has one answer.**
* `Check.circumstances_show` — what conditions are held against are the stored facts.
-/

import AccessControl.Proofs.Check.Grants
import AccessControl.Proofs.Condition

namespace AccessControl.Check

open Condition (StoredHolds StoredBreaks)
open Tables (Sound)

def Request.circumstances (request : Request) (tables : Tables) (resource grant : Id) :
    Circumstances :=
  ⟨attributeMap (tables.attributesOf .user request.user),
    attributeMap (tables.attributesOf .resource resource), request.environment,
    request.visits grant⟩

/-- Under each key circumstances show what is stored about the user of a request and about a
resource, and its environment as it is. -/
structure Show (tables : Tables) (request : Request) (resource : Id)
    (circumstances : Circumstances) : Prop where
  user : ∀ key, circumstances.user.find? key =
    ((tables.facts .user request.user).find? key).map Attribute.value
  resource : ∀ key, circumstances.resource.find? key =
    ((tables.facts .resource resource).find? key).map Attribute.value
  environment : circumstances.environment = request.environment

/-- The user of a request is there, and these are the ids of its resource and its action. -/
structure Resolves (tables : Tables) (request : Request) (resource action : Id) : Prop where
  user : request.user ∈ tables.users.map User.id
  resource : ∃ row ∈ tables.resources, row.name = request.resource ∧ row.id = resource
  action : ∃ row ∈ tables.actions, row.name = request.action ∧ row.id = action

/-- A role in force that a user has. -/
structure Serves (tables : Tables) (user : Id) (role : Role) : Prop where
  stored : role ∈ tables.roles
  inForce : role.status = .active
  linked : ⟨user, role.id⟩ ∈ tables.links

/-- A grant gives a request what it asks for. -/
structure Supports (tables : Tables) (request : Request) (resource action : Id)
    (permission : Permission) : Prop where
  eligible : Eligible tables request.user resource action permission
  holds : StoredHolds permission.condition (request.circumstances tables resource permission.id)

/-- The one grant that decides: of those that support the request, the user was given its role
first. -/
structure Decides (tables : Tables) (request : Request) (resource action : Id)
    (permission : Permission) : Prop where
  supports : Supports tables request resource action permission
  first : ∀ other, Supports tables request resource action other → other ≠ permission →
    Before tables request.user permission other

/-- A grant is reached: none that supports the request comes before it. -/
structure Reached (tables : Tables) (request : Request) (resource action : Id)
    (permission : Permission) : Prop where
  eligible : Eligible tables request.user resource action permission
  unsupported : ∀ earlier, Before tables request.user earlier permission →
    ¬ Supports tables request resource action earlier

/-- A grant is reached whose condition breaks off. -/
inductive Unwinds (tables : Tables) (request : Request) : Prop where
  | intro {resource action : Id} {permission : Permission}
      (resolves : Resolves tables request resource action)
      (reached : Reached tables request resource action permission)
      (breaks : StoredBreaks permission.condition
        (request.circumstances tables resource permission.id))

/-- The first of user, resource and action that is missing, as an error. -/
inductive Missing (tables : Tables) (request : Request) : Error → Prop where
  | user (absent : request.user ∉ tables.users.map User.id) :
      Missing tables request (.noId .user request.user)
  | resource (user : request.user ∈ tables.users.map User.id)
      (absent : request.resource ∉ tables.resources.map Resource.name) :
      Missing tables request (.noName .resource request.resource)
  | action (user : request.user ∈ tables.users.map User.id)
      (resource : request.resource ∈ tables.resources.map Resource.name)
      (absent : request.action ∉ tables.actions.map Action.name) :
      Missing tables request (.noName .action request.action)

/-- The answers to a request, unless it unwinds. -/
inductive Answers (tables : Tables) (request : Request) : Ending Error Decision → Prop where
  | missing {cause : Error} (missing : Missing tables request cause) :
      Answers tables request (.error cause)
  | noRoles {resource action : Id} (resolves : Resolves tables request resource action)
      (idle : ∀ role, ¬ Serves tables request.user role) :
      Answers tables request (.value .noRoles)
  | granted {resource action : Id} {permission : Permission}
      (resolves : Resolves tables request resource action)
      (decides : Decides tables request resource action permission) :
      Answers tables request (.value (.granted permission.id permission.role))
  | noMatchingPermission {resource action : Id} {role : Role}
      (resolves : Resolves tables request resource action)
      (serves : Serves tables request.user role)
      (unsupported : ∀ permission, ¬ Supports tables request resource action permission) :
      Answers tables request (.value .noMatchingPermission)

variable {tables : Tables} {request : Request} {resource action : Id} {permission : Permission}

/-! ### The facts of a request -/

theorem find?_attributesOf (sound : Sound tables) (owner : Owner) (id : Id) (key : String) :
    (attributeMap (tables.attributesOf owner id)).find? key =
      ((tables.facts owner id).find? key).map Attribute.value := by
  have pairs : ((tables.facts owner id).toList.map Prod.snd).map
        (fun fact : Attribute => (fact.key, fact.value)) =
      (tables.facts owner id).toList.map fun entry => (entry.1, entry.2.value) := by
    rw [List.map_map]
    refine List.map_congr_left fun entry member => ?_
    have own := sound.facts owner id entry.1 entry.2 (Dictionary.mem_toList_iff.mp member)
    rw [Function.comp_apply, own.2.2.2.1]
  unfold attributeMap Tables.attributesOf
  rw [pairs, Dictionary.find?_ofList, Dictionary.find?_map]
  · rfl
  · rw [List.map_map]
    exact Dictionary.nodup_keys _

/-- **What conditions are held against are the stored facts.** -/
theorem circumstances_show (sound : Sound tables) (request : Request) (resource grant : Id) :
    Show tables request resource (request.circumstances tables resource grant) where
  user key := find?_attributesOf sound .user request.user key
  resource key := find?_attributesOf sound .resource resource key
  environment := rfl

/-! ### One answer -/

theorem eq_of_name {ρ : Type} {nameOf : ρ → String} {rows : List ρ}
    (different : (rows.map nameOf).Nodup) {first second : ρ} (one : first ∈ rows)
    (two : second ∈ rows) (same : nameOf first = nameOf second) : first = second :=
  List.inj_on_of_nodup_map different one two same

/-- A request is about one resource and one action. -/
theorem Resolves.unique (sound : Sound tables) {otherResource otherAction : Id}
    (one : Resolves tables request resource action)
    (two : Resolves tables request otherResource otherAction) :
    resource = otherResource ∧ action = otherAction := by
  obtain ⟨-, ⟨row, stored, named, rfl⟩, ⟨act, storedAct, namedAct, rfl⟩⟩ := one
  obtain ⟨-, ⟨row', stored', named', rfl⟩, ⟨act', storedAct', namedAct', rfl⟩⟩ := two
  have rows := eq_of_name sound.resourceNames stored stored' (named.trans named'.symm)
  have acts := eq_of_name sound.actionNames storedAct storedAct' (namedAct.trans namedAct'.symm)
  exact ⟨rows ▸ rfl, acts ▸ rfl⟩

theorem Resolves.not_missing (resolves : Resolves tables request resource action) (cause : Error) :
    ¬ Missing tables request cause := by
  obtain ⟨user, ⟨row, stored, named, -⟩, ⟨act, storedAct, namedAct, -⟩⟩ := resolves
  intro missing
  cases missing with
  | user absent => exact absent user
  | resource _ absent => exact absent (List.mem_map.mpr ⟨row, stored, named⟩)
  | action _ _ absent => exact absent (List.mem_map.mpr ⟨act, storedAct, namedAct⟩)

theorem Missing.unique {first second : Error} (one : Missing tables request first)
    (two : Missing tables request second) : first = second := by
  cases one with
  | user absent =>
    cases two with
    | user _ => rfl
    | resource user _ => exact absurd user absent
    | action user _ _ => exact absurd user absent
  | resource user absent =>
    cases two with
    | user missing => exact absurd user missing
    | resource _ _ => rfl
    | action _ resource _ => exact absurd resource absent
  | action user resource absent =>
    cases two with
    | user missing => exact absurd user missing
    | resource _ missing => exact absurd resource missing
    | action _ _ _ => rfl

theorem Missing.kind {cause : Error} (missing : Missing tables request cause) :
    cause.kind = .notFound := by
  cases missing <;> rfl

theorem Eligible.serves {user : Id} (eligible : Eligible tables user resource action permission) :
    ∃ role, Serves tables user role := by
  obtain ⟨role, stored, same, inForce⟩ := eligible.role
  exact ⟨role, stored, inForce, same ▸ eligible.linked⟩

theorem Decides.unique {other : Permission}
    (one : Decides tables request resource action permission)
    (two : Decides tables request resource action other) : permission = other := by
  by_contra different
  have before := one.first other two.supports (Ne.symm different)
  have after := two.first permission one.supports different
  exact Nat.lt_asymm before after

/-- **In sound tables a request has one answer.** -/
theorem Answers.unique (sound : Sound tables) {first second : Ending Error Decision}
    (one : Answers tables request first) (two : Answers tables request second) :
    first = second := by
  cases one with
  | missing missing =>
    cases two with
    | missing also => rw [missing.unique also]
    | noRoles resolves _ => exact absurd missing (resolves.not_missing _)
    | granted resolves _ => exact absurd missing (resolves.not_missing _)
    | noMatchingPermission resolves _ _ => exact absurd missing (resolves.not_missing _)
  | noRoles resolves idle =>
    cases two with
    | missing missing => exact absurd missing (resolves.not_missing _)
    | noRoles _ _ => rfl
    | granted _ decides =>
      obtain ⟨role, serves⟩ := decides.supports.eligible.serves
      exact absurd serves (idle role)
    | noMatchingPermission _ serves _ => exact absurd serves (idle _)
  | granted resolves decides =>
    cases two with
    | missing missing => exact absurd missing (resolves.not_missing _)
    | noRoles _ idle =>
      obtain ⟨role, serves⟩ := decides.supports.eligible.serves
      exact absurd serves (idle role)
    | granted also decidesAlso =>
      obtain ⟨rfl, rfl⟩ := resolves.unique sound also
      rw [decides.unique decidesAlso]
    | noMatchingPermission also _ unsupported =>
      obtain ⟨rfl, rfl⟩ := resolves.unique sound also
      exact absurd decides.supports (unsupported _)
  | noMatchingPermission resolves serves unsupported =>
    cases two with
    | missing missing => exact absurd missing (resolves.not_missing _)
    | noRoles _ idle => exact absurd serves (idle _)
    | granted also decides =>
      obtain ⟨rfl, rfl⟩ := resolves.unique sound also
      exact absurd decides.supports (unsupported _)
    | noMatchingPermission _ _ _ => rfl

/-- The answer to a request about what exists is a decision, which allows what a grant supports. -/
theorem Answers.decided (sound : Sound tables)
    (resolves : Resolves tables request resource action) {ending : Ending Error Decision}
    (answers : Answers tables request ending) :
    ∃ decision, ending = .value decision ∧
      (decision.allowed = true ↔
        ∃ permission, Supports tables request resource action permission) := by
  cases answers with
  | missing missing => exact absurd missing (resolves.not_missing _)
  | noRoles _ idle =>
    refine ⟨.noRoles, rfl, iff_of_false nofun fun ⟨permission, supports⟩ => ?_⟩
    obtain ⟨role, serves⟩ := supports.eligible.serves
    exact idle role serves
  | @granted _ _ permission also decides =>
    obtain ⟨rfl, rfl⟩ := resolves.unique sound also
    exact ⟨_, rfl, iff_of_true rfl ⟨permission, decides.supports⟩⟩
  | noMatchingPermission also _ unsupported =>
    obtain ⟨rfl, rfl⟩ := resolves.unique sound also
    exact ⟨.noMatchingPermission, rfl, iff_of_false nofun fun ⟨permission, supports⟩ =>
      unsupported permission supports⟩

theorem Answers.kind {cause : Error} (answers : Answers tables request (.error cause)) :
    cause.kind = .notFound := by
  cases answers with
  | missing missing => exact missing.kind

end AccessControl.Check

/-
**Checks agree with listings.**

* `Check.candidates_eq` — the grants that a check goes through are the listed ones about the pair.
* `Check.fits` — an entry of a listing is about a resource and an action, and its condition, if it
  has one, is satisfied.
* `Check.find?_of_decides` — of the listed grants that hold for the pair the first one decides.
* `Check.check_agrees_with_listing` — **a check allows exactly what an entry of the user's listing
  fits, through the first one that does**; it finds no roles exactly when the user has none in
  force.
-/

import AccessControl.Proofs.Check.Outcome
import AccessControl.Proofs.Listing

namespace AccessControl.Check

open Administration (Describes)
open Tables (Sound)

variable {tables : Tables} {request : Request} {engine : Expression.Engine}

/-! ### Grants that hold for a pair -/

/-- **The grants that a check goes through are the listed ones about the pair.** -/
theorem candidates_eq (tables : Tables) (user resource action : Id) :
    candidates tables user resource action =
      (tables.listed user).filter fun permission => permission.targets resource action := by
  unfold candidates Tables.listed Tables.grantsInForce relevant
  rw [List.filter_flatMap]
  simp only [List.filter_filter, Bool.and_comm]

/-- Whether a grant is about a pair and its condition, as it is stored, holds. -/
def holdsFor (circumstances : Id → Circumstances) (engine : Expression.Engine)
    (resource action : Id) (permission : Permission) : Bool :=
  permission.targets resource action &&
    (holds (circumstances permission.id) permission.condition engine).1 = .value true

theorem holds_iff (faithful : engine.Faithful) (circumstances : Circumstances)
    (stored : Option String) :
    (holds circumstances stored engine).1 = .value true ↔
      Condition.StoredHolds stored circumstances := by
  obtain ⟨result, -⟩ := Condition.holds_faithful faithful circumstances stored
  generalize (holds circumstances stored engine).1 = ending at result ⊢
  cases result with
  | broken breaks => exact iff_of_false nofun breaks.not_holds
  | satisfied _ holds => exact iff_of_true rfl holds
  | unsatisfied _ fails => exact iff_of_false nofun fails

variable {resource action : Id} {permission : Permission}

theorem supports_iff (sound : Sound tables) (faithful : engine.Faithful) :
    Supports tables request resource action permission ↔
      permission ∈ tables.listed request.user ∧
        holdsFor (request.circumstances tables resource) engine resource action permission =
          true := by
  have eligible : Eligible tables request.user resource action permission ↔
      permission ∈ tables.listed request.user ∧ permission.targets resource action = true := by
    rw [← mem_candidates_iff sound, candidates_eq, List.mem_filter]
  unfold holdsFor
  rw [Bool.and_eq_true, decide_eq_true_iff, holds_iff faithful, ← and_assoc, ← eligible]
  exact ⟨fun supports => ⟨supports.eligible, supports.holds⟩, fun ⟨own, holds⟩ => ⟨own, holds⟩⟩

/-- **Of the listed grants that hold for the pair the first one decides.** The grants about the pair
stand in the order of the roles, which the first one found leads. -/
theorem find?_of_decides (sound : Sound tables) (faithful : engine.Faithful)
    (decides : Decides tables request resource action permission) :
    (tables.listed request.user).find?
      (holdsFor (request.circumstances tables resource) engine resource action) =
        some permission := by
  obtain ⟨listed, holds⟩ := (supports_iff sound faithful).mp decides.supports
  obtain ⟨first, found⟩ := Option.isSome_iff_exists.mp (List.find?_isSome.mpr ⟨_, listed, holds⟩)
  rw [found]
  by_contra different
  have different : first ≠ permission := fun same => different (congrArg some same)
  obtain ⟨firstHolds, before, after, place, passed⟩ := List.find?_eq_some_iff_append.mp found
  have firstSupports : Supports tables request resource action first :=
    (supports_iff sound faithful).mpr ⟨List.mem_of_find?_eq_some found, firstHolds⟩
  have later := decides.first first firstSupports different
  have onPair : first.targets resource action = true := (Bool.and_eq_true_iff.mp firstHolds).1
  have ascends := candidates_ascend sound request.user resource action
  have own := (mem_candidates_iff sound).mpr decides.supports.eligible
  rw [candidates_eq, place, List.filter_append, List.filter_cons_of_pos (by exact onPair)]
    at ascends own
  rcases place_of_ascends ascends own with front | same | earlier
  · have fails := passed permission (List.mem_filter.mp front).1
    rw [holds] at fails
    cases fails
  · exact different same.symm
  · exact Nat.lt_asymm earlier later

theorem allowed_eq (decision : Decision) :
    decision.allowed = decision.permission?.isSome := by
  cases decision <;> rfl

/-- **The decision is that of the first listed grant that holds for the pair**, if there is one, and
finds no roles exactly when the user has none in force. -/
theorem Answers.first (sound : Sound tables) (faithful : engine.Faithful)
    (resolves : Resolves tables request resource action) {decision : Decision}
    (answers : Answers tables request (.value decision)) :
    let first := (tables.listed request.user).find?
      (holdsFor (request.circumstances tables resource) engine resource action)
    decision.permission? = first.map Permission.id ∧ decision.role? = first.map Permission.role ∧
      (decision.reason = .noRoles ↔ (tables.rolesOf request.user).filter Role.isActive = []) := by
  intro first
  have absent (unsupported : ∀ permission, ¬ Supports tables request resource action permission) :
      first = none :=
    List.find?_eq_none.mpr fun permission listed holds =>
      unsupported permission ((supports_iff sound faithful).mpr ⟨listed, holds⟩)
  have some_role {role : Role} (serves : Serves tables request.user role) :
      (tables.rolesOf request.user).filter Role.isActive ≠ [] :=
    List.ne_nil_of_mem ((mem_activeRoles_iff sound).mpr serves)
  cases answers with
  | noRoles _ idle =>
    have unsupported (permission : Permission) :
        ¬ Supports tables request resource action permission := fun supports => by
      obtain ⟨role, serves⟩ := supports.eligible.serves
      exact idle role serves
    rw [absent unsupported]
    refine ⟨rfl, rfl, iff_of_true rfl (List.eq_nil_iff_forall_not_mem.mpr fun role member => ?_)⟩
    exact idle role ((mem_activeRoles_iff sound).mp member)
  | granted also decides =>
    obtain ⟨rfl, rfl⟩ := resolves.unique sound also
    obtain ⟨role, serves⟩ := decides.supports.eligible.serves
    rw [show first = _ from find?_of_decides sound faithful decides]
    exact ⟨rfl, rfl, iff_of_false nofun (some_role serves)⟩
  | noMatchingPermission also serves unsupported =>
    obtain ⟨rfl, rfl⟩ := resolves.unique sound also
    rw [absent unsupported]
    exact ⟨rfl, rfl, iff_of_false nofun (some_role serves)⟩

/-! ### Entries that fit -/

/-- Whether an entry of a listing is about a resource and an action and its condition, if it has
one, is satisfied. -/
def fits (circumstances : Id → Circumstances) (engine : Expression.Engine)
    (resource : Resource) (action : Action) (entry : PermissionDetail) : Bool :=
  entry.resource = resource && entry.action = action &&
    match entry.condition with
    | none => true
    | some condition =>
      (condition.isSatisfied (circumstances entry.permission) engine).1 = .value true

/-- An entry fits exactly when the grant that it shows holds for the pair. -/
theorem fits_eq (sound : Sound tables) {circumstances : Id → Circumstances} {resource : Resource}
    {action : Action} (stored : resource ∈ tables.resources) (known : action ∈ tables.actions)
    {permission : Permission} {entry : PermissionDetail}
    (describes : Describes tables permission entry) :
    holdsFor circumstances engine resource.id action.id permission =
      fits circumstances engine resource action entry := by
  obtain ⟨onResource, ofResource⟩ := sound.resources.find?_iff.mp describes.resource
  obtain ⟨toAct, ofAction⟩ := sound.actions.find?_iff.mp describes.action
  have resources : permission.resource = resource.id ↔ entry.resource = resource := by
    rw [← ofResource]
    exact ⟨sound.resources.eq_of_id onResource stored, congrArg Resource.id⟩
  have actions : permission.action = action.id ↔ entry.action = action := by
    rw [← ofAction]
    exact ⟨sound.actions.eq_of_id toAct known, congrArg Action.id⟩
  unfold holdsFor fits Permission.targets
  simp only [resources, actions]
  congr 1
  have reads := describes.condition
  cases written : permission.condition with
  | none =>
    rw [written] at reads
    cases read : entry.condition with
    | none => rfl
    | some condition =>
      rw [read] at reads
      cases reads
  | some text =>
    rw [written] at reads
    cases read : entry.condition with
    | none =>
      rw [read] at reads
      cases reads
    | some condition =>
      rw [read] at reads
      have readable := Option.some.inj reads
      have same : holds (circumstances permission.id) (some text) =
          condition.isSatisfied (circumstances entry.permission) := by
        show Condition.isSatisfiedText text _ = _
        unfold Condition.isSatisfiedText
        rw [readable, describes.permission]
      rw [same]

theorem find?_of_forall₂ {α β : Type} {related : α → β → Prop} {test : α → Bool} {test' : β → Bool}
    {items : List α} {others : List β} (matched : List.Forall₂ related items others)
    (same : ∀ item other, related item other → test item = test' other) :
    Option.Rel related (items.find? test) (others.find? test') := by
  induction matched with
  | nil => exact .none
  | @cons item other _ _ first _ ih =>
    rw [List.find?_cons, List.find?_cons, same item other first]
    cases test' other with
    | true => exact .some first
    | false => exact ih

theorem shown_eq {grant? : Option Permission} {detail? : Option PermissionDetail}
    (shown : Option.Rel (Describes tables) grant? detail?) :
    detail?.map PermissionDetail.permission = grant?.map Permission.id ∧
      detail?.map PermissionDetail.role = grant?.map Permission.role := by
  cases shown with
  | none => exact ⟨rfl, rfl⟩
  | some describes => exact ⟨congrArg some describes.permission, congrArg some describes.role⟩

variable {settings : Settings} {world : World Tables} {resource : Resource} {action : Action}
  {user : Id} {environment : AttributeMap} {arrangement : Shuffle (String × AttributeValue)}
  {visits : Id → Expression.Visits} {details : List PermissionDetail}

/-- **A check agrees with the listing of the user.** It allows exactly what an entry fits, and the
grant that decides is the one of the first such entry; and it finds no roles exactly when the user
has none in force. -/
theorem check_agrees_with_listing
    (reachable : (Authority.ofStore Tables.store settings).Reachable world)
    (stored : resource ∈ world.1.resources) (known : action ∈ world.1.actions)
    (listing : (Administration.userPermissions Tables.store user world.1).1 = .value details)
    (calm : ¬ Unwinds world.1
      ⟨user, resource.name, action.name, environment, arrangement, visits⟩) :
    let request : Request :=
      ⟨user, resource.name, action.name, environment, arrangement, visits⟩
    let fits := fits (request.circumstances world.1 resource.id) world.2 resource action
    ∃ decision,
      (check Tables.store (Authority.ofStore Tables.store settings).logger request world).1 =
        .value decision ∧
      (decision.allowed = true ↔ ∃ entry ∈ details, fits entry = true) ∧
      decision.permission? = (details.find? fits).map PermissionDetail.permission ∧
      decision.role? = (details.find? fits).map PermissionDetail.role ∧
      (decision.reason = .noRoles ↔
        (Administration.userRoles Tables.store user world.1).1 = .value []) := by
  intro request fits
  have sound := reachable.keeping.1.sound
  have faithful := reachable.keeping.2
  obtain ⟨⟨row, someone⟩, described⟩ := Administration.userPermissions_value_iff.mp listing
  have present : ∃ row, world.1.user? user = some row := ⟨row, someone⟩
  obtain ⟨member, own⟩ := sound.users.find?_iff.mp someone
  have resolves : Resolves world.1 request resource.id action.id :=
    ⟨List.mem_map.mpr ⟨row, member, own⟩, ⟨resource, stored, rfl, rfl⟩, ⟨action, known, rfl, rfl⟩⟩
  obtain ⟨decision, ended, -⟩ := decided_of_calm reachable resolves calm
  have answers := answers_of_calm reachable calm
  rw [ended] at answers
  obtain ⟨permission, role, reason⟩ := answers.first sound faithful resolves
  obtain ⟨samePermission, sameRole⟩ :=
    shown_eq <| find?_of_forall₂ described fun _ _ describes =>
      @fits_eq _ world.2 sound (request.circumstances world.1 resource.id) _ _ stored known _ _
        describes
  have permission := permission.trans samePermission.symm
  refine ⟨decision, ended, ?_, permission, role.trans sameRole.symm, reason.trans ?_⟩
  · rw [allowed_eq, permission, Option.isSome_map]
    exact List.find?_isSome
  · rw [Administration.userRoles_value_iff]
    exact (and_iff_right present).symm

/-- The listing shows the grants of both roles, and the check comes to the second one, the condition
of the first one being readable and not satisfied. -/
theorem check_agrees_with_listing_office :
    let tables := office (Condition.text { expression := some "false" })
    let world : World Tables := (tables, .fresh true)
    let resource : Resource := ⟨4, "page", none, none⟩
    let action : Action := ⟨5, "edit", none⟩
    let fits := fits (visit.circumstances tables 4) world.2 resource action
    ∃ details, (Administration.userPermissions Tables.store 1 tables).1 = .value details ∧
      ¬ Unwinds tables visit ∧ (∃ entry ∈ details, fits entry = true) ∧
      (details.find? fits).map PermissionDetail.permission = some 7 := by
  intro tables world resource action fits
  have reachable : (Authority.ofStore Tables.store {}).Reachable world := office_reachable _
  have run : (check Tables.store (Authority.ofStore Tables.store {}).logger visit world).1 =
    .value (.granted 7 3) := by decide +kernel
  have calm : ¬ Unwinds tables visit := not_unwinds reachable (by rw [run]; nofun)
  have listed : ((Administration.userPermissions Tables.store 1 tables).1.map fun _ => ()) =
    .value () := by decide +kernel
  cases listing : (Administration.userPermissions Tables.store 1 tables).1 with
  | value details =>
    obtain ⟨decision, ended, allowed, permission, -⟩ :=
      @check_agrees_with_listing {} world resource action 1 .empty .kept (fun _ => .ordered) details
        reachable (by decide) (by decide) listing calm
    obtain rfl := Ending.value.inj (run.symm.trans ended)
    exact ⟨details, rfl, calm, allowed.mp rfl, permission.symm⟩
  | error cause =>
    rw [listing] at listed
    cases listed
  | broken =>
    rw [listing] at listed
    cases listed

end AccessControl.Check

/-
**How a check ends.**

* `Check.resolve_resolution` — the names of a request are resolved, or the first that is missing is
  the error.
* `Check.Search.outcome` — the search through the eligible grants unwinds, or ends with the answer.
* `Check.check_course` — a request about what exists is decided by that search, whatever is answered
  to the logger.
* `Check.check_outcome` — **a check unwinds or answers**, whatever programs were kept and whether or
  not it is recorded.
* `Check.check_returns` — a request about what exists never ends with an error; it is broken off
  exactly when it unwinds, at an expression whose compilation breaks off.
* `Check.check_answers` — a request that does not unwind is given its one answer.
-/

import AccessControl.Proofs.Audit.Logger
import AccessControl.Proofs.Check.Answer
import AccessControl.Proofs.Check.Search

namespace AccessControl.Check

open Tables (Sound)

variable {tables : Tables} {request : Request} {resource action : Id}

/-! ### Names -/

/-- How the names of a request are resolved. -/
inductive Resolution (tables : Tables) (request : Request) :
    Ending Error (Id × Id × Id) → Prop where
  | missing {cause : Error} (missing : Missing tables request cause) :
      Resolution tables request (.error cause)
  | resolved {resource action : Id} (resolves : Resolves tables request resource action) :
      Resolution tables request (.value (request.user, resource, action))

/-- A look-up finds a row that has what is looked for, unless no row has it. -/
theorem find?_or_absent {ρ κ : Type} [DecidableEq κ] (view : ρ → κ) (rows : List ρ) (value : κ) :
    (∃ row ∈ rows, view row = value ∧ rows.find? (view · = value) = some row) ∨
      value ∉ rows.map view ∧ rows.find? (view · = value) = none := by
  cases found : rows.find? (view · = value) with
  | some row =>
    exact .inl ⟨row, List.mem_of_find?_eq_some found, by simpa using List.find?_some found, rfl⟩
  | none =>
    rw [List.find?_eq_none] at found
    exact .inr ⟨by simpa using found, rfl⟩

section LookUps

variable {α β : Type} (view : Tables → Option α)

theorem found_some {row : α} (found : view tables = some row) (otherwise : Error)
    (next : α → Effect Error Tables β) :
    (Administration.found (Effect.reading view) otherwise >>= next) tables = next row tables := by
  unfold Administration.found
  rw [Effect.bind_apply, Effect.reading_bind, found]
  rfl

/-- What is not there is an error. -/
theorem found_none (absent : view tables = none) (otherwise : Error)
    (next : α → Effect Error Tables β) :
    (Administration.found (Effect.reading view) otherwise >>= next) tables =
      (.error otherwise, tables) := by
  unfold Administration.found
  rw [Effect.bind_apply, Effect.reading_bind, absent]
  rfl

end LookUps

/-- **The names of a request are resolved, or the first that is missing is the error.** -/
theorem resolve_resolution (tables : Tables) (request : Request) :
    ∃ ending, Resolution tables request ending ∧
      resolve Tables.store request tables = (ending, tables) := by
  let userOf (tables : Tables) := tables.users.find? (User.id · = request.user)
  let resourceOf (tables : Tables) := tables.resources.find? (Resource.name · = request.resource)
  let actionOf (tables : Tables) := tables.actions.find? (Action.name · = request.action)
  rcases find?_or_absent User.id tables.users request.user with
    ⟨user, someone, own, found⟩ | ⟨absent, none⟩
  swap
  · exact ⟨_, .missing (.user absent), found_none userOf none _ _⟩
  have known : request.user ∈ tables.users.map User.id := List.mem_map.mpr ⟨user, someone, own⟩
  have first := found_some (β := Id × Id × Id) userOf found
  rcases find?_or_absent Resource.name tables.resources request.resource with
    ⟨resource, something, named, found⟩ | ⟨absent, none⟩
  swap
  · refine ⟨_, .missing (.resource known absent), (first _ _).trans ?_⟩
    exact found_none resourceOf none _ _
  have known' : request.resource ∈ tables.resources.map Resource.name :=
    List.mem_map.mpr ⟨resource, something, named⟩
  have second := found_some (β := Id × Id × Id) resourceOf found
  rcases find?_or_absent Action.name tables.actions request.action with
    ⟨action, some, called, found⟩ | ⟨absent, none⟩
  swap
  · refine ⟨_, .missing (.action known known' absent), (first _ _).trans ((second _ _).trans ?_)⟩
    exact found_none actionOf none _ _
  refine ⟨_, .resolved ⟨known, ⟨resource, something, named, rfl⟩, ⟨action, some, called, rfl⟩⟩, ?_⟩
  rw [← own]
  refine (first _ _).trans ((second _ _).trans ?_)
  exact found_some actionOf found _ _

/-! ### The search -/

/-- In a row that ascends, a grant stands before another one, is it, or was given after it. -/
theorem place_of_ascends {user : Id} {before after : List Permission}
    {permission other : Permission}
    (ascends : (before ++ permission :: after).Pairwise (Before tables user))
    (member : other ∈ before ++ permission :: after) :
    other ∈ before ∨ other = permission ∨ Before tables user permission other := by
  obtain ⟨-, ascends, -⟩ := List.pairwise_append.mp ascends
  rcases List.mem_append.mp member with front | member
  · exact .inl front
  · rcases List.mem_cons.mp member with same | behind
    · exact .inr (.inl same)
    · exact .inr (.inr ((List.pairwise_cons.mp ascends).1 other behind))

/-- **The search through the eligible grants unwinds, or ends with the answer.** -/
theorem Search.outcome (sound : Sound tables)
    (resolves : Resolves tables request resource action) {role : Role}
    (serves : Serves tables request.user role) {ending : Ending Error (Option Permission)}
    (search : Search (request.circumstances tables resource)
      (candidates tables request.user resource action) ending) :
    (Unwinds tables request ∧ ending.map decisionOf = .broken) ∨
      ¬ Unwinds tables request ∧ Answers tables request (ending.map decisionOf) := by
  have among (permission : Permission) :
      permission ∈ candidates tables request.user resource action ↔
        Eligible tables request.user resource action permission := mem_candidates_iff sound
  have ascends := candidates_ascend sound request.user resource action
  cases search with
  | @broken before after permission place passed breaks =>
    rw [place] at among ascends
    refine .inl ⟨.intro resolves ⟨(among permission).mp (by simp), ?_⟩ breaks, rfl⟩
    intro earlier less supports
    rcases place_of_ascends ascends ((among earlier).mpr supports.eligible) with front | same | more
    · exact (passed earlier front).1 supports.holds
    · exact Nat.lt_irrefl _ (same ▸ less)
    · exact Nat.lt_asymm less more
  | @found before after permission place passed calm holds =>
    rw [place] at among ascends
    have supports : Supports tables request resource action permission :=
      ⟨(among permission).mp (by simp), holds⟩
    refine .inr ⟨fun unwinds => ?_, .granted resolves ⟨supports, fun other also different => ?_⟩⟩
    · obtain ⟨also, reached, breaks⟩ := unwinds
      obtain ⟨rfl, rfl⟩ := resolves.unique sound also
      rcases place_of_ascends ascends ((among _).mpr reached.eligible) with front | same | more
      · exact (passed _ front).2 breaks
      · exact calm (same ▸ breaks)
      · exact reached.unsupported permission more supports
    · rcases place_of_ascends ascends ((among other).mpr also.eligible) with front | same | more
      · exact absurd also.holds (passed other front).1
      · exact absurd same different
      · exact more
  | exhausted passed =>
    refine .inr ⟨fun unwinds => ?_, .noMatchingPermission resolves serves fun permission => ?_⟩
    · obtain ⟨also, reached, breaks⟩ := unwinds
      obtain ⟨rfl, rfl⟩ := resolves.unique sound also
      exact (passed _ ((among _).mpr reached.eligible)).2 breaks
    · exact fun supports => (passed _ ((among _).mpr supports.eligible)).1 supports.holds

/-! ### The whole check -/

variable {engine : Expression.Engine}

/-- The roles in force of a user. -/
theorem mem_activeRoles_iff (sound : Sound tables) {user : Id} {role : Role} :
    role ∈ (tables.rolesOf user).filter Role.isActive ↔ Serves tables user role := by
  rw [List.mem_filter, mem_rolesOf_iff sound]
  constructor
  · rintro ⟨⟨stored, linked⟩, inForce⟩
    exact ⟨stored, of_decide_eq_true inForce, linked⟩
  · intro serves
    exact ⟨⟨serves.stored, serves.linked⟩, decide_eq_true serves.inForce⟩

theorem decide_of_error {cause : Error}
    (run : resolve Tables.store request tables = (.error cause, tables)) :
    (decide Tables.store request (tables, engine)).1 = .error cause := by
  have failed : (Effect.onFirst (resolve Tables.store request) (tables, engine)).1 =
      .error cause := congrArg Prod.fst run
  exact Effect.bind_of_error failed _

/-- A request that resolves is decided by the roles in force. -/
theorem decide_of_value
    (run : resolve Tables.store request tables =
      (.value (request.user, resource, action), tables)) :
    (decide Tables.store request (tables, engine)).1.map Prod.snd =
      if ((tables.rolesOf request.user).filter Role.isActive).isEmpty then .value .noRoles
      else
        (firstGrant Tables.store resource action (request.circumstances tables resource)
          ((tables.rolesOf request.user).filter Role.isActive) (tables, engine)).1 := by
  unfold decide
  rw [Effect.bind_apply]
  unfold Effect.onFirst
  rw [run]
  show Ending.map Prod.snd (Prod.fst ((ite (List.isEmpty _ = true) _ _ :
    Effect Error (World Tables) (Id × Decision)) (tables, engine))) = _
  by_cases idle : ((tables.rolesOf request.user).filter Role.isActive).isEmpty = true
  · rw [if_pos idle, if_pos idle]
    rfl
  · rw [if_neg idle, if_neg idle]
    show ((firstGrant Tables.store resource action (request.circumstances tables resource)
      ((tables.rolesOf request.user).filter Role.isActive) >>=
        fun decision => pure (request.user, decision)) (tables, engine)).1.map Prod.snd = _
    rw [Effect.bind_apply]
    generalize firstGrant Tables.store resource action (request.circumstances tables resource)
      ((tables.rolesOf request.user).filter Role.isActive) (tables, engine) = run
    obtain ⟨_ | _ | _, after⟩ := run <;> rfl

/-- **The course of a check about what exists**: without a role in force there is nothing to search,
and otherwise the search through the relevant grants of these roles decides, whatever is answered to
the logger. -/
theorem check_course (sound : Sound tables) (faithful : engine.Faithful)
    {logger : AuditLogger Tables} (answers : logger.Answers)
    (resolves : Resolves tables request resource action) :
    ∃ ending, Search (request.circumstances tables resource)
        (candidates tables request.user resource action) ending ∧
      (check Tables.store logger request (tables, engine)).1 =
        if ((tables.rolesOf request.user).filter Role.isActive).isEmpty then .value .noRoles
        else ending.map decisionOf := by
  obtain ⟨_, resolution, run⟩ := resolve_resolution tables request
  cases resolution with
  | missing missing => exact absurd missing (resolves.not_missing _)
  | resolved also =>
    obtain ⟨rfl, rfl⟩ := resolves.unique sound also
    obtain ⟨ending, search, same⟩ := firstGrant_search tables resource action
      (request.circumstances tables resource) faithful
      ((tables.rolesOf request.user).filter Role.isActive)
    refine ⟨ending, search, ?_⟩
    rw [check_ends Tables.store answers, decide_of_value run, same]

/-- **A check unwinds or answers**, whatever programs are kept and whether or not it is recorded. -/
theorem check_outcome (sound : Sound tables) (faithful : engine.Faithful) (enabled : Bool)
    (request : Request) :
    let ending := (check Tables.store (.ofStore Tables.store enabled) request (tables, engine)).1
    (Unwinds tables request ∧ ending = .broken) ∨
      ¬ Unwinds tables request ∧ Answers tables request ending := by
  have answered := AuditLogger.answers_ofStore enabled
  obtain ⟨_, resolution, run⟩ := resolve_resolution tables request
  cases resolution with
  | missing missing =>
    rw [check_ends Tables.store answered, decide_of_error run]
    refine .inr ⟨fun unwinds => ?_, .missing missing⟩
    obtain ⟨resolves, -, -⟩ := unwinds
    exact resolves.not_missing _ missing
  | resolved resolves =>
    obtain ⟨ending, search, same⟩ := check_course sound faithful answered resolves
    rw [same]
    by_cases idle : ((tables.rolesOf request.user).filter Role.isActive).isEmpty = true
    · rw [if_pos idle]
      have idle : ∀ role, ¬ Serves tables request.user role := fun role serves => by
        have member := (mem_activeRoles_iff sound).mpr serves
        rw [List.isEmpty_iff.mp idle] at member
        exact List.not_mem_nil member
      refine .inr ⟨fun unwinds => ?_, .noRoles resolves idle⟩
      obtain ⟨-, reached, -⟩ := unwinds
      obtain ⟨role, serves⟩ := reached.eligible.serves
      exact idle role serves
    · rw [if_neg idle]
      obtain ⟨role, member⟩ := List.exists_mem_of_ne_nil _ (mt List.isEmpty_iff.mpr idle)
      exact search.outcome sound resolves ((mem_activeRoles_iff sound).mp member)

variable {settings : Settings} {world : World Tables}

/-- A check unwinds or answers in every world that an authority reaches. -/
theorem outcome_of_reachable (reachable : (Authority.ofStore Tables.store settings).Reachable world)
    (request : Request) :
    let ending :=
      (check Tables.store (Authority.ofStore Tables.store settings).logger request world).1
    (Unwinds world.1 request ∧ ending = .broken) ∨
      ¬ Unwinds world.1 request ∧ Answers world.1 request ending :=
  check_outcome reachable.keeping.1.sound reachable.keeping.2 settings.enableAudit request

theorem not_unwinds (reachable : (Authority.ofStore Tables.store settings).Reachable world)
    (calm : (check Tables.store (Authority.ofStore Tables.store settings).logger request world).1 ≠
      .broken) : ¬ Unwinds world.1 request := by
  rcases outcome_of_reachable reachable request with ⟨-, broken⟩ | ⟨quiet, -⟩
  · exact absurd broken calm
  · exact quiet

/-- A check that does not unwind ends with the answer of its request. -/
theorem answers_of_calm
    (reachable : (Authority.ofStore Tables.store settings).Reachable world)
    (calm : ¬ Unwinds world.1 request) :
    Answers world.1 request
      (check Tables.store (Authority.ofStore Tables.store settings).logger request world).1 := by
  rcases outcome_of_reachable reachable request with ⟨unwinds, -⟩ | ⟨-, answers⟩
  · exact absurd unwinds calm
  · exact answers

/-- A request about what exists that does not unwind is decided by what supports it. -/
theorem decided_of_calm
    (reachable : (Authority.ofStore Tables.store settings).Reachable world)
    (resolves : Resolves world.1 request resource action) (calm : ¬ Unwinds world.1 request) :
    ∃ decision,
      (check Tables.store (Authority.ofStore Tables.store settings).logger request world).1 =
        .value decision ∧
      (decision.allowed = true ↔
        ∃ permission, Supports world.1 request resource action permission) :=
  (answers_of_calm reachable calm).decided reachable.keeping.1.sound resolves

/-! ### A request about what exists -/

/-- **A request about what exists is decided, or broken off where it unwinds.** It never ends with
an error: what is wrong with the condition of one grant only makes it not hold, and every other
grant still counts. The one exception is a literal at which the compilation itself breaks off. -/
theorem check_returns (reachable : (Authority.ofStore Tables.store settings).Reachable world)
    (resolves : Resolves world.1 request resource action) :
    let ending :=
      (check Tables.store (Authority.ofStore Tables.store settings).logger request world).1
    (ending = .broken ↔ Unwinds world.1 request) ∧
      (¬ Unwinds world.1 request → ∃ decision, ending = .value decision ∧
        (decision.allowed = true ↔
          ∃ permission, Supports world.1 request resource action permission)) := by
  intro ending
  rcases outcome_of_reachable reachable request with ⟨unwinds, broken⟩ | ⟨calm, -⟩
  · exact ⟨iff_of_true broken unwinds, fun calm => absurd unwinds calm⟩
  · obtain ⟨decision, same, allowed⟩ := decided_of_calm reachable resolves calm
    have whole : ending ≠ .broken := fun broken => nomatch same.symm.trans broken
    exact ⟨iff_of_false whole calm, fun _ => ⟨decision, same, allowed⟩⟩

/-- A user with two roles that each have a grant for one action, the first under a condition. -/
def office (condition : String) : Tables :=
  Tables.store.after
    [.insertUser "ann", .insertRole { name := "reader" }, .insertRole { name := "editor" },
      .insertResource { name := "page" }, .insertAction { name := "edit" }, .assignRole 1 2,
      .assignRole 1 3,
      .insertPermission { role := 2, resource := 4, action := 5, condition := some condition },
      .insertPermission { role := 3, resource := 4, action := 5 }]
    Tables.empty

def visit : Request := { user := 1, resource := "page", action := "edit" }

theorem office_reachable (condition : String) :
    (Authority.ofStore Tables.store {}).Reachable (office condition, .fresh true) :=
  Authority.Reachable.start.after _

/-- A condition that is no condition at all does not hide the grant of the other role. -/
theorem check_returns_office :
    Resolves (office "nonsense") visit 4 5 ∧
      ∃ decision,
        (check Tables.store (Authority.ofStore Tables.store {}).logger visit
          (office "nonsense", .fresh true)).1 = .value decision ∧
        (decision.allowed = true ↔
          ∃ permission, Supports (office "nonsense") visit 4 5 permission) := by
  have resolves : Resolves (office "nonsense") visit 4 5 :=
    ⟨by decide, ⟨⟨4, "page", none, none⟩, by decide, rfl, rfl⟩,
      ⟨⟨5, "edit", none⟩, by decide, rfl, rfl⟩⟩
  have reachable := office_reachable "nonsense"
  have returns := check_returns reachable resolves
  exact ⟨resolves, returns.2 (not_unwinds reachable (by decide +kernel))⟩

/-- A literal beyond 64 bits in the condition of one grant breaks the check off, although all that
it is about exists and another grant would allow it. -/
theorem check_breaks_off_at_literal :
    let condition := Condition.text { expression := some "9223372036854775808 == 0" }
    (Authority.ofStore Tables.store {}).Reachable (office condition, .fresh true) ∧
      Resolves (office condition) visit 4 5 ∧
      (check Tables.store (Authority.ofStore Tables.store {}).logger visit
        (office condition, .fresh true)).1 = .broken := by
  refine ⟨office_reachable _, ⟨by decide, ⟨⟨4, "page", none, none⟩, by decide, rfl, rfl⟩,
    ⟨⟨5, "edit", none⟩, by decide, rfl, rfl⟩⟩, by decide +kernel⟩

/-! ### A request that does not unwind -/

/-- **A request that does not unwind is given its one answer.** An error says that something was not
found, and what the conditions are held against are the stored facts. -/
theorem check_answers (reachable : (Authority.ofStore Tables.store settings).Reachable world)
    (calm : ¬ Unwinds world.1 request) :
    (∀ ending, Answers world.1 request ending ↔
      (check Tables.store (Authority.ofStore Tables.store settings).logger request world).1 =
        ending) ∧
      (∀ cause,
        (check Tables.store (Authority.ofStore Tables.store settings).logger request world).1 =
          .error cause → cause.kind = .notFound) ∧
      ∀ resource grant,
        Show world.1 request resource (request.circumstances world.1 resource grant) := by
  have sound := reachable.keeping.1.sound
  have answers := answers_of_calm reachable calm
  refine ⟨fun ending => ⟨fun also => answers.unique sound also, fun same => ?_⟩, ?_, ?_⟩
  · rw [← same]
    exact answers
  · intro cause failed
    rw [failed] at answers
    exact answers.kind
  · exact circumstances_show sound request

/-- Of two roles only the second one has a grant that holds, and it is the one that decides. -/
theorem check_answers_office :
    ¬ Unwinds (office "nonsense") visit ∧
      Answers (office "nonsense") visit (.value (.granted 7 3)) := by
  have reachable := office_reachable "nonsense"
  have calm : ¬ Unwinds (office "nonsense") visit := not_unwinds reachable (by decide +kernel)
  exact ⟨calm, ((check_answers reachable calm).1 _).mpr (by decide +kernel)⟩

end AccessControl.Check

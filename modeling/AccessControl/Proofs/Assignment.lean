/-
**The roles of a user stand in the order in which they were given.**

* `Moment.Assigns`, `Moment.Withdraws` — a role was given to a user at a moment of a run, or taken
  from it by name or by being deleted; `Moment.Leaves` — what the moment leaves of the list of roles
  that were given to a user.
* `Assignment.Stands`, `Assignment.Given` — a role was given at a place of the run and neither given
  again nor taken since; the list of these, in the order of their places.
* `Assignment.Given.next` — what one more moment leaves is the list of those that stand after it.
* `Authority.leaves_perform`, `Authority.given_run` — the links of a user in the tables are that
  list, after one operation and after a run.
* `Tables.Shows` — the roles of a list that are in force.
* `Authority.roles_in_order` — **a user is shown the roles in force that stand, in the order in
  which they were last given**; nothing but giving, taking and deleting changes that list.
-/

import AccessControl.Proofs.Listing.Complete
import AccessControl.Proofs.Tables.Hierarchy

namespace AccessControl

open Check (World)
open Tables (Step Sound)

/-! ### Giving and taking -/

namespace Moment

/-- A role was given to a user. -/
structure Assigns (moment : Moment) (user role : Id) : Prop where
  asked : moment.operation = .assignRole user role
  answered : ∃ answer, moment.ending = .value answer

/-- A role was taken from a user, or deleted. -/
structure Withdraws (moment : Moment) (user role : Id) : Prop where
  asked : moment.operation = .unassignRole user role ∨ moment.operation = .deleteRole role
  answered : ∃ answer, moment.ending = .value answer

variable {moment : Moment} {user role other : Id}

theorem Assigns.alone (one : moment.Assigns user role) (two : moment.Assigns user other) :
    other = role :=
  (Operation.assignRole.inj (two.asked.symm.trans one.asked)).2

/-- One role is taken at a time. -/
theorem Withdraws.alone (one : moment.Withdraws user role) (two : moment.Withdraws user other) :
    other = role := by
  rcases one.asked with named | deleted
  · rcases two.asked with also | also
    · exact (Operation.unassignRole.inj (also.symm.trans named)).2
    · cases also.symm.trans named
  · rcases two.asked with also | also
    · cases also.symm.trans deleted
    · exact Operation.deleteRole.inj (also.symm.trans deleted)

theorem Assigns.not_withdraws (assigns : moment.Assigns user role) :
    ¬ moment.Withdraws user other := by
  intro withdraws
  rcases withdraws.asked with named | deleted
  · cases named.symm.trans assigns.asked
  · cases deleted.symm.trans assigns.asked

/-- What a moment leaves of the roles that were given to a user: one more at the end, all but the
one that was taken, or all of them. -/
inductive Leaves (moment : Moment) (user : Id) (given : List Id) : List Id → Prop where
  | assigned {role : Id} (assigns : moment.Assigns user role) (new : role ∉ given) :
      Leaves moment user given (given ++ [role])
  | withdrawn {role : Id} (withdraws : moment.Withdraws user role) :
      Leaves moment user given (given.filter (· ≠ role))
  | still (silent : ∀ role, ¬ moment.Assigns user role ∧ ¬ moment.Withdraws user role) :
      Leaves moment user given given

end Moment

namespace Assignment

/-- A role was given to a user at a place of the past, and neither given to it again nor taken from
it since. -/
structure Stands (past : List Moment) (user role : Id) (place : Nat) : Prop where
  assigned : ∃ moment, past[place]? = some moment ∧ moment.Assigns user role
  since : ∀ later moment, place < later → past[later]? = some moment →
    ¬ moment.Assigns user role ∧ ¬ moment.Withdraws user role

/-- The roles that stand, each once, in the order in which they were last given. -/
structure Given (past : List Moment) (user : Id) (given : List Id) : Prop where
  exact : ∀ role, role ∈ given ↔ ∃ place, Stands past user role place
  distinct : given.Nodup
  ordered : given.Pairwise fun first second =>
    ∀ one two, Stands past user first one → Stands past user second two → one < two

variable {past : List Moment} {moment : Moment} {user role : Id} {place : Nat}
  {given left : List Id}

theorem Stands.place_lt (stands : Stands past user role place) : place < past.length := by
  obtain ⟨moment, here, -⟩ := stands.assigned
  exact (List.getElem?_eq_some_iff.mp here).1

theorem getElem?_append_singleton {other : Moment} :
    (past ++ [moment])[place]? = some other ↔
      past[place]? = some other ∨ place = past.length ∧ other = moment := by
  grind

/-- **What stands after one more moment** was just given, or it stood and is neither given again nor
taken. -/
theorem stands_append_singleton :
    Stands (past ++ [moment]) user role place ↔
      (place = past.length ∧ moment.Assigns user role) ∨
        (Stands past user role place ∧ ¬ moment.Assigns user role ∧
          ¬ moment.Withdraws user role) := by
  have last : (past ++ [moment])[past.length]? = some moment := List.getElem?_concat_length
  constructor
  · rintro ⟨⟨giving, here, assigns⟩, since⟩
    rcases getElem?_append_singleton.mp here with earlier | ⟨rfl, rfl⟩
    · have before := (List.getElem?_eq_some_iff.mp earlier).1
      refine .inr ⟨⟨⟨giving, earlier, assigns⟩, fun later other after there => ?_⟩,
        since past.length moment before last⟩
      exact since later other after (getElem?_append_singleton.mpr (.inl there))
    · exact .inl ⟨rfl, assigns⟩
  · rintro (⟨rfl, assigns⟩ | ⟨stands, quiet⟩)
    · refine ⟨⟨moment, last, assigns⟩, fun later other after there => ?_⟩
      rcases getElem?_append_singleton.mp there with earlier | ⟨rfl, -⟩
      · exact absurd (List.getElem?_eq_some_iff.mp earlier).1 (Nat.lt_asymm after)
      · exact absurd after (Nat.lt_irrefl _)
    · obtain ⟨giving, here, assigns⟩ := stands.assigned
      refine ⟨⟨giving, getElem?_append_singleton.mpr (.inl here), assigns⟩, ?_⟩
      intro later other after there
      rcases getElem?_append_singleton.mp there with earlier | ⟨-, rfl⟩
      · exact stands.since later other after earlier
      · exact quiet

namespace Given

theorem nil (user : Id) : Given [] user [] where
  exact _ := iff_of_false List.not_mem_nil fun ⟨_, stands⟩ => nomatch stands.place_lt
  distinct := .nil
  ordered := .nil

/-- Roles that stay given to a user stay in their order. -/
theorem ordered_next (lists : Given past user given) {kept : List Id} (fewer : kept.Sublist given)
    (unassigned : ∀ role ∈ kept, ¬ moment.Assigns user role) :
    kept.Pairwise fun first second => ∀ one two, Stands (past ++ [moment]) user first one →
      Stands (past ++ [moment]) user second two → one < two := by
  refine (lists.ordered.sublist fewer).imp_of_mem fun one two less place other here there => ?_
  have earlier := (stands_append_singleton.mp here).resolve_left fun new => unassigned _ one new.2
  have later := (stands_append_singleton.mp there).resolve_left fun new => unassigned _ two new.2
  exact less place other earlier.1 later.1

/-- **What one more moment leaves are the roles that stand after it**, in their order. A role that
was just given stands at the last place, and every other one where it stood. -/
theorem next (lists : Given past user given) (leaves : moment.Leaves user given left) :
    Given (past ++ [moment]) user left := by
  cases leaves with
  | @assigned role assigns new =>
    have quiet (other : Id) (apart : other ≠ role) :
        ¬ moment.Assigns user other ∧ ¬ moment.Withdraws user other :=
      ⟨fun also => apart (assigns.alone also), assigns.not_withdraws⟩
    have known (other : Id) (member : other ∈ given) : other ≠ role := by
      rintro rfl
      exact new member
    refine ⟨fun other => ?_, ?_, List.pairwise_append.mpr ⟨?_, List.pairwise_singleton _ _, ?_⟩⟩
    · rw [List.mem_append, List.mem_singleton, lists.exact]
      simp only [stands_append_singleton]
      by_cases same : other = role
      · subst same
        exact iff_of_true (.inr rfl) ⟨past.length, .inl ⟨rfl, assigns⟩⟩
      · obtain ⟨unassigned, standing⟩ := quiet other same
        simp [same, unassigned, standing]
    · exact Tables.nodup_append_singleton lists.distinct new
    · exact lists.ordered_next (.refl _) fun other member => (quiet other (known other member)).1
    · intro first member second last one two here there
      rw [List.mem_singleton.mp last] at there
      have earlier := (stands_append_singleton.mp here).resolve_left fun fresh =>
        (quiet first (known first member)).1 fresh.2
      have fresh := (stands_append_singleton.mp there).resolve_right fun stood => stood.2.1 assigns
      rw [fresh.1]
      exact earlier.1.place_lt
  | @withdrawn role withdraws =>
    have unassigned (other : Id) : ¬ moment.Assigns user other :=
      fun assigns => assigns.not_withdraws withdraws
    refine ⟨fun other => ?_, lists.distinct.filter _, ?_⟩
    · rw [List.mem_filter, lists.exact, decide_eq_true_iff]
      simp only [stands_append_singleton, unassigned, and_false, false_or, not_false_eq_true,
        true_and]
      have taken : moment.Withdraws user other ↔ other = role :=
        ⟨withdraws.alone, fun same => same ▸ withdraws⟩
      simp [taken]
    · exact lists.ordered_next List.filter_sublist fun other _ => unassigned other
  | still silent =>
    refine ⟨fun other => ?_, lists.distinct,
      lists.ordered_next (.refl _) fun other _ => (silent other).1⟩
    rw [lists.exact]
    simp [stands_append_singleton, silent other]

end Given

end Assignment

/-! ### The links of a user -/

/-- Whether a call makes or removes links. -/
def Store.Call.relinks : Store.Call → Bool
  | .assignRole .. | .unassignRole .. | .deleteRole _ => true
  | _ => false

theorem Store.Call.relinks_of_looks {call : Store.Call} (looks : call.looks = true) :
    call.relinks = false := by
  cases call <;> first | rfl | cases looks

namespace Tables

/-- The roles that a user is linked to, in the order of the links. -/
def given (tables : Tables) (user : Id) : List Id :=
  (tables.links.filter fun link => link.user = user).map Link.role

variable {tables before after : Tables} {call : Store.Call} {user role : Id}

theorem rolesOf_eq_given (tables : Tables) (user : Id) :
    tables.rolesOf user = (tables.given user).filterMap tables.role? := by
  unfold rolesOf given
  rw [List.filterMap_map]
  rfl

theorem mem_given : role ∈ tables.given user ↔ ⟨user, role⟩ ∈ tables.links := by
  unfold given
  rw [List.mem_map]
  constructor
  · rintro ⟨⟨owner, other⟩, member, rfl⟩
    obtain ⟨linked, own⟩ := List.mem_filter.mp member
    obtain rfl : owner = user := of_decide_eq_true own
    exact linked
  · intro linked
    exact ⟨⟨user, role⟩, List.mem_filter.mpr ⟨linked, decide_eq_true rfl⟩, rfl⟩

theorem Sound.given_known (sound : Sound tables) :
    ∀ role ∈ tables.given user, role ∈ tables.roles.map Role.id :=
  fun _ member => sound.linkRoles _ (mem_given.mp member)

/-- A new link gives one role to one user. -/
theorem given_added {link : Link} (links : after.links = before.links ++ [link]) :
    after.given user =
      if link.user = user then before.given user ++ [link.role] else before.given user := by
  unfold given
  rw [links]
  by_cases own : link.user = user
  · simp [own]
  · simp [own]

/-- Removing links takes one role from a user, where only the links to this one are removed. -/
theorem given_removed {stays : Link → Bool} (links : after.links = before.links.filter stays)
    (one : ∀ link : Link, link.user = user → stays link = decide (link.role ≠ role)) :
    after.given user = (before.given user).filter (· ≠ role) := by
  unfold given
  rw [links, List.filter_map, List.filter_filter, List.filter_filter]
  refine congrArg _ (List.filter_congr fun link _ => ?_)
  by_cases own : link.user = user
  · simp [own, one link own]
  · simp [own]

theorem given_left {stays : Link → Bool} (links : after.links = before.links.filter stays)
    (all : ∀ link : Link, link.user = user → stays link = true) :
    after.given user = before.given user := by
  unfold given
  rw [links, filter_removed fun link _ own => all link (of_decide_eq_true own)]

/-- Only assigning, unassigning and deleting roles changes links. -/
theorem Step.links_eq (step : Step before call after) (still : call.relinks = false) :
    after.links = before.links := by
  cases step with
  | assignRole _ _ _ => cases still
  | unassignRole _ => cases still
  | deleteRole _ _ => cases still
  | _ => rfl

/-- **A step gives a role to a user at the end, takes one from it, or leaves those that it has.**
All but three calls keep the links as they are. -/
theorem Step.given_next (step : Step before call after) (user : Id) :
    (∃ role, call = .assignRole user role ∧ role ∉ before.given user ∧
      after.given user = before.given user ++ [role]) ∨
    (∃ role, (call = .unassignRole user role ∨ call = .deleteRole role) ∧
      after.given user = (before.given user).filter (· ≠ role)) ∨
    ((∀ role, call ≠ .assignRole user role ∧ call ≠ .unassignRole user role ∧
      call ≠ .deleteRole role) ∧ after.given user = before.given user) := by
  cases relinks : call.relinks with
  | false =>
    refine .inr (.inr ⟨fun role => ⟨?_, ?_, ?_⟩, ?_⟩)
    · rintro rfl
      cases relinks
    · rintro rfl
      cases relinks
    · rintro rfl
      cases relinks
    · unfold given
      rw [step.links_eq relinks]
  | true =>
    cases step with
    | look looks => cases (Store.Call.relinks_of_looks looks).symm.trans relinks
    | @assignRole other role _ _ fresh =>
      have added := @given_added before { before with links := before.links ++ [⟨other, role⟩] }
        user ⟨other, role⟩ rfl
      by_cases own : other = user
      · subst own
        rw [if_pos rfl] at added
        exact .inl ⟨role, rfl, fun member => fresh (mem_given.mp member), added⟩
      · rw [if_neg own] at added
        refine .inr (.inr ⟨fun id => ⟨fun same => ?_, nofun, nofun⟩, added⟩)
        exact own (Store.Call.assignRole.inj same).1
    | @unassignRole other role _ =>
      by_cases own : other = user
      · subst own
        refine .inr (.inl ⟨role, .inl rfl, given_removed rfl fun link same => ?_⟩)
        obtain ⟨owner, id⟩ := link
        obtain rfl : owner = other := same
        simp
      · refine .inr (.inr ⟨fun id => ⟨nofun, fun same => ?_, nofun⟩, given_left rfl ?_⟩)
        · exact own (Store.Call.unassignRole.inj same).1
        · intro link same
          refine decide_eq_true fun equal => own ?_
          rw [equal] at same
          exact same
    | @deleteRole role _ _ => exact .inr (.inl ⟨role, .inr rfl, given_removed rfl fun _ _ => rfl⟩)
    | _ => cases relinks

/-- The roles of a list that are in force, in its order. -/
structure Shows (tables : Tables) (given : List Id) (roles : List Role) : Prop where
  inForce : ∀ role, role ∈ roles ↔
    role ∈ tables.roles ∧ role.status = .active ∧ role.id ∈ given
  inOrder : (roles.map Role.id).Sublist given

/-- The roles in force of a user are those of its links. -/
theorem Sound.shows (sound : Sound tables) (user : Id) :
    tables.Shows (tables.given user) ((tables.rolesOf user).filter Role.isActive) where
  inForce role := by
    have active : role.isActive = true ↔ role.status = .active := decide_eq_true_iff
    rw [List.mem_filter, Check.mem_rolesOf_iff sound, active, mem_given]
    exact ⟨fun ⟨⟨stored, linked⟩, own⟩ => ⟨stored, own, linked⟩,
      fun ⟨stored, own, linked⟩ => ⟨⟨stored, linked⟩, own⟩⟩
  inOrder := by
    have ids : (tables.rolesOf user).map Role.id = tables.given user := by
      rw [rolesOf_eq_given]
      exact sound.map_id_rows sound.given_known
    rw [← ids]
    exact List.filter_sublist.map Role.id

/-- A stored role that is found as before is stored as before. -/
theorem Sound.mem_roles_iff (sound : Sound before) (still : Sound after) {role : Role}
    (same : after.role? role.id = before.role? role.id) :
    role ∈ after.roles ↔ role ∈ before.roles := by
  have found {tables : Tables} (sound : Sound tables) :
      tables.role? role.id = some role ↔ role ∈ tables.roles :=
    sound.roles.find?_iff.trans (and_iff_left rfl)
  rw [← found still, same, found sound]

end Tables

/-! ### One operation -/

namespace Authority

variable {settings : Settings} {world : World Tables} {user : Id}

variable {operation : Operation} {ending : Ending Error Answer}

/-- What is not answered gives and takes nothing. -/
theorem leaves_failed {tables : Tables} (failed : ∀ answer, ending ≠ .value answer)
    (given : List Id) : (⟨tables, operation, ending⟩ : Moment).Leaves user given given := by
  refine .still fun role => ⟨fun assigns => ?_, fun withdraws => ?_⟩
  · obtain ⟨answer, answered⟩ := assigns.answered
    exact failed answer answered
  · obtain ⟨answer, answered⟩ := withdraws.answered
    exact failed answer answered

/-- An operation that is one call gives and takes what its step does. -/
theorem leaves_call {call : Store.Call} (asks : operation.Asks call)
    (performed : (ofStore Tables.store settings).perform operation =
      onTablesOnly (Tables.store.call call)) (world : World Tables) :
    ((ofStore Tables.store settings).moment operation world).Leaves user (world.1.given user)
      (((ofStore Tables.store settings).perform operation world).2.1.given user) := by
  unfold moment
  rw [performed]
  obtain ⟨after, step, ended⟩ | ⟨cause, failed⟩ := onTablesOnly_ends call world
  · rw [ended]
    dsimp only
    obtain ⟨role, rfl, new, left⟩ | ⟨role, named | deleted, left⟩ | ⟨silent, left⟩ :=
      step.given_next user
    · rw [left]
      cases asks
      exact .assigned ⟨rfl, _, rfl⟩ new
    · rw [left]
      subst named
      cases asks
      exact .withdrawn ⟨.inl rfl, _, rfl⟩
    · rw [left]
      subst deleted
      cases asks
      exact .withdrawn ⟨.inr rfl, _, rfl⟩
    · rw [left]
      refine .still fun role => ⟨fun assigns => ?_, fun withdraws => ?_⟩
      · obtain rfl := assigns.asked
        cases asks
        exact (silent role).1 rfl
      · rcases withdraws.asked with rfl | rfl
        · cases asks
          exact (silent role).2.1 rfl
        · cases asks
          exact (silent role).2.2 rfl
  · rw [failed]
    refine leaves_failed (fun answer same => ?_) _
    cases same

/-- An operation that asks for no change of the links leaves the roles of a user. -/
theorem leaves_other (settings : Settings) (world : World Tables)
    (still : ∀ call, operation.Asks call → call.relinks = false) :
    ((ofStore Tables.store settings).moment operation world).Leaves user (world.1.given user)
      (((ofStore Tables.store settings).perform operation world).2.1.given user) := by
  have links : ((ofStore Tables.store settings).perform operation world).2.1.links =
      world.1.links := by
    rcases perform_step settings operation world with alone | ⟨-, call, asks, step⟩
    · rw [alone]
    · exact step.links_eq (still call asks)
  unfold Tables.given
  rw [links]
  refine .still fun role => ⟨fun assigns => ?_, fun withdraws => ?_⟩
  · obtain rfl : operation = .assignRole user role := assigns.asked
    cases still _ .assignRole
  · rcases withdraws.asked with named | deleted
    · obtain rfl : operation = .unassignRole user role := named
      cases still _ .unassignRole
    · obtain rfl : operation = .deleteRole role := deleted
      cases still _ .deleteRole

/-- **An operation gives, takes or leaves the roles of a user as its moment says.** -/
theorem leaves_perform (settings : Settings) (operation : Operation) (world : World Tables)
    (user : Id) :
    ((ofStore Tables.store settings).moment operation world).Leaves user (world.1.given user)
      (((ofStore Tables.store settings).perform operation world).2.1.given user) := by
  cases operation with
  | assignRole other role => exact leaves_call .assignRole rfl world
  | unassignRole other role => exact leaves_call .unassignRole rfl world
  | deleteRole role => exact leaves_call .deleteRole rfl world
  | _ => exact leaves_other settings world fun _ asks => by cases asks <;> rfl

/-- **After a run the roles that a user is linked to are those that stand.** The past grows by one
moment at a time, so that the rest of the run starts with one more. -/
theorem given_run (settings : Settings) {past : List Moment}
    (lists : Assignment.Given past user (world.1.given user)) (operations : List Operation) :
    Assignment.Given (past ++ (ofStore Tables.store settings).moments operations world) user
      (((ofStore Tables.store settings).run operations world).2.1.given user) := by
  induction operations generalizing world past with
  | nil => exact (List.append_nil past).symm ▸ lists
  | cons operation rest ih =>
    have first := lists.next (leaves_perform settings operation world user)
    have all := ih first
    rw [List.append_assoc] at all
    exact all

/-! ### What is shown -/

/-- A user that is there is shown its roles in force. -/
theorem getUserRoles_apply (settings : Settings) (present : user ∈ world.1.users.map User.id) :
    (ofStore Tables.store settings).perform (.getUserRoles user) world =
      (.value (.roles ((world.1.rolesOf user).filter Role.isActive)), world) := by
  obtain ⟨row, here⟩ := Option.isSome_iff_exists.mp (Tables.isSome_find?_id.mpr present)
  have performed : (ofStore Tables.store settings).perform (.getUserRoles user) =
      onTables .roles (Administration.userRoles Tables.store user) := rfl
  rw [performed, onTables_apply, Administration.userRoles_eq here]
  rfl

/-- No operation removes a user. -/
theorem users_stay (settings : Settings) (operation : Operation)
    (present : user ∈ world.1.users.map User.id) :
    user ∈ ((ofStore Tables.store settings).perform operation world).2.1.users.map User.id := by
  rcases perform_step settings operation world with alone | ⟨-, _, -, step⟩
  · rw [alone]
    exact present
  · exact step.users_stay present

/-- **A role that is there before and after an operation is found as before**, unless the operation
sets its status. -/
theorem role?_perform (settings : Settings) (operation : Operation) (world : World Tables) {id : Id}
    (unset : ∀ status, operation ≠ .setRoleStatus id status)
    (present : id ∈ world.1.roles.map Role.id)
    (still : id ∈ ((ofStore Tables.store settings).perform operation world).2.1.roles.map Role.id) :
    ((ofStore Tables.store settings).perform operation world).2.1.role? id = world.1.role? id := by
  rcases perform_step settings operation world with alone | ⟨-, call, asks, step⟩
  · rw [alone]
  · refine step.role?_eq (fun status same => ?_) present still
    subst same
    cases asks
    exact unset status rfl

/-- **The roles of a user in the order in which they were given.** After any operations on empty
tables a user that is there is shown the roles in force of a list: of those that were given to it
and neither taken from it by name nor deleted since they were last given, each once, in the order of
the places of the run at which this was. One more operation gives a role at the end of that list,
takes one out of it, or leaves it as it is; and a role that stays in it is shown afterwards as
before, unless its own status was set. -/
theorem roles_in_order (settings : Settings) (operations : List Operation) :
    let authority := ofStore Tables.store settings
    let start := (Tables.empty, authority.engine)
    let past := authority.moments operations start
    let last := (authority.run operations start).2
    ∀ user ∈ last.1.users.map User.id, ∃ given roles,
      Assignment.Given past user given ∧
      authority.perform (.getUserRoles user) last = (.value (.roles roles), last) ∧
      last.1.Shows given roles ∧
      ∀ operation,
        let after := (authority.perform operation last).2
        ∃ left shown,
          (authority.moment operation last).Leaves user given left ∧
          authority.perform (.getUserRoles user) after = (.value (.roles shown), after) ∧
          after.1.Shows left shown ∧
          ∀ role, role.id ∈ given → role.id ∈ left →
            (∀ status, operation ≠ .setRoleStatus role.id status) →
            (role ∈ shown ↔ role ∈ roles) := by
  intro authority start past last user present
  have reachable : authority.Reachable last := Reachable.start.run operations
  have sound : Sound last.1 := reachable.keeping.1.sound
  have begun : Assignment.Given [] user (start.1.given user) := .nil user
  have lists : Assignment.Given past user (last.1.given user) :=
    given_run settings begun operations
  have shows := sound.shows user
  refine ⟨_, _, lists, getUserRoles_apply settings present, shows, fun operation => ?_⟩
  intro after
  have still : Sound after.1 := (reachable.perform operation).keeping.1.sound
  have shown := still.shows user
  refine ⟨_, _, leaves_perform settings operation last user,
    getUserRoles_apply settings (users_stay settings operation present), shown, ?_⟩
  intro role before kept unset
  have same : after.1.role? role.id = last.1.role? role.id :=
    role?_perform settings operation last unset (sound.given_known _ before)
      (still.given_known _ kept)
  rw [shown.inForce, shows.inForce, sound.mem_roles_iff still same]
  exact and_congr_right fun _ => and_congr_right fun _ => iff_of_true kept before

/-- A user is given three roles, the second is taken and given again, and the first is put out of
force. -/
def promotions : List Operation :=
  [.createUser "ann", .createRole { name := "writer" }, .createRole { name := "reviewer" },
    .createRole { name := "publisher" }, .assignRole 1 2, .assignRole 1 3, .assignRole 1 4,
    .unassignRole 1 3, .assignRole 1 3, .setRoleStatus 2 .inactive]

theorem roles_shown {rows : List Role} (present : user ∈ world.1.users.map User.id)
    (shown : (ofStore Tables.store settings).perform (.getUserRoles user) world =
      (.value (.roles rows), world)) :
    rows = (world.1.rolesOf user).filter Role.isActive := by
  rw [getUserRoles_apply settings present] at shown
  exact (Answer.roles.inj (Ending.value.inj (congrArg Prod.fst shown))).symm

/-- The role that was given again is the last one, and the first one is back at its place as soon as
it is in force. -/
theorem roles_in_order_promotions :
    let authority := ofStore Tables.store {}
    let start := (Tables.empty, authority.engine)
    let last := (authority.run promotions start).2
    let after := (authority.perform (.setRoleStatus 2 .active) last).2
    (1 : Id) ∈ last.1.users.map User.id ∧
      ∃ given roles,
        Assignment.Given (authority.moments promotions start) 1 given ∧
        authority.perform (.getUserRoles 1) last = (.value (.roles roles), last) ∧
        roles.map Role.id = [4, 3] ∧
        ∃ left shown,
          (authority.moment (.setRoleStatus 2 .active) last).Leaves 1 given left ∧
          authority.perform (.getUserRoles 1) after = (.value (.roles shown), after) ∧
          shown.map Role.id = [2, 4, 3] := by
  have present : (1 : Id) ∈
      ((ofStore Tables.store {}).reached promotions).1.users.map User.id := by decide +kernel
  obtain ⟨given, roles, lists, performed, -, onward⟩ := roles_in_order {} promotions 1 present
  obtain ⟨left, shown, leaves, again, -⟩ := onward (.setRoleStatus 2 .active)
  refine ⟨present, given, roles, lists, performed, ?_, left, shown, leaves, again, ?_⟩
  · rw [roles_shown present performed]
    decide +kernel
  · rw [roles_shown (users_stay {} _ present) again]
    decide +kernel

end Authority

end AccessControl

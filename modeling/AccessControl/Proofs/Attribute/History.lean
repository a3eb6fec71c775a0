/-
**The attributes of an owner are what was last set.**

* `Moment.sets?`, `lastSet?` — the value that an operation of a run set under a key of an owner, and
  the last one that some operations set there.
* `Tables.Step.facts_eq` — a step that sets nothing leaves the facts of every owner that is there
  afterwards, and an owner that was not there before has an id that was never issued.
* `Tables.Remembers` — the facts of every owner are those that were last set, and facts were set
  under issued ids only; `Authority.remembers_perform` — one operation keeps this.
* `Authority.attributes_last_set` — **after any run an owner has under each key the value last set
  there and no other keys**, and a resource starts with none.
-/

import AccessControl.Proofs.Check.Answer
import AccessControl.Proofs.Issuing

namespace AccessControl

-- No proof below looks into how the blanks at the ends of a text are cut off.
seal Text.trim

open Check (World)
open Tables (Step Sound)

/-! ### What was set -/

/-- The value that an operation of a run set under a key of an owner: the operation was answered,
and the key that it was given is this one but for the blanks at its ends. -/
def Moment.sets? (moment : Moment) (owner : Owner) (id : Id) (key : String) :
    Option AttributeValue :=
  match moment.operation, moment.ending with
  | .setAttribute other number written value, .value _ =>
    if other = owner ∧ number = id ∧ Text.trim written = key then some value else none
  | _, _ => none

def lastSet? (moments : List Moment) (owner : Owner) (id : Id) (key : String) :
    Option AttributeValue :=
  (moments.filterMap fun moment => moment.sets? owner id key).getLast?

variable {past : List Moment} {moment : Moment} {owner : Owner} {id : Id} {key : String}

/-- What one more operation set counts before what was set earlier. -/
theorem lastSet?_append_singleton :
    lastSet? (past ++ [moment]) owner id key =
      (moment.sets? owner id key).or (lastSet? past owner id key) := by
  unfold lastSet?
  rw [List.filterMap_append]
  cases sets : moment.sets? owner id key with
  | none => simp [sets]
  | some value => simp [sets]

theorem lastSet?_eq_none (unset : ∀ moment ∈ past, moment.sets? owner id key = none) :
    lastSet? past owner id key = none := by
  unfold lastSet?
  rw [List.filterMap_eq_nil_iff.mpr unset]
  rfl

/-- Only setting an attribute sets one. -/
theorem Moment.sets?_other
    (silent : ∀ other number written value,
      moment.operation ≠ .setAttribute other number written value) :
    moment.sets? owner id key = none := by
  unfold sets?
  split
  · exact absurd ‹_› (silent _ _ _ _)
  · rfl

/-! ### What a step does to stored facts -/

namespace Tables

variable {before after tables : Tables} {call : Store.Call}

theorem Sound.owner_issued (sound : Sound tables) (owned : tables.hasOwner owner id = true) :
    id ≤ tables.lastId := by
  cases owner with
  | user => exact sound.users.issued.atMost id (isSome_find?_id.mp owned)
  | resource => exact sound.resources.issued.atMost id (isSome_find?_id.mp owned)

theorem Sound.facts_absent (sound : Sound tables) (absent : ¬ tables.hasOwner owner id = true) :
    tables.facts owner id = .empty := by
  refine Dictionary.ext_find? fun key => ?_
  cases found : (tables.facts owner id).find? key with
  | none => rfl
  | some fact => exact absurd (sound.facts owner id key fact found).1 absent

theorem Sound.facts_unissued (sound : Sound tables) (fresh : tables.lastId < id) :
    tables.facts owner id = .empty :=
  sound.facts_absent fun owned => Int.not_le.mpr fresh (sound.owner_issued owned)

/-- An owner that is there after a step was there before, or its id was not yet issued. -/
theorem Step.owner_before (step : Step before call after)
    (owned : after.hasOwner owner id = true) :
    before.hasOwner owner id = true ∨ before.lastId < id := by
  have new {kind : Numbered} (fresh : call.numbers? = some kind ∧ id = before.lastId + 1) :
      before.lastId < id := fresh.2 ▸ Int.lt_succ _
  cases owner with
  | user =>
    have there : id ∈ after.idsOf .user := isSome_find?_id.mp owned
    exact (step.mem_idsOf there).imp isSome_find?_id.mpr new
  | resource =>
    have there : id ∈ after.idsOf .resource := isSome_find?_id.mp owned
    exact (step.mem_idsOf there).imp isSome_find?_id.mpr new

/-- **A step that sets nothing leaves the facts of what is there afterwards.** -/
theorem Step.facts_eq (step : Step before call after)
    (silent : ∀ other number key value, call ≠ .setAttribute other number key value)
    (owned : after.hasOwner owner id = true) : after.facts owner id = before.facts owner id := by
  cases step with
  | @deleteResource gone _ _ _ =>
    by_cases here : owner = .resource ∧ id = gone
    · obtain ⟨rfl, rfl⟩ := here
      obtain ⟨row, stored, own⟩ := List.mem_map.mp (isSome_find?_id.mp owned)
      exact absurd own (of_decide_eq_true (List.mem_filter.mp stored).2)
    · exact if_neg here
  | setAttribute _ => exact absurd rfl (silent _ _ _ _)
  | _ => rfl

/-- **A value that is set is found under its key of its owner**, and all else as before. -/
theorem Step.find?_set {other : Owner} {number : Id} {name : String} {value : AttributeValue}
    (step : Step before (.setAttribute other number name value) after) :
    ((after.facts owner id).find? key).map Attribute.value =
      if other = owner ∧ number = id ∧ name = key then some value
      else ((before.facts owner id).find? key).map Attribute.value := by
  cases step with
  | look looks => cases looks
  | setAttribute _ =>
    dsimp only
    by_cases here : owner = other ∧ id = number
    · obtain ⟨rfl, rfl⟩ := here
      simp only [true_and, and_self, if_true, Dictionary.find?_insert]
      by_cases same : key = name
      · rw [if_pos same, if_pos same.symm]
        rfl
      · rw [if_neg same, if_neg (Ne.symm same)]
    · rw [if_neg here, if_neg fun same => here ⟨same.1.symm, same.2.1.symm⟩]

theorem Step.lastId_le (step : Step before call after) : before.lastId ≤ after.lastId :=
  step.lastId_eq ▸ Int.le_add_of_nonneg_right (Int.natCast_nonneg _)

/-! ### What is remembered -/

/-- The facts of every owner are those that were last set, and none was set under an id that was
not yet issued. -/
structure Remembers (tables : Tables) (past : List Moment) : Prop where
  issued : ∀ moment ∈ past, ∀ owner id key value,
    moment.sets? owner id key = some value → id ≤ tables.lastId
  shown : ∀ owner id, tables.hasOwner owner id = true → ∀ key,
    ((tables.facts owner id).find? key).map Attribute.value = lastSet? past owner id key

namespace Remembers

/-- Nothing was set under an id that is not yet issued. -/
theorem unset (remembers : tables.Remembers past) (fresh : tables.lastId < id) :
    lastSet? past owner id key = none := by
  refine lastSet?_eq_none fun moment member => ?_
  cases sets : moment.sets? owner id key with
  | none => rfl
  | some value =>
    exact absurd (remembers.issued moment member owner id key value sets) (Int.not_le.mpr fresh)

/-- An operation that sets nothing and leaves the tables is remembered. -/
theorem still (remembers : tables.Remembers past)
    (silent : ∀ owner id key, moment.sets? owner id key = none) :
    tables.Remembers (past ++ [moment]) where
  issued other member owner id key value sets := by
    rcases List.mem_append.mp member with earlier | last
    · exact remembers.issued other earlier owner id key value sets
    · rw [List.mem_singleton.mp last, silent] at sets
      cases sets
  shown owner id owned key := by
    rw [lastSet?_append_singleton, silent, Option.none_or]
    exact remembers.shown owner id owned key

/-- A step that sets nothing is remembered: what comes to be there has no facts. -/
theorem silent_step (remembers : before.Remembers past) (sound : Sound before)
    (step : Step before call after)
    (silent : ∀ other number key value, call ≠ .setAttribute other number key value) :
    after.Remembers past where
  issued moment member owner id key value sets :=
    Int.le_trans (remembers.issued moment member owner id key value sets) step.lastId_le
  shown owner id owned key := by
    rw [step.facts_eq silent owned]
    by_cases known : before.hasOwner owner id = true
    · exact remembers.shown owner id known key
    · have fresh := (step.owner_before owned).resolve_left known
      rw [sound.facts_absent known, remembers.unset fresh]
      rfl

/-- **A value that is set is remembered**, over what was set under the same key of the same owner
and beside all else. -/
theorem set_step (remembers : before.Remembers past) (sound : Sound before) {number : Id}
    {written : String} {value : AttributeValue} {other : Owner}
    (step : Step before (.setAttribute other number (Text.trim written) value) after)
    (asked : moment.operation = .setAttribute other number written value)
    {answer : Answer} (answered : moment.ending = .value answer) :
    after.Remembers (past ++ [moment]) := by
  have sets (owner : Owner) (id : Id) (key : String) : moment.sets? owner id key =
      if other = owner ∧ number = id ∧ Text.trim written = key then some value else none := by
    unfold Moment.sets?
    rw [asked, answered]
  have present : before.hasOwner other number = true ∧
      ∀ owner id, after.hasOwner owner id = before.hasOwner owner id := by
    cases step with
    | look looks => cases looks
    | setAttribute present => exact ⟨present, fun owner _ => by cases owner <;> rfl⟩
  refine ⟨fun earlier member owner id key found was => ?_, fun owner id owned key => ?_⟩
  · refine Int.le_trans ?_ step.lastId_le
    rcases List.mem_append.mp member with before | last
    · exact remembers.issued earlier before owner id key found was
    · rw [List.mem_singleton.mp last, sets] at was
      split at was
      · rename_i same
        exact same.2.1 ▸ sound.owner_issued present.1
      · cases was
  · rw [lastSet?_append_singleton, sets, step.find?_set,
      ← remembers.shown owner id (present.2 owner id ▸ owned)]
    split <;> rfl

end Remembers

/-- Setting an attribute fails and changes nothing, or sets it under the key without blank ends. -/
theorem setAttribute_sets (owner : Owner) (id : Id) (key : String) (value : AttributeValue)
    (tables : Tables) :
    (Administration.setAttribute store owner id key value).Leads tables fun _ after =>
      Step tables (.setAttribute owner id (Text.trim key) value) after := by
  unfold Administration.setAttribute
  generalize Text.trim key = proper
  exact Effect.leads_ensure_bind fun _ => setAttribute_leads owner id proper value

end Tables

/-! ### Runs -/

/-- The resource that is shown to have been created is the answer. -/
theorem Operation.answer_of_created {new : NewResource} {ending : Ending Error Answer}
    {kind : Numbered} (created : (createResource new).created? ending = some (kind, id)) :
    ∃ row, ending = .value (.resource row) ∧ row.id = id := by
  cases ending with
  | value answer =>
    cases answer with
    | resource row => exact ⟨row, rfl, congrArg Prod.snd (Option.some.inj created)⟩
    | _ => cases created
  | _ => cases created

namespace Authority

variable {settings : Settings} {world : World Tables}

/-- **What an operation sets is remembered**, and nothing is forgotten of what is there. -/
theorem remembers_perform (settings : Settings) (sound : Sound world.1)
    (remembers : world.1.Remembers past) (operation : Operation) :
    ((ofStore Tables.store settings).perform operation world).2.1.Remembers
      (past ++ [(ofStore Tables.store settings).moment operation world]) := by
  by_cases sets : ∃ owner id key value, operation = .setAttribute owner id key value
  · obtain ⟨owner, id, key, value, rfl⟩ := sets
    have performed : (ofStore Tables.store settings).perform (.setAttribute owner id key value) =
        onTables .fact (Administration.setAttribute Tables.store owner id key value) := rfl
    unfold moment
    rw [performed]
    obtain ⟨fact, after, step, ended⟩ | ⟨cause, ended⟩ :=
      onTables_ends .fact (Tables.setAttribute_sets owner id key value) world
    · rw [ended]
      exact remembers.set_step sound step rfl rfl
    · rw [ended]
      exact remembers.still fun _ _ _ => rfl
  · refine Tables.Remembers.still ?_ fun _ _ _ => Moment.sets?_other
      fun owner id key value same => sets ⟨owner, id, key, value, same⟩
    rcases perform_step settings operation world with alone | ⟨-, call, asks, step⟩
    · exact alone.symm ▸ remembers
    · refine remembers.silent_step sound step fun owner id key value same => ?_
      subst same
      cases asks
      exact sets ⟨_, _, _, _, rfl⟩

/-- **What the operations of a run set is remembered.** -/
theorem remembers_run (reachable : (ofStore Tables.store settings).Reachable world)
    (remembers : world.1.Remembers past) (operations : List Operation) :
    ((ofStore Tables.store settings).run operations world).2.1.Remembers
      (past ++ (ofStore Tables.store settings).moments operations world) := by
  induction operations generalizing world past with
  | nil => exact (List.append_nil past).symm ▸ remembers
  | cons operation rest ih =>
    have first := remembers_perform settings reachable.keeping.1.sound remembers operation
    have all := ih (reachable.perform operation) first
    rw [List.append_assoc] at all
    exact all

theorem getAttributes_apply (settings : Settings) (owner : Owner) (id : Id)
    (world : World Tables) :
    (ofStore Tables.store settings).perform (.getAttributes owner id) world =
      (.value (.attributes (attributeMap (world.1.attributesOf owner id))), world) := rfl

/-- A resource that is created has no attributes. -/
theorem created_bare (sound : Sound world.1) {new : NewResource} {row : Resource}
    {after : World Tables}
    (created : (ofStore Tables.store settings).perform (.createResource new) world =
      (.value (.resource row), after)) :
    after.1.facts .resource row.id = .empty := by
  have ends := onTables_ends .resource (Tables.createResource_creates new).leads world
  have made : onTables .resource (Administration.createResource Tables.store new) world =
    (.value (.resource row), after) := created
  rw [made] at ends
  obtain ⟨other, rest, ⟨own, step⟩, same⟩ | ⟨cause, same⟩ := ends
  all_goals cases same
  cases step with
  | look looks => cases looks
  | insertResource _ _ => exact sound.facts_unissued (own ▸ Int.lt_succ _)

/-- **The attributes of an owner are what was last set.** After any operations on empty tables a
user or a resource that is there has under each key the value that the last answered operation to
set that key of that owner gave, blanks at the ends of the given key apart, and no other keys. A
resource that is then created has no attributes, whatever was set or deleted before. -/
theorem attributes_last_set (settings : Settings) (operations : List Operation) :
    let authority := ofStore Tables.store settings
    let start := (Tables.empty, authority.engine)
    let last := (authority.run operations start).2
    (∀ owner id, last.1.hasOwner owner id = true →
      ∃ attributes,
        authority.perform (.getAttributes owner id) last = (.value (.attributes attributes), last) ∧
        ∀ key, attributes.find? key =
          lastSet? (authority.moments operations start) owner id key) ∧
      ∀ new row after,
        authority.perform (.createResource new) last = (.value (.resource row), after) →
        authority.perform (.getAttributes .resource row.id) after =
          (.value (.attributes .empty), after) := by
  intro authority start last
  have begun : authority.Reachable start := .start
  have sound : Sound last.1 := (begun.run operations).keeping.1.sound
  have nothing : start.1.Remembers [] :=
    { issued := fun _ member => nomatch member
      shown := fun owner _ owned => by cases owner <;> cases owned }
  have remembers : last.1.Remembers (authority.moments operations start) :=
    remembers_run begun nothing operations
  refine ⟨fun owner id owned => ⟨_, getAttributes_apply settings owner id last, fun key => ?_⟩,
    fun new row after created => ?_⟩
  · rw [Check.find?_attributesOf sound]
    exact remembers.shown owner id owned key
  · have bare := created_bare sound created
    have shown : attributeMap (after.1.attributesOf .resource row.id) = .empty := by
      unfold Tables.attributesOf
      rw [bare]
      rfl
    exact (getAttributes_apply settings .resource row.id after).trans (by rw [shown])

/-- A level of a user is set twice, once with blanks around its key; that of a resource with the
same key is set and goes with the resource, and setting that of nobody fails. -/
def levels : List Operation :=
  [.createUser "ann", .createResource { name := "page" },
    .setAttribute .user 1 " level " (.integer 5), .setAttribute .user 1 "level" (.integer 6),
    .setAttribute .resource 1 "level" (.integer 7), .setAttribute .resource 2 "level" (.integer 8),
    .deleteResource 2]

/-- The later level of the user is shown, and the next resource has none. -/
theorem attributes_last_set_levels :
    let authority := ofStore Tables.store {}
    let start := (Tables.empty, authority.engine)
    let last := (authority.run levels start).2
    last.1.hasOwner .user 1 = true ∧
      (∃ attributes,
        authority.perform (.getAttributes .user 1) last = (.value (.attributes attributes), last) ∧
        (attributes.find? "level").map AttributeValue.encode = some "6") ∧
      ∃ row after,
        authority.perform (.createResource { name := "page" }) last =
          (.value (.resource row), after) ∧ row.id = 3 ∧
        authority.perform (.getAttributes .resource row.id) after =
          (.value (.attributes .empty), after) := by
  have owned : ((ofStore Tables.store {}).reached levels).1.hasOwner .user 1 = true := by
    decide +kernel
  have later : (lastSet? ((ofStore Tables.store {}).moments levels
      (Tables.empty, (ofStore Tables.store {}).engine)) .user 1 "level").map
        AttributeValue.encode = some "6" := by decide +kernel
  have made : (Operation.createResource { name := "page" }).created?
      ((ofStore Tables.store {}).perform (.createResource { name := "page" })
        ((ofStore Tables.store {}).reached levels)).1 = some (.resource, 3) := by
    decide +kernel
  obtain ⟨shown, bare⟩ := attributes_last_set {} levels
  obtain ⟨attributes, listed, found⟩ := shown .user 1 owned
  obtain ⟨row, ended, own⟩ := Operation.answer_of_created made
  exact ⟨owned, ⟨attributes, listed, found "level" ▸ later⟩, row, _, Prod.ext ended rfl, own,
    bare _ row _ (Prod.ext ended rfl)⟩

end Authority

end AccessControl

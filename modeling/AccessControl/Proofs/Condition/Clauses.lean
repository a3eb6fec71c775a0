/-
**Which texts are conditions that hold.**

* `Json.Record.Shaped`, `Json.Record.content?` — which JSON values can be read as a record whose
  fields may all be absent, and what such a value has for a field.
* `Json.Record.read_iff` — **a record is read from exactly these values, with these contents.**
* `Condition.Clause`, `Condition.Clause.Met` — the four clauses, and when the content of one holds.
* `Condition.Warrants` — a JSON value has the shape of a condition, and every clause in it holds.
* `Condition.text_satisfied_iff` — **a text is satisfied exactly when it is the JSON of such a
  value.** Members under other names, and values that are arrays, are not refused.
-/

import AccessControl.Proofs.Condition
import AccessControl.Proofs.Condition.Stored

namespace AccessControl

open Expression (Engine compiled)

/-! ### Records whose fields may be absent -/

namespace Json.Record

/-- The values that can be read as a record whose fields may all be absent: an object with readable
keys and none of the fields twice, whatever else is in it, and an array with no more items than
fields. -/
inductive Shaped (fields : List Field) : Source → Prop where
  | object {members : List (List Piece × Source)} {named : List (String × Source)}
      (readable : namedMembers members = some named)
      (once : ∀ field ∈ fields, (named.filter fun member => member.1 == field.name).length ≤ 1) :
      Shaped fields (.object members)
  | array {items : List Source} (few : items.length ≤ fields.length) :
      Shaped fields (.array items)

/-- What a value has for the field at a place: in an object what is under its name, in an array what
is at its place. -/
def content? (source : Source) (place : Nat) (field : Field) : Option Source :=
  match source with
  | .object members => (namedMembers members).bind (Keyed.find? field.name)
  | .array items => items[place]?
  | _ => none

variable {fields : List Field} {contents : List (Option Source)}

theorem find?_eq_head? (key : String) (members : List (String × Source)) :
    Keyed.find? key members =
      ((members.filter fun member => member.1 == key).head?).map Prod.snd := by
  induction members with
  | nil => rfl
  | cons member rest ih =>
    rw [Dictionary.find?_cons, List.filter_cons]
    by_cases same : key = member.1
    · rw [if_pos same, if_pos (beq_iff_eq.mpr same.symm)]
      rfl
    · rw [if_neg same, if_neg (mt beq_iff_eq.mp (Ne.symm same)), ih]

theorem ofMembers_iff {field : Field} (optional : field.absence = .default)
    {members : List (String × Source)} {content : Option Source} :
    ofMembers members field = some content ↔
      (members.filter fun member => member.1 == field.name).length ≤ 1 ∧
        content = Keyed.find? field.name members := by
  rw [find?_eq_head?]
  unfold ofMembers
  cases members.filter fun member => member.1 == field.name with
  | nil => simp [optional, eq_comm]
  | cons first rest =>
    cases rest with
    | nil => simp [eq_comm]
    | cons second rest => simp

theorem mapM_ofMembers_iff (optional : ∀ field ∈ fields, field.absence = .default)
    {members : List (String × Source)} :
    fields.mapM (ofMembers members) = some contents ↔
      (∀ field ∈ fields, (members.filter fun member => member.1 == field.name).length ≤ 1) ∧
        contents = fields.map fun field => Keyed.find? field.name members := by
  induction fields generalizing contents with
  | nil => simp [eq_comm]
  | cons field rest ih =>
    obtain ⟨here, later⟩ := List.forall_mem_cons.mp optional
    rw [List.mapM_cons, List.forall_mem_cons, List.map_cons]
    simp only [Option.bind_eq_bind, Option.bind_eq_some_iff, ofMembers_iff here, ih later]
    constructor
    · rintro ⟨content, ⟨once, rfl⟩, more, ⟨others, rfl⟩, same⟩
      exact ⟨⟨once, others⟩, (Option.some.inj same).symm⟩
    · rintro ⟨⟨once, others⟩, rfl⟩
      exact ⟨_, ⟨once, rfl⟩, _, ⟨others, rfl⟩, rfl⟩

theorem ofItems_iff (optional : ∀ field ∈ fields, field.absence = .default) {items : List Source} :
    ofItems fields items = some contents ↔
      items.length ≤ fields.length ∧ contents = fields.mapIdx (content? (.array items)) := by
  induction fields generalizing items contents with
  | nil => cases items <;> simp [ofItems, eq_comm]
  | cons field rest ih =>
    obtain ⟨here, later⟩ := List.forall_mem_cons.mp optional
    rw [List.mapIdx_cons]
    cases items with
    | nil =>
      rw [ofItems, if_pos here, Option.map_eq_some_iff]
      simp only [ih later]
      constructor
      · rintro ⟨_, ⟨_, rfl⟩, rfl⟩
        exact ⟨Nat.zero_le _, rfl⟩
      · rintro ⟨-, rfl⟩
        exact ⟨_, ⟨Nat.zero_le _, rfl⟩, rfl⟩
    | cons item items =>
      rw [ofItems, Option.map_eq_some_iff]
      simp only [ih later]
      constructor
      · rintro ⟨_, ⟨few, rfl⟩, rfl⟩
        exact ⟨Nat.succ_le_succ few, rfl⟩
      · rintro ⟨few, rfl⟩
        exact ⟨_, ⟨Nat.le_of_succ_le_succ few, rfl⟩, rfl⟩

/-- **A record whose fields may be absent is read from exactly the values of its shape.** -/
theorem read_iff (optional : ∀ field ∈ fields, field.absence = .default) {source : Source} :
    read fields source = some contents ↔
      Shaped fields source ∧ contents = fields.mapIdx (content? source) := by
  cases source with
  | object members =>
    show (namedMembers members).bind (fun named => fields.mapM (ofMembers named)) = _ ↔ _
    rw [Option.bind_eq_some_iff]
    simp only [mapM_ofMembers_iff optional]
    have found {named : List (String × Source)} (readable : namedMembers members = some named) :
        fields.mapIdx (content? (.object members)) =
          fields.map fun field => Keyed.find? field.name named := by
      unfold content?
      simp only [readable, Option.bind_some]
      exact List.ext_getElem (by simp) (by simp)
    constructor
    · rintro ⟨named, readable, once, rfl⟩
      exact ⟨.object readable once, (found readable).symm⟩
    · rintro ⟨shaped, rfl⟩
      cases shaped with
      | object readable once => exact ⟨_, readable, once, found readable⟩
  | array items =>
    rw [read, ofItems_iff optional]
    refine and_congr_left fun _ => ⟨.array, fun shaped => ?_⟩
    cases shaped with
    | array few => exact few
  | _ =>
    refine ⟨fun unread => ?_, fun both => ?_⟩
    · cases unread
    · cases both.1

end Json.Record

namespace Condition

variable {circumstances : Circumstances} {source : Json.Source}

/-! ### Clauses -/

/-- The clauses of a condition, in their order. -/
inductive Clause where
  | resource
  | user
  | environment
  | expression
  deriving Repr, DecidableEq

def Clause.content? (source : Json.Source) (clause : Clause) : Option Json.Source :=
  match clause with
  | .resource => Json.Record.content? source 0 ⟨"resource", .default⟩
  | .user => Json.Record.content? source 1 ⟨"user", .default⟩
  | .environment => Json.Record.content? source 2 ⟨"environment", .default⟩
  | .expression => Json.Record.content? source 3 ⟨"expression", .default⟩

/-- A content is a map of required values, and these are there. -/
def Demanded (content : Json.Source) (actual : AttributeMap) : Prop :=
  ∃ required, AttributeMap.ofSource? content = some required ∧ required.Agrees actual

/-- A content is no expression, a blank one, or one that answers yes. -/
def Affirmed (content : Json.Source) (facts : Expression.Facts) : Prop :=
  content = .null ∨ ∃ text, content.text? = some text ∧
    ((Text.trim text).isEmpty = true ∨
      ∃ program, compiled (Text.trim text) = .value program ∧ program.answer facts = .ok true)

def Clause.Met (circumstances : Circumstances) (content : Json.Source) : Clause → Prop
  | .resource => Demanded content circumstances.resource
  | .user => Demanded content circumstances.user
  | .environment => Demanded content circumstances.environment
  | .expression => Affirmed content circumstances.facts

/-- A value has the shape of a condition, and every clause that it has holds. -/
structure Warrants (source : Json.Source) (circumstances : Circumstances) : Prop where
  shaped : Json.Record.Shaped fields source
  met : ∀ clause content, Clause.content? source clause = some content →
    clause.Met circumstances content

/-- A clause of required values reads as values that are there exactly when its content, if it has
one, is such. -/
theorem demanded_iff {content : Option Json.Source} {actual : AttributeMap} :
    (∃ required, Json.Record.withDefault AttributeMap.ofSource? .empty content = some required ∧
      required.Agrees actual) ↔ ∀ given, content = some given → Demanded given actual := by
  cases content with
  | none => exact ⟨fun _ => nofun, fun _ => ⟨.empty, rfl, nofun⟩⟩
  | some given => exact ⟨fun read _ same => Option.some.inj same ▸ read, fun all => all given rfl⟩

/-- An expression that is not blank must answer yes. -/
theorem affirmed_text_iff {text : String} {facts : Expression.Facts} :
    (∀ source, ({ expression := some text } : Condition).source? = some source →
      ∃ program, compiled source = .value program ∧ program.answer facts = .ok true) ↔
      (Text.trim text).isEmpty = true ∨
        ∃ program, compiled (Text.trim text) = .value program ∧
          program.answer facts = .ok true := by
  by_cases blank : (Text.trim text).isEmpty = true
  · simp [source?, blank]
  · simp [source?, blank]

/-- A clause of an expression reads as one that holds exactly when its content, if it has one, does:
there is no expression in it, a blank one, or one that answers yes. -/
theorem affirmed_iff {content : Option Json.Source} {facts : Expression.Facts} :
    (∃ expression, Json.Record.optional Json.Source.text? content = some expression ∧
      ∀ source, ({ expression } : Condition).source? = some source →
        ∃ program, compiled source = .value program ∧ program.answer facts = .ok true) ↔
      ∀ given, content = some given → Affirmed given facts := by
  cases content with
  | none => exact ⟨fun _ => nofun, fun _ => ⟨none, rfl, nofun⟩⟩
  | some given =>
    simp only [Option.some.injEq, forall_eq']
    by_cases null : given = .null
    · subst null
      exact ⟨fun _ => .inl rfl, fun _ => ⟨none, rfl, nofun⟩⟩
    · have read : Json.Record.optional Json.Source.text? (some given) = given.text?.map some := by
        cases given <;> first | exact absurd rfl null | rfl
      rw [read]
      simp only [Option.map_eq_some_iff, exists_exists_and_eq_and, affirmed_text_iff, Affirmed,
        null, false_or]

/-- A condition is read from a value of its shape, each clause from its own content. -/
theorem ofSource?_iff {condition : Condition} :
    ofSource? source = some condition ↔
      Json.Record.Shaped fields source ∧
        Json.Record.withDefault AttributeMap.ofSource? .empty
          (Clause.content? source .resource) = some condition.resource ∧
        Json.Record.withDefault AttributeMap.ofSource? .empty
          (Clause.content? source .user) = some condition.user ∧
        Json.Record.withDefault AttributeMap.ofSource? .empty
          (Clause.content? source .environment) = some condition.environment ∧
        Json.Record.optional Json.Source.text?
          (Clause.content? source .expression) = some condition.expression := by
  have read_iff (contents : List (Option Json.Source)) :
      Json.Record.read fields source = some contents ↔
        Json.Record.Shaped fields source ∧
          contents = [Clause.content? source .resource, Clause.content? source .user,
            Clause.content? source .environment, Clause.content? source .expression] :=
    Json.Record.read_iff (by decide)
  obtain ⟨resource, user, environment, expression⟩ := condition
  unfold ofSource?
  rw [Option.bind_eq_bind, Option.bind_eq_some_iff]
  constructor
  · rintro ⟨contents, read, same⟩
    obtain ⟨shaped, rfl⟩ := (read_iff contents).mp read
    simp only [Option.bind_eq_bind, Option.bind_eq_some_iff, Option.some.injEq, mk.injEq] at same
    obtain ⟨_, ofResource, _, ofUser, _, ofEnvironment, _, ofExpression, rfl, rfl, rfl, rfl⟩ := same
    exact ⟨shaped, ofResource, ofUser, ofEnvironment, ofExpression⟩
  · rintro ⟨shaped, ofResource, ofUser, ofEnvironment, ofExpression⟩
    refine ⟨_, (read_iff _).mpr ⟨shaped, rfl⟩, ?_⟩
    simp only [ofResource, ofUser, ofEnvironment, ofExpression, Option.bind_eq_bind,
      Option.bind_some]

/-- **A value is a condition that holds exactly when it warrants it.** -/
theorem holds_iff_warrants :
    (∃ condition, ofSource? source = some condition ∧ condition.Holds circumstances) ↔
      Warrants source circumstances := by
  simp only [ofSource?_iff]
  constructor
  · rintro ⟨condition, ⟨shaped, resource, user, environment, expression⟩, agrees, answers⟩
    refine ⟨shaped, fun clause => ?_⟩
    cases clause with
    | resource => exact demanded_iff.mp ⟨_, resource, agrees.resource⟩
    | user => exact demanded_iff.mp ⟨_, user, agrees.user⟩
    | environment => exact demanded_iff.mp ⟨_, environment, agrees.environment⟩
    | expression => exact affirmed_iff.mp ⟨_, expression, answers⟩
  · rintro ⟨shaped, met⟩
    obtain ⟨resource, ofResource, onResource⟩ := demanded_iff.mpr (met .resource)
    obtain ⟨user, ofUser, onUser⟩ := demanded_iff.mpr (met .user)
    obtain ⟨environment, ofEnvironment, onEnvironment⟩ := demanded_iff.mpr (met .environment)
    obtain ⟨expression, ofExpression, answers⟩ := affirmed_iff.mpr (met .expression)
    exact ⟨⟨resource, user, environment, expression⟩,
      ⟨shaped, ofResource, ofUser, ofEnvironment, ofExpression⟩,
      ⟨onResource, onUser, onEnvironment⟩, answers⟩

/-! ### Texts -/

variable {engine : Engine}

/-- **A text is satisfied exactly when it is the JSON of a value that has the shape of a condition
and whose clauses all hold**; it never ends with an error. What else is in an object is not looked
at, so that a clause under a misspelled name is no requirement. -/
theorem text_satisfied_iff (faithful : engine.Faithful) (text : String)
    (circumstances : Circumstances) :
    let ending := (isSatisfiedText text circumstances engine).1
    (ending = .value true ↔
      ∃ source, Json.Source.ofText text = some source ∧ Warrants source circumstances) ∧
      ∀ cause, ending ≠ .error cause := by
  intro ending
  have result : Result (StoredHolds (some text) circumstances)
      (StoredBreaks (some text) circumstances) ending :=
    (holds_faithful faithful circumstances (some text)).1
  have stored : StoredHolds (some text) circumstances ↔
      ∃ source, Json.Source.ofText text = some source ∧ Warrants source circumstances := by
    simp only [StoredHolds, Option.some.injEq, forall_eq', ofText?, Option.bind_eq_some_iff,
      ← holds_iff_warrants]
    constructor
    · rintro ⟨condition, ⟨source, written, read⟩, holds⟩
      exact ⟨source, written, condition, read, holds⟩
    · rintro ⟨source, written, condition, read, holds⟩
      exact ⟨condition, ⟨source, written, read⟩, holds⟩
  rw [← stored]
  clear_value ending
  cases result with
  | broken breaks => exact ⟨⟨nofun, fun holds => absurd holds breaks.not_holds⟩, nofun⟩
  | satisfied _ holds => exact ⟨⟨fun _ => holds, fun _ => rfl⟩, nofun⟩
  | unsatisfied _ fails => exact ⟨⟨nofun, fun holds => absurd holds fails⟩, nofun⟩

/-- A clause that does not hold holds the grant back. -/
theorem text_satisfied_iff_draft :
    let draft := (Json.Document.object [("resource", .object [("status", .string "draft")])]).text
    (Engine.fresh true).Faithful ∧
      ¬ ∃ source, Json.Source.ofText draft = some source ∧
        Warrants source ⟨.empty, .empty, .empty, .ordered⟩ := by
  intro draft
  have faithful := Engine.faithful_fresh true
  refine ⟨faithful, fun warrants => ?_⟩
  have satisfied :=
    (text_satisfied_iff faithful draft ⟨.empty, .empty, .empty, .ordered⟩).1.mpr warrants
  exact absurd satisfied (by decide +kernel)

/-- A requirement under a misspelled name is dropped, and an array without items is a condition
without requirements: both texts are satisfied where nothing is known of anything. -/
theorem misspelled_clause_satisfied :
    let misspelled :=
      (Json.Document.object [("usr", .object [("department", .string "sales")])]).text
    let bare := (Json.Document.array []).text
    let nothing : Circumstances := ⟨.empty, .empty, .empty, .ordered⟩
    (∃ key content, Json.Source.ofText misspelled = some (.object [(key, content)]) ∧
        Json.pieceString key = some "usr") ∧
      (isSatisfiedText misspelled nothing (.fresh true)).1 = .value true ∧
      Json.Source.ofText bare = some (.array []) ∧
      (isSatisfiedText bare nothing (.fresh true)).1 = .value true := by
  intro misspelled bare nothing
  refine ⟨⟨Json.pieces "usr", _, Json.ofText_text _, Json.pieceString_pieces _⟩, ?_,
    Json.ofText_text _, ?_⟩
  · decide +kernel
  · decide +kernel

end Condition

end AccessControl

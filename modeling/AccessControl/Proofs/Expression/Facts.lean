/-
**Expressions see the facts unaltered.**

* `Expression.Value.document` — the document that a value shows; `document_ofDocument`: it is the
  one that the value was made from, so that no two documents are shown as one value.
* `Expression.Unaltered` — a way of showing documents to expressions that keeps them apart, numbers
  in their own form, lists in their order and objects with their keys.
* `AttributeValue.Shown`, `AttributeMap.Shown` — what an attribute is shown as, and a map of them.
* `Circumstances.namespaces` — the three names that expressions know, each with its own source.
* `Circumstances.facts_unaltered` — **documents are shown unaltered, and each of the three names
  stands for the map of its own source**, whatever the other two hold.
-/

import AccessControl.Condition
import AccessControl.Proofs.Dictionary
import AccessControl.Proofs.Json.Number
import Mathlib.Logic.Function.Basic

namespace AccessControl

open Expression (Environment Key Value)
open Json (Document Number)

/-! ### Documents -/

namespace Expression

namespace Value

mutual

/-- The document that a value shows; what shows none counts as `null`. -/
def document : Value → Document
  | .bool value => .bool value
  | .int value => .number (.integer value)
  | .uint value => if beyond : 0x8000000000000000 ≤ value.toNat then .number (.large value beyond)
    else .null
  | .double value => .number (.real value)
  | .string value => .string value
  | .list _ items => .array (documents items)
  | .map _ entries => .object (members entries)
  | _ => .null

def documents : List Value → List Document
  | [] => []
  | value :: rest => value.document :: documents rest

/-- The members that the entries of a map show; what is no string counts as the empty one. -/
def members : List (Key × Value) → List (String × Document)
  | [] => []
  | (.string key, value) :: rest => (key, value.document) :: members rest
  | (_, value) :: rest => ("", value.document) :: members rest

end

mutual

/-- **A document is the one that its value shows.** -/
theorem document_ofDocument (place : List Nat) :
    (shown : Document) → (ofDocument place shown).document = shown
  | .null => rfl
  | .bool _ => rfl
  | .number (.integer _) => rfl
  | .number (.large _ beyond) => dif_pos beyond
  | .number (.real _) => rfl
  | .string _ => rfl
  | .array items => congrArg Document.array (documents_ofDocuments place 0 items)
  | .object entries => congrArg Document.object (members_ofMembers place 0 entries)

theorem documents_ofDocuments (place : List Nat) (index : Nat) :
    (items : List Document) → documents (ofDocuments place index items) = items
  | [] => rfl
  | item :: rest => by
    rw [ofDocuments, documents, document_ofDocument _ item, documents_ofDocuments _ _ rest]

theorem members_ofMembers (place : List Nat) (index : Nat) :
    (entries : List (String × Document)) → members (ofMembers place index entries) = entries
  | [] => rfl
  | (key, shown) :: rest => by
    rw [ofMembers, members, document_ofDocument _ shown, members_ofMembers _ _ rest]

end

theorem ofDocuments_eq_mapIdx (place : List Nat) (index : Nat) (items : List Document) :
    ofDocuments place index items =
      items.mapIdx fun further => ofDocument ((index + further) :: place) := by
  induction items generalizing index with
  | nil => rfl
  | cons item rest ih =>
    rw [ofDocuments, ih, List.mapIdx_cons]
    simp only [Nat.add_zero, Nat.add_assoc, Nat.add_comm 1]

theorem keys_ofMembers (place : List Nat) (index : Nat) (entries : List (String × Document)) :
    (ofMembers place index entries).map Prod.fst = entries.map fun entry => .string entry.1 := by
  induction entries generalizing index with
  | nil => rfl
  | cons entry rest ih => rw [ofMembers, List.map_cons, ih, List.map_cons]

/-- Under a key there is what the member under it is shown as. -/
theorem find?_ofMembers (place : List Nat) (index : Nat) (key : String)
    (entries : List (String × Document)) :
    ∃ inside, Keyed.find? (.string key) (ofMembers place index entries) =
      (Keyed.find? key entries).map (ofDocument inside) := by
  induction entries generalizing index with
  | nil => exact ⟨place, rfl⟩
  | cons entry rest ih =>
    rw [ofMembers, Keyed.find?, Dictionary.find?_cons]
    by_cases same : key = entry.1
    · exact ⟨index :: place, by simp [same]⟩
    · obtain ⟨inside, found⟩ := ih (index + 1)
      exact ⟨inside, by simp [same, found]⟩

end Value

/-- How documents are shown to expressions, each at its place, when nothing of them is altered. -/
structure Unaltered (shown : List Nat → Document → Value) : Prop where
  /-- No two documents are shown as one value, wherever they are. -/
  apart : ∀ {place other document another}, shown place document = shown other another →
    document = another
  /-- An integer that fits 64 bits with a sign is shown as one. -/
  integer : ∀ n : Int, Word.leastInt64 ≤ n → n ≤ Word.greatestInt64 →
    ∃ number value, Number.ofInt? n = some number ∧ Int64.toInt value = n ∧
      ∀ place, shown place (.number number) = .int value
  /-- An integer that fits 64 bits only without a sign is shown as one without. -/
  large : ∀ n : Int, Word.greatestInt64 < n → n ≤ Word.greatestUInt64 →
    ∃ number value, Number.ofInt? n = some number ∧ (UInt64.toNat value : Int) = n ∧
      ∀ place, shown place (.number number) = .uint value
  /-- Any other number is a double and shown as it. -/
  double : ∀ number, (∀ n, Number.ofInt? n ≠ some number) →
    ∃ x, number = .real x ∧ ∀ place, shown place (.number number) = .double x
  /-- The items of an array are shown in their order. -/
  array : ∀ place items, shown place (.array items) =
    .list (.given place) (items.mapIdx fun index => shown (index :: place))
  /-- An object is shown with its keys and no others, and what is under a key under it. -/
  object : ∀ place members, ∃ entries, shown place (.object members) = .map (.given place) entries ∧
    entries.map Prod.fst = members.map (fun member => Key.string member.1) ∧
    ∀ key, ∃ inside, Keyed.find? (.string key) entries =
      (Keyed.find? key members).map (shown inside)

/-- The number of an integer that fits 64 bits only without a sign. -/
theorem ofInt?_toNat (value : UInt64) (beyond : 0x8000000000000000 ≤ value.toNat) :
    Number.ofInt? value.toNat = some (.large value beyond) := by
  have least := value.toNat_lt
  unfold Number.ofInt?
  rw [if_neg (by simp only [Word.greatestInt64]; omega),
    dif_pos ⟨by omega, by simp only [Word.greatestUInt64]; omega⟩]
  simp only [Int.toNat_natCast, UInt64.ofNat_toNat]

/-- **Documents are shown unaltered.** -/
theorem unaltered_ofDocument : Unaltered Value.ofDocument where
  apart {place other document another} same := by
    rw [← Value.document_ofDocument place document, same, Value.document_ofDocument]
  integer n above below := by
    have fits : n < 2 ^ 63 := Int.lt_add_one_iff.mpr below
    exact ⟨.integer (Int64.ofInt n), Int64.ofInt n, if_pos ⟨above, below⟩,
      Int64.toInt_ofInt_of_le above fits, fun _ => rfl⟩
  large n above below := by
    simp only [Word.greatestInt64, Word.greatestUInt64] at above below
    have size : (UInt64.ofNat n.toNat).toNat = n.toNat := by
      rw [UInt64.toNat_ofNat_of_lt' (by simp only [UInt64.size]; omega)]
    have own : ((UInt64.ofNat n.toNat).toNat : Int) = n := by omega
    have number := ofInt?_toNat (UInt64.ofNat n.toNat) (by omega)
    rw [own] at number
    exact ⟨_, _, number, own, fun _ => rfl⟩
  double number other := by
    cases number with
    | integer value => exact absurd (Json.ofInt?_toInt value) (other _)
    | large value beyond => exact absurd (ofInt?_toNat value beyond) (other _)
    | real x => exact ⟨x, rfl, fun _ => rfl⟩
  array place items := by
    show Value.list _ (Value.ofDocuments place 0 items) = _
    rw [Value.ofDocuments_eq_mapIdx]
    simp only [Nat.zero_add]
  object place members := ⟨Value.ofMembers place 0 members, rfl,
    Value.keys_ofMembers place 0 members, fun key => Value.find?_ofMembers place 0 key members⟩

end Expression

/-! ### Attributes -/

/-- What an attribute is shown as: a value of its type, or `null` where a double is no finite
number. -/
inductive AttributeValue.Shown : AttributeValue → Value → Prop where
  | boolean (value : Bool) : Shown (.boolean value) (.bool value)
  | integer (value : Int64) : Shown (.integer value) (.int value)
  | float {x : Float} (finite : x.isFinite = true) : Shown (.float x) (.double x)
  | unbounded {x : Float} (beyond : x.isFinite = false) : Shown (.float x) .null
  | string (value : String) : Shown (.string value) (.string value)

theorem AttributeValue.shown (place : List Nat) (value : AttributeValue) :
    value.Shown (.ofDocument place value.document) := by
  cases value with
  | boolean value => exact .boolean value
  | integer value => exact .integer value
  | string value => exact .string value
  | float x =>
    cases finite : x.isFinite with
    | true =>
      rw [AttributeValue.document, if_pos finite]
      exact .float finite
    | false =>
      rw [AttributeValue.document, finite]
      exact .unbounded finite

/-- A map of attributes is shown as a map with its keys and no others, and under each key its
attribute. -/
def AttributeMap.Shown (attributes : AttributeMap) (value : Value) : Prop :=
  ∃ place entries, value = .map (.given place) entries ∧
    entries.map Prod.fst = attributes.toList.map (fun entry => Key.string entry.1) ∧
    ∀ key, Option.Rel AttributeValue.Shown (attributes.find? key)
      (Keyed.find? (.string key) entries)

theorem AttributeMap.shown (place : List Nat) (attributes : AttributeMap) :
    attributes.Shown (.ofDocument place attributes.document) := by
  obtain ⟨entries, shown, keys, found⟩ := Expression.unaltered_ofDocument.object place
    (attributes.toList.map fun entry => (entry.1, entry.2.document))
  refine ⟨place, entries, shown, ?_, fun key => ?_⟩
  · rw [keys, List.map_map]
    rfl
  · obtain ⟨inside, found⟩ := found key
    rw [found, Dictionary.find?_map]
    show Option.Rel _ (attributes.find? key) (((attributes.find? key).map _).map _)
    cases attributes.find? key with
    | none => exact .none
    | some value => exact .some (value.shown inside)

namespace Circumstances

/-- The names that expressions know, each with the source that it stands for. -/
def namespaces : List (String × (Circumstances → AttributeMap)) :=
  [("user", user), ("resource", resource), ("env", environment)]

/-- A name among the three is bound to its own source, and to nothing else. -/
theorem find_bindings {space : String × (Circumstances → AttributeMap)}
    (known : space ∈ namespaces) :
    ∃ place, ∀ circumstances : Circumstances, circumstances.facts.bindings.find space.1 =
      .ok (.ofDocument place (space.2 circumstances).document) := by
  simp only [namespaces, List.mem_cons, List.not_mem_nil, or_false] at known
  rcases known with rfl | rfl | rfl
  · exact ⟨[0], fun _ => rfl⟩
  · exact ⟨[1], fun _ => rfl⟩
  · exact ⟨[2], fun _ => rfl⟩

theorem names_bindings (circumstances : Circumstances) :
    circumstances.facts.bindings.map Prod.fst = ["user", "resource", "env"] := rfl

/-- A name that is not among the three stands for nothing. -/
theorem find_unknown (circumstances : Circumstances) {name : String}
    (unknown : name ∉ namespaces.map Prod.fst) :
    circumstances.facts.bindings.find name = Expression.refuse .undeclaredReference := by
  have absent : circumstances.facts.bindings.lookup name = none := by
    refine List.lookup_eq_none_iff.mpr fun entry member => ?_
    have listed : entry.1 ∈ namespaces.map Prod.fst :=
      names_bindings circumstances ▸ List.mem_map_of_mem member
    exact bne_iff_ne.mpr fun same => unknown (same ▸ listed)
  unfold Environment.find
  rw [absent]
  rfl

/-- **Expressions see the facts unaltered.** Documents are shown so that none is taken for another.
Exactly three names are bound, each to the map of its own source with the same keys and every value
in its own type; another source, whatever it holds, makes no difference to it. -/
theorem facts_unaltered :
    Expression.Unaltered Value.ofDocument ∧
      ∀ circumstances : Circumstances,
        let bound := circumstances.facts.bindings
        bound.map Prod.fst = ["user", "resource", "env"] ∧
        (∀ name, name ∉ namespaces.map Prod.fst →
          bound.find name = Expression.refuse .undeclaredReference) ∧
        ∀ space ∈ namespaces, ∃ value, bound.find space.1 = .ok value ∧
          (space.2 circumstances).Shown value ∧
          ∀ other : Circumstances, space.2 other = space.2 circumstances →
            other.facts.bindings.find space.1 = .ok value := by
  refine ⟨Expression.unaltered_ofDocument, fun circumstances => ?_⟩
  intro bound
  refine ⟨names_bindings circumstances, fun name => find_unknown circumstances, ?_⟩
  intro space known
  obtain ⟨place, binds⟩ := find_bindings known
  refine ⟨_, binds circumstances, AttributeMap.shown place _, fun other same => ?_⟩
  rw [binds other, same]

/-- A level in each source: a number, a text and a switch. -/
def levels : Circumstances where
  user := .insert "level" (.integer 5) .empty
  resource := .insert "level" (.string "5") .empty
  environment := .insert "level" (.boolean true) .empty

/-- The level of the user stays a number beside those of the others, and there is no request. -/
theorem facts_unaltered_levels :
    ("request" ∉ namespaces.map Prod.fst ∧
      levels.facts.bindings.find "request" = Expression.refuse .undeclaredReference) ∧
    (∃ place entries, levels.facts.bindings.find "user" = .ok (.map (.given place) entries) ∧
      Keyed.find? (.string "level") entries = some (.int 5)) ∧
    ∃ number value, Number.ofInt? 0x8000000000000000 = some number ∧
      value.toNat = 0x8000000000000000 ∧ Value.ofDocument [] (.number number) = .uint value := by
  obtain ⟨shown, apart⟩ := facts_unaltered
  obtain ⟨-, unknown, known⟩ := apart levels
  have absent : "request" ∉ namespaces.map Prod.fst := by decide
  refine ⟨⟨absent, unknown "request" absent⟩, ?_, ?_⟩
  · obtain ⟨_, bound, ⟨place, entries, rfl, -, facts⟩, -⟩ :=
      known ("user", user) (by simp [namespaces])
    refine ⟨place, entries, bound, ?_⟩
    have fact := facts "level"
    have stored : levels.user.find? "level" = some (.integer 5) := rfl
    rw [stored] at fact
    generalize Keyed.find? (.string "level") entries = found at fact
    obtain ⟨⟨_⟩⟩ := fact
    rfl
  · obtain ⟨number, value, read, size, form⟩ :=
      shown.large 0x8000000000000000 (by decide) (by decide)
    exact ⟨number, value, read, Int.ofNat.inj size, form []⟩

end Circumstances

end AccessControl

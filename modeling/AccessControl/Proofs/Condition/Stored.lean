/-
**Conditions as they are stored, read back.**

* `Json.Record.read_members` — a record reads from a written object what stands under the names of
  its fields.
* `Condition.reread?` — a condition with its values read back; its expression stays.
* `Condition.Arrangement.ofText?_text` — **this is what the text of a condition is read as**, in
  whatever order its entries are written.
* `Condition.Arrangement.isSatisfiedText_text` — so it is this that a check holds against the
  circumstances.
-/

import AccessControl.Condition
import AccessControl.Proofs.Attribute

namespace AccessControl

open Json (Document Source)

/-! ### Records -/

namespace Json.Record

theorem filter_key {members : List (String × Source)} (different : (members.map Prod.fst).Nodup)
    (key : String) :
    members.filter (fun member => member.1 == key) =
      match Keyed.find? key members with
      | some value => [(key, value)]
      | none => [] := by
  induction members with
  | nil => rfl
  | cons member rest ih =>
    obtain ⟨new, tail⟩ := List.nodup_cons.mp different
    rw [List.filter_cons, Dictionary.find?_cons, ih tail]
    by_cases same : key = member.1
    · have absent : Keyed.find? key rest = none :=
        Keyed.find?_eq_none.mpr fun other inside hit =>
          new (same ▸ hit ▸ List.mem_map_of_mem inside)
      rw [absent, if_pos same, if_pos (beq_iff_eq.mpr same.symm), same]
    · rw [if_neg same, if_neg (mt beq_iff_eq.mp (Ne.symm same))]

/-- Under distinct keys a field is there once, or absent. -/
theorem ofMembers_of_nodup {members : List (String × Source)}
    (different : (members.map Prod.fst).Nodup) {field : Field}
    (optional : field.absence ≠ .refused) :
    ofMembers members field = some (Keyed.find? field.name members) := by
  unfold ofMembers
  rw [filter_key different]
  cases Keyed.find? field.name members with
  | none => exact if_neg optional
  | some value => rfl

theorem namedMembers_sources (members : List (String × Document)) :
    namedMembers (memberSources members) =
      some (members.map fun member => (member.1, member.2.source)) := by
  induction members with
  | nil => rfl
  | cons member rest ih =>
    rw [memberSources, namedMembers, pieceString_pieces, ih]
    rfl

/-- **A record reads from a written object what stands under the names of its fields.** -/
theorem read_members {members : List (String × Document)}
    (different : (members.map Prod.fst).Nodup) {fields : List Field}
    (optional : ∀ field ∈ fields, field.absence ≠ .refused) :
    read fields (Document.object members).source =
      some ((fields.map fun field => Keyed.find? field.name members).map
        (Option.map Document.source)) := by
  let named := members.map fun member => (member.1, member.2.source)
  have distinct : (named.map Prod.fst).Nodup := by
    rw [List.map_map]
    exact different
  have one (field : Field) (isOptional : field.absence ≠ .refused) :
      ofMembers named field = some ((Keyed.find? field.name members).map Document.source) := by
    rw [ofMembers_of_nodup distinct isOptional, Dictionary.find?_map]
  show (namedMembers (memberSources members)).bind (fun named => fields.mapM (ofMembers named)) = _
  rw [namedMembers_sources, Option.bind_some]
  induction fields with
  | nil => rfl
  | cons field rest ih =>
    rw [List.mapM_cons, one field (optional field List.mem_cons_self),
      ih fun other member => optional other (List.mem_cons_of_mem _ member)]
    rfl

end Json.Record

theorem Keyed.find?_append {α : Type} (key : String) (front back : List (String × α)) :
    find? key (front ++ back) = (find? key front).or (find? key back) := by
  induction front with
  | nil => rfl
  | cons entry rest ih =>
    rw [List.cons_append, Dictionary.find?_cons, Dictionary.find?_cons, ih]
    split <;> rfl

namespace Condition

variable {condition : Condition}

/-- A condition with its values read back. -/
def reread? (condition : Condition) : Option Condition := do
  let resource ← condition.resource.reread?
  let user ← condition.user.reread?
  let environment ← condition.environment.reread?
  some { resource, user, environment, expression := condition.expression }

/-- The doubles of a condition are read back as they were. -/
structure Exact (condition : Condition) : Prop where
  resource : condition.resource.Exact
  user : condition.user.Exact
  environment : condition.environment.Exact

/-! ### The members of a condition -/

theorem find?_clause (key name : String) (entries : List (String × AttributeValue)) :
    Keyed.find? key (clause name entries) =
      if key = name ∧ entries.isEmpty = false then some (AttributeMap.written entries)
      else none := by
  unfold clause
  cases entries.isEmpty with
  | true => simp [Keyed.find?]
  | false => simp [Keyed.find?]

/-- A clause is read back, an empty one by its absence. -/
theorem withDefault_clause {attributes : AttributeMap}
    {entries : List (String × AttributeValue)} (order : entries.Perm attributes.toList) :
    Json.Record.withDefault AttributeMap.ofSource? .empty
      ((if entries.isEmpty = false then some (AttributeMap.written entries) else none).map
        Document.source) = attributes.reread? := by
  cases empty : entries.isEmpty with
  | false => exact AttributeMap.ofSource?_perm order
  | true =>
    obtain rfl := List.isEmpty_iff.mp empty
    have bare : attributes = .empty := Dictionary.ext order.nil_eq.symm
    rw [bare]
    rfl

namespace Arrangement

variable (arrangement : condition.Arrangement)

theorem nodup_members : (arrangement.members.map Prod.fst).Nodup := by
  have clauses (name : String) (entries : List (String × AttributeValue)) :
      ((clause name entries).map Prod.fst).Sublist [name] := by
    unfold clause
    split
    · exact List.nil_sublist _
    · exact List.Sublist.refl _
  have expression : (arrangement.members.map Prod.fst).Sublist
      ["resource", "user", "environment", "expression"] := by
    unfold members
    simp only [List.map_append]
    refine (((clauses "resource" _).append (clauses "user" _)).append
      (clauses "environment" _)).append ?_
    cases condition.expression with
    | none => exact List.nil_sublist _
    | some text => exact List.Sublist.refl _
  exact expression.nodup (by decide)

theorem find?_members :
    fields.map (fun field => Keyed.find? field.name arrangement.members) =
      [if arrangement.resource.isEmpty = false then
          some (AttributeMap.written arrangement.resource) else none,
        if arrangement.user.isEmpty = false then
          some (AttributeMap.written arrangement.user) else none,
        if arrangement.environment.isEmpty = false then
          some (AttributeMap.written arrangement.environment) else none,
        condition.expression.map .string] := by
  unfold fields members
  simp only [List.map_cons, List.map_nil, Keyed.find?_append, find?_clause]
  cases condition.expression <;> simp [Keyed.find?]

/-- **In whatever order the entries are written, the text is read as the condition with its values
read back.** -/
theorem ofText?_text : ofText? arrangement.text = condition.reread? := by
  have read := @Json.Record.read_members _ arrangement.nodup_members fields (by decide)
  rw [find?_members] at read
  have expression : Json.Record.optional Source.text?
      ((condition.expression.map Document.string).map Document.source) =
        some condition.expression := by
    cases condition.expression with
    | none => rfl
    | some text =>
      show (Json.pieceString (Json.pieces text)).map some = _
      rw [Json.pieceString_pieces]
      rfl
  unfold ofText? text
  rw [Json.ofText_text, Option.bind_some]
  unfold ofSource? reread?
  rw [read]
  simp only [List.map_cons, List.map_nil, Option.bind_eq_bind, Option.bind_some,
    withDefault_clause arrangement.ofResource, withDefault_clause arrangement.ofUser,
    withDefault_clause arrangement.ofEnvironment, expression]

/-- **What a check holds against the circumstances is the condition with its values read back.** -/
theorem isSatisfiedText_text (circumstances : Circumstances) :
    isSatisfiedText arrangement.text circumstances =
      match condition.reread? with
      | some again => again.isSatisfied circumstances
      | none => pure false := by
  rw [← arrangement.ofText?_text]
  rfl

end Arrangement

/-- **A condition is read back as it was exactly when its doubles are.** -/
theorem reread?_eq_self_iff : condition.reread? = some condition ↔ condition.Exact := by
  obtain ⟨resource, user, environment, expression⟩ := condition
  unfold reread?
  constructor
  · intro same
    obtain ⟨resource', ofResource, same⟩ := Option.bind_eq_some_iff.mp same
    obtain ⟨user', ofUser, same⟩ := Option.bind_eq_some_iff.mp same
    obtain ⟨environment', ofEnvironment, same⟩ := Option.bind_eq_some_iff.mp same
    obtain ⟨rfl, rfl, rfl, -⟩ := Condition.mk.inj (Option.some.inj same)
    exact ⟨AttributeMap.reread?_eq_self_iff.mp ofResource,
      AttributeMap.reread?_eq_self_iff.mp ofUser,
      AttributeMap.reread?_eq_self_iff.mp ofEnvironment⟩
  · intro doubles
    rw [AttributeMap.reread?_eq_self_iff.mpr doubles.resource,
      AttributeMap.reread?_eq_self_iff.mpr doubles.user,
      AttributeMap.reread?_eq_self_iff.mpr doubles.environment]
    rfl

end Condition

end AccessControl

/-
**Conditions come back from their texts.**

* `AttributeMap.SameTypes`, `Condition.SameTypes` — the same keys, with values of the same types
  under them.
* `Condition.sameTypes_of_reread` — what a text is read as has values of the types that were
  written.
* `Condition.reads_back` — **a condition is read back as it was exactly when its doubles are**, and
  the order in which its entries are written does not matter.
-/

import AccessControl.Proofs.Condition.Stored

namespace AccessControl

/-! ### Types -/

/-- Two maps have values of the same types under the same keys. -/
def AttributeMap.SameTypes (first second : AttributeMap) : Prop :=
  ∀ key, (first.find? key).map AttributeValue.type = (second.find? key).map AttributeValue.type

/-- A map that is read back has values of the types that were written. -/
theorem AttributeMap.sameTypes_of_reread {attributes again : AttributeMap}
    (read : attributes.reread? = some again) : again.SameTypes attributes := by
  intro key
  rw [find?_reread read key]
  cases found : attributes.find? key with
  | none => rfl
  | some value =>
    cases reread : value.reread? with
    | none =>
      rw [reread?_eq_none_iff.mpr ⟨key, value, found, reread⟩] at read
      cases read
    | some same =>
      show (value.reread?).map AttributeValue.type = some value.type
      rw [reread]
      exact congrArg some (AttributeValue.type_reread reread)

namespace Condition

/-- Two conditions require values of the same types under the same keys, and the same
expression. -/
structure SameTypes (first second : Condition) : Prop where
  resource : first.resource.SameTypes second.resource
  user : first.user.SameTypes second.user
  environment : first.environment.SameTypes second.environment
  expression : first.expression = second.expression

variable {condition again : Condition}

theorem read_eq_ok_iff {text : String} : read text = .ok again ↔ ofText? text = some again := by
  unfold read
  cases ofText? text with
  | none => simp
  | some other => simp

/-- **What is read back has the types that were written**, whatever becomes of the doubles. -/
theorem sameTypes_of_reread (read : condition.reread? = some again) :
    again.SameTypes condition := by
  unfold reread? at read
  obtain ⟨resource, ofResource, read⟩ := Option.bind_eq_some_iff.mp read
  obtain ⟨user, ofUser, read⟩ := Option.bind_eq_some_iff.mp read
  obtain ⟨environment, ofEnvironment, read⟩ := Option.bind_eq_some_iff.mp read
  obtain rfl := Option.some.inj read
  exact
    { resource := AttributeMap.sameTypes_of_reread ofResource
      user := AttributeMap.sameTypes_of_reread ofUser
      environment := AttributeMap.sameTypes_of_reread ofEnvironment
      expression := rfl }

/-! ### Round trip -/

/-- **A condition is read back from its text as it was exactly when its doubles are.** The order in
which the entries of its clauses are written makes no difference, that of the keys being one of
them; and whatever a text is read as has values of the types that were written, under the same keys,
and the expression as it was, a blank one included. -/
theorem reads_back (condition : Condition) :
    condition.arranged.text = condition.text ∧
      ∀ arrangement : condition.Arrangement,
        (read arrangement.text = .ok condition ↔ condition.Exact) ∧
          ∀ again, read arrangement.text = .ok again → again.SameTypes condition := by
  refine ⟨rfl, fun arrangement => ?_⟩
  simp only [read_eq_ok_iff, arrangement.ofText?_text]
  exact ⟨reread?_eq_self_iff, fun again => sameTypes_of_reread⟩

/-- The entries of every clause from the last key to the first. -/
def backwards (condition : Condition) : condition.Arrangement where
  resource := condition.resource.toList.reverse
  user := condition.user.toList.reverse
  environment := condition.environment.toList.reverse
  ofResource := List.reverse_perm _
  ofUser := List.reverse_perm _
  ofEnvironment := List.reverse_perm _

/-- Values that differ in their types only, the ends of the integers, keys with quotes and letters
beyond ASCII, and a blank expression. -/
def mixed : Condition where
  resource := Dictionary.ofList
    [("\"least\"\n", .integer Int64.minValue), ("größe", .integer Int64.maxValue)]
  user := Dictionary.ofList
    [("five", .integer 5), ("point", .float 5), ("text", .string "5"), ("word", .string "true")]
  expression := some " "

theorem mixed_user : mixed.user.toList =
    [("five", .integer 5), ("point", .float 5), ("text", .string "5"), ("word", .string "true")] :=
  rfl

theorem mixed_resource : mixed.resource.toList =
    [("\"least\"\n", .integer Int64.minValue), ("größe", .integer Int64.maxValue)] :=
  rfl

/-- Written from the last key to the first it is another text, which is read as the same condition,
none of its values being taken for one of another type. -/
theorem reads_back_mixed :
    mixed.Exact ∧ mixed.backwards.text ≠ mixed.text ∧ read mixed.backwards.text = .ok mixed ∧
      mixed.SameTypes mixed := by
  have exact : mixed.Exact := by
    refine ⟨fun key x found => ?_, fun key x found => ?_, nofun⟩
    · have member := Dictionary.mem_toList_iff.mpr found
      rw [mixed_resource] at member
      simp at member
    · have member := Dictionary.mem_toList_iff.mpr found
      rw [mixed_user] at member
      obtain ⟨-, rfl⟩ : key = "point" ∧ x = 5 := by simpa using member
      exact ⟨by decide +kernel, by decide +kernel⟩
  obtain ⟨back, types⟩ := (reads_back mixed).2 mixed.backwards
  have read := back.mpr exact
  exact ⟨exact, by decide +kernel, read, types mixed read⟩

end Condition

end AccessControl

/-
**Finite maps as lists sorted by key.**

* `Keyed.insert`, `Keyed.find?` — on plain lists of pairs; an insertion replaces.
* `Dictionary` — text keys, each once, in increasing order, so that the order in which a dictionary
  is filled does not show in it.
* `Dictionary.find?_insert` — the last value written under a key is the one found.
* `Shuffle` — an order in which entries come where nothing fixes one.
-/

namespace AccessControl

/-! ### Pairs sorted by key -/

namespace Keyed

variable {κ α β : Type} [LT κ] [DecidableLT κ] [DecidableEq κ]

/-- Put a value under a key, before the first larger key; a value that was there is replaced. -/
def insert (key : κ) (value : α) : List (κ × α) → List (κ × α)
  | [] => [(key, value)]
  | entry :: rest =>
    if key < entry.1 then (key, value) :: entry :: rest
    else if key = entry.1 then (key, value) :: rest
    else entry :: insert key value rest

def find? (key : κ) : List (κ × α) → Option α
  | [] => none
  | entry :: rest => if key = entry.1 then some entry.2 else find? key rest

/-- The pairs of a list put in one after the other. -/
def ofList (entries : List (κ × α)) : List (κ × α) :=
  entries.foldl (fun filled entry => insert entry.1 entry.2 filled) []

omit [LT κ] [DecidableLT κ] in
/-- Nothing is found under a key exactly when no pair has it. -/
theorem find?_eq_none {key : κ} {entries : List (κ × α)} :
    find? key entries = none ↔ ∀ entry ∈ entries, entry.1 ≠ key := by
  induction entries with
  | nil => simp [find?]
  | cons entry rest ih =>
    by_cases same : key = entry.1
    · simp [find?, same]
    · simp [find?, same, ih, Ne.symm same]

/-- After an insertion there is the new pair, and nothing that was not there before. -/
theorem mem_insert {key : κ} {value : α} {entries : List (κ × α)} {entry : κ × α}
    (member : entry ∈ insert key value entries) : entry = (key, value) ∨ entry ∈ entries := by
  induction entries with
  | nil => simpa [insert] using member
  | cons first rest ih =>
    unfold insert at member
    split at member
    · simpa using member
    · split at member
      · rcases List.mem_cons.mp member with found | found
        · exact .inl found
        · exact .inr (List.mem_cons_of_mem _ found)
      · rcases List.mem_cons.mp member with found | found
        · exact .inr (found ▸ List.mem_cons_self)
        · exact (ih found).imp_right (List.mem_cons_of_mem _)

/-- After an insertion the new value is found under its key, and all else as before. -/
theorem find?_insert (key other : κ) (value : α) (entries : List (κ × α)) :
    find? other (insert key value entries) =
      if other = key then some value else find? other entries := by
  induction entries with
  | nil => simp [insert, find?]
  | cons entry rest ih =>
    obtain ⟨first, content⟩ := entry
    unfold insert
    split
    · simp [find?]
    · split
      · rename_i same
        subst same
        by_cases hit : other = key <;> simp [find?, hit]
      · rename_i different
        by_cases hit : other = first
        · subst hit
          simp [find?, Ne.symm different]
        · simp [find?, hit, ih]

end Keyed

/-! ### Dictionaries -/

/-- A finite map with text keys. -/
structure Dictionary (α : Type) where
  entries : List (String × α)
  sorted : entries.Pairwise fun first second => first.1 < second.1

namespace Dictionary

variable {α β : Type}

instance [BEq α] : BEq (Dictionary α) where
  beq first second := first.entries == second.entries

instance [Repr α] : Repr (Dictionary α) where
  reprPrec content := reprPrec content.entries

theorem ext {first second : Dictionary α} (same : first.entries = second.entries) :
    first = second := by
  cases first; cases second; cases same; rfl

def empty : Dictionary α := ⟨[], .nil⟩

instance : EmptyCollection (Dictionary α) := ⟨empty⟩

instance : Inhabited (Dictionary α) := ⟨empty⟩

/-- An insertion keeps the keys in increasing order. -/
theorem sorted_insert (key : String) (value : α) {entries : List (String × α)}
    (sorted : entries.Pairwise fun first second => first.1 < second.1) :
    (Keyed.insert key value entries).Pairwise fun first second => first.1 < second.1 := by
  induction entries with
  | nil => simp [Keyed.insert]
  | cons entry rest ih =>
    have above : ∀ other ∈ rest, entry.1 < other.1 := (List.pairwise_cons.mp sorted).1
    have tail := (List.pairwise_cons.mp sorted).2
    unfold Keyed.insert
    split
    · rename_i less
      refine List.pairwise_cons.mpr ⟨fun other member => ?_, sorted⟩
      rcases List.mem_cons.mp member with same | member
      · exact same ▸ less
      · exact String.lt_trans less (above other member)
    · split
      · rename_i same
        exact List.pairwise_cons.mpr ⟨fun other member => same ▸ above other member, tail⟩
      · rename_i notLess different
        refine List.pairwise_cons.mpr ⟨fun other member => ?_, ih tail⟩
        rcases Keyed.mem_insert member with same | member
        · subst same
          exact Decidable.byContradiction fun notGreater =>
            different (String.le_antisymm notGreater notLess)
        · exact above other member

/-- Put a value under a key; a value that was there is replaced. -/
def insert (key : String) (value : α) (content : Dictionary α) : Dictionary α :=
  ⟨Keyed.insert key value content.entries, sorted_insert key value content.sorted⟩

def find? (content : Dictionary α) (key : String) : Option α := Keyed.find? key content.entries

/-- The dictionary filled with some pairs one after the other: of two values under one key the last
one stays. -/
def ofList (entries : List (String × α)) : Dictionary α :=
  entries.foldl (fun content entry => content.insert entry.1 entry.2) empty

/-- The pairs of a dictionary in the order of their keys. -/
def toList (content : Dictionary α) : List (String × α) := content.entries

def isEmpty (content : Dictionary α) : Bool := content.entries.isEmpty

theorem find?_empty (key : String) : (empty : Dictionary α).find? key = none := rfl

/-- **The last value written under a key is the one found.** -/
theorem find?_insert (content : Dictionary α) (key other : String) (value : α) :
    (content.insert key value).find? other =
      if other = key then some value else content.find? other :=
  Keyed.find?_insert key other value content.entries

end Dictionary

/-! ### Orders that nothing fixes -/

/-- An order for entries that have none of their own: any list of them is brought into it, and none
is lost or repeated. -/
structure Shuffle (α : Type) where
  arrange : List α → List α
  perm : ∀ entries, (arrange entries).Perm entries

namespace Shuffle

variable {α : Type}

/-- The order in which entries are kept. -/
def kept : Shuffle α := ⟨id, fun _ => .rfl⟩

def reversed : Shuffle α := ⟨List.reverse, List.reverse_perm⟩

instance : Inhabited (Shuffle α) := ⟨kept⟩

end Shuffle

end AccessControl

/-
**What can be wrong with an answer.**

* `Row.Meaningless`, `Row.Illegible` — a word or a value of a row has no meaning, or one of its
  columns cannot be read at all; `Row.user_illegible` and its neighbours — **an entity is not read
  from its row for one of these reasons only.**
* `Read.Fault` — what is wrong with the outcome of a question: the server refuses, what is asked for
  is not there, or a row cannot be read.
* `Read.Fault.kinds` — what is not there is not found, a word or a value without meaning counts as a
  fault of the caller, and everything else is internal.
* `Asks` — an exchange of one question that ends with an error exactly where the answer is at fault;
  `asks_user` and its neighbours — **the look-ups of a check do.**
-/

import AccessControl.Administration
import AccessControl.Proofs.Sql.Transcript

namespace AccessControl

theorem WordList.read_iff {α : Type} {list : WordList} {ofName? : String → Option α}
    {word : String} {meaning : α} :
    list.read ofName? word = .ok meaning ↔ ofName? word = some meaning := by
  unfold WordList.read
  cases ofName? word <;> simp

namespace Sql

open Effect

/-! ### Rows that cannot be read -/

def knows (word : String) : WordList → Bool
  | .roleStatus | .permissionStatus => (Status.ofName? word).isSome
  | .attributeOwner => (Owner.ofName? word).isSome
  | .attributeType => (ValueType.ofName? word).isSome

namespace Row

/-- A column of a row has a word that is in no list, or a value that is none of its type. -/
inductive Meaningless (row : Row) : Error → Prop where
  | word {list : WordList} {column word : String} (stored : row.lookup column = some (.text word))
      (unknown : knows word list = false) : Meaningless row (.unknownWord list word)
  | value {type : ValueType} {name text : String}
      (typed : row.lookup "value_type" = some (.text name))
      (named : ValueType.ofName? name = some type) (stored : row.lookup "value" = some (.text text))
      (none : AttributeValue.ofText? type text = none) : Meaningless row (.wrongValue text type)

/-- A row cannot be read: a column is not there or of another type, or it has no meaning. -/
def Illegible (row : Row) (cause : Error) : Prop :=
  (∃ column, cause = .column column) ∨ row.Meaningless cause

/-- What is read of a row fails only where the row cannot be read. -/
def Blames {α : Type} (row : Row) (part : Checked α) : Prop :=
  ∀ cause, part = .error cause → row.Illegible cause

section Columns

variable {α β : Type} {row : Row}

theorem blames_pure (result : α) : row.Blames (pure result : Checked α) := fun _ failed =>
  nomatch failed

theorem blames_bind {first : Checked α} {next : α → Checked β} (begun : row.Blames first)
    (continued : ∀ result, first = .ok result → row.Blames (next result)) :
    row.Blames (first >>= next) := by
  intro cause failed
  cases same : first with
  | error other =>
    rw [same] at failed
    exact Except.error.inj failed ▸ begun other same
  | ok result =>
    rw [same] at failed
    exact continued result same cause failed

theorem blames_cell (name : String) : row.Blames (row.cell name) := by
  intro cause failed
  unfold cell at failed
  split at failed
  · cases failed
  · exact .inl ⟨name, (Except.error.inj failed).symm⟩

/-- A value of a column is taken from its cell, or the column is to blame. -/
theorem blames_column {name : String} {take : Cell → Checked α}
    (takes : ∀ cell, take cell = .error (.column name) ∨ ∃ result, take cell = .ok result) :
    row.Blames (row.cell name >>= take) := by
  refine blames_bind (blames_cell name) fun cell _ cause failed => ?_
  rcases takes cell with blamed | ⟨result, taken⟩
  · rw [blamed] at failed
    exact .inl ⟨name, (Except.error.inj failed).symm⟩
  · rw [taken] at failed
    cases failed

theorem blames_bigint (name : String) : row.Blames (row.bigint name) :=
  blames_column fun cell => by cases cell <;> simp

theorem blames_integer (name : String) : row.Blames (row.integer name) :=
  blames_column fun cell => by cases cell <;> simp

theorem blames_text (name : String) : row.Blames (row.text name) :=
  blames_column fun cell => by cases cell <;> simp

theorem blames_time (name : String) : row.Blames (row.time name) :=
  blames_column fun cell => by cases cell <;> simp

/-- A value that may be missing is read like one that may not, unless it is null. -/
theorem blames_optional {name : String} {read : Checked α} (reads : row.Blames read) :
    row.Blames (row.cell name >>= fun
      | .null => .ok none
      | _ => read >>= fun result => pure (some result)) := by
  refine blames_bind (blames_cell name) fun cell _ => ?_
  cases cell with
  | null => exact blames_pure none
  | _ => exact blames_bind reads fun _ _ => blames_pure _

theorem blames_bigint? (name : String) : row.Blames (row.bigint? name) :=
  blames_optional (blames_bigint name)

theorem blames_text? (name : String) : row.Blames (row.text? name) :=
  blames_optional (blames_text name)

/-- A stored word has its meaning, or it is in no list. -/
theorem blames_word {list : WordList} {ofName? : String → Option α} {column word : String}
    (stored : row.text column = .ok word) (known : knows word list = (ofName? word).isSome) :
    row.Blames (list.read ofName? word) := by
  intro cause failed
  unfold WordList.read at failed
  split at failed
  · cases failed
  · rename_i unknown
    obtain rfl := Except.error.inj failed
    exact .inr (.word (text_iff.mp stored) (known.trans (by rw [unknown]; rfl)))

end Columns

/-! ### Entities that cannot be read -/

variable {row : Row}

theorem user_illegible : row.Blames row.user :=
  blames_bind (blames_bigint _) fun _ _ => blames_bind (blames_text _) fun _ _ =>
    blames_bind (blames_time _) fun _ _ => blames_pure _

theorem resource_illegible : row.Blames row.resource :=
  blames_bind (blames_bigint _) fun _ _ => blames_bind (blames_text _) fun _ _ =>
    blames_bind (blames_text? _) fun _ _ => blames_bind (blames_bigint? _) fun _ _ =>
      blames_bind (blames_time _) fun _ _ => blames_bind (blames_time _) fun _ _ => blames_pure _

theorem action_illegible : row.Blames row.action :=
  blames_bind (blames_bigint _) fun _ _ => blames_bind (blames_text _) fun _ _ =>
    blames_bind (blames_text? _) fun _ _ => blames_bind (blames_time _) fun _ _ =>
      blames_bind (blames_time _) fun _ _ => blames_pure _

theorem role_illegible : row.Blames row.role :=
  blames_bind (blames_text _) fun _ stored => blames_bind (blames_bigint _) fun _ _ =>
    blames_bind (blames_text _) fun _ _ => blames_bind (blames_text? _) fun _ _ =>
      blames_bind (blames_word stored rfl) fun _ _ => blames_bind (blames_time _) fun _ _ =>
        blames_pure _

theorem permission_illegible : row.Blames row.permission :=
  blames_bind (blames_text _) fun _ stored => blames_bind (blames_bigint _) fun _ _ =>
    blames_bind (blames_bigint _) fun _ _ => blames_bind (blames_bigint _) fun _ _ =>
      blames_bind (blames_bigint _) fun _ _ => blames_bind (blames_word stored rfl) fun _ _ =>
        blames_bind (blames_text? _) fun _ _ => blames_bind (blames_integer _) fun _ _ =>
          blames_bind (blames_time _) fun _ _ => blames_pure _

/-- A stored value is read as one of its type, or it is none. -/
theorem fact_illegible : row.Blames row.fact := by
  refine blames_bind (blames_text _) fun ownerWord owned => ?_
  refine blames_bind (blames_text _) fun typeWord typed => ?_
  refine blames_bind (blames_word typed rfl) fun type named => ?_
  refine blames_bind (blames_text _) fun text stored => ?_
  refine blames_bind (blames_word owned rfl) fun _ _ => ?_
  refine blames_bind (blames_bigint _) fun _ _ => blames_bind (blames_text _) fun _ _ => ?_
  refine blames_bind ?_ fun _ _ => blames_bind (blames_time _) fun _ _ => blames_pure _
  intro cause failed
  unfold AttributeValue.decode at failed
  split at failed
  · cases failed
  · rename_i none
    obtain rfl := Except.error.inj failed
    have meant : ValueType.ofName? typeWord = some type := WordList.read_iff.mp named
    exact .inr (.value (text_iff.mp typed) meant (text_iff.mp stored) none)

end Row

/-! ### Answers that are at fault -/

namespace Read

/-- What a question is for, in words. -/
def context : Read → String
  | .user _ => "Failed to get user"
  | .resourceByName _ => "Failed to get resource"
  | .actionByName _ => "Failed to get action"
  | .userRoles _ => "Failed to load user roles"
  | .rolePermissions _ => "Failed to load role permissions"
  | .attributes _ _ => "Failed to load attributes"

/-- What it means that there is no row, where one must be there. -/
def missing? : Read → Option Error
  | .user id => some (.noId .user id)
  | .resourceByName name => some (.noName .resource name)
  | .actionByName name => some (.noName .action name)
  | _ => none

/-- The rows that are looked at: only the first where one is asked for. -/
def examined (rows : List Row) : Read → List Row
  | .user _ | .resourceByName _ | .actionByName _ => rows.take 1
  | _ => rows

def check (row : Row) : Read → Checked Unit
  | .user _ => row.user >>= fun _ => .ok ()
  | .resourceByName _ => row.resource >>= fun _ => .ok ()
  | .actionByName _ => row.action >>= fun _ => .ok ()
  | .userRoles _ => row.role >>= fun _ => .ok ()
  | .rolePermissions _ => row.permission >>= fun _ => .ok ()
  | .attributes _ _ => row.fact >>= fun _ => .ok ()

/-- What is wrong with the outcome of a question: a refusal, a row that is not there, or the first
row that cannot be read. -/
inductive Fault (read : Read) : Outcome → Error → Prop where
  | refused (refusal : Refusal) :
      Fault read (.refused refusal) (.statement read.context (some refusal.message))
  | missing {outcome : Outcome} {cause : Error} (accepted : outcome.Accepted)
      (nothing : outcome.found = []) (wanted : read.missing? = some cause) :
      Fault read outcome cause
  | unreadable {outcome : Outcome} {before after : List Row} {row : Row} {cause : Error}
      (rows : read.examined outcome.found = before ++ row :: after)
      (fine : ∀ earlier ∈ before, read.check earlier = .ok ())
      (failed : read.check row = .error cause) : Fault read outcome cause

end Read

/-- Rows are read up to the first one that cannot be. -/
theorem mapM_error_iff {α β : Type} {read : α → Checked β} {check : α → Checked Unit}
    (checks : ∀ row, check row = read row >>= fun _ => .ok ()) {rows : List α} {cause : Error} :
    rows.mapM read = .error cause ↔
      ∃ before row after, rows = before ++ row :: after ∧
        (∀ earlier ∈ before, check earlier = .ok ()) ∧ check row = .error cause := by
  induction rows with
  | nil => simp [List.mapM_nil, pure, Except.pure]
  | cons first rest ih =>
    rw [List.mapM_cons]
    cases here : read first with
    | error other =>
      have blamed : check first = .error other := by
        rw [checks, here]
        rfl
      show Except.error other = .error cause ↔ _
      constructor
      · rintro ⟨⟩
        exact ⟨[], first, rest, rfl, nofun, blamed⟩
      · rintro ⟨before, row, after, place, fine, failed⟩
        cases before with
        | nil =>
          obtain ⟨rfl, -⟩ := List.cons.inj place
          exact congrArg _ (Except.error.inj (blamed.symm.trans failed))
        | cons earlier before =>
          obtain ⟨rfl, -⟩ := List.cons.inj place
          exact nomatch blamed.symm.trans (fine first List.mem_cons_self)
    | ok result =>
      have passed : check first = .ok () := by
        rw [checks, here]
        rfl
      have later : (rest.mapM read >>= fun results => .ok (result :: results)) = .error cause ↔
          rest.mapM read = .error cause := by
        cases rest.mapM read <;> simp [bind, Except.bind]
      show (rest.mapM read >>= fun results => .ok (result :: results)) = .error cause ↔ _
      rw [later, ih]
      constructor
      · rintro ⟨before, row, after, rfl, fine, failed⟩
        exact ⟨first :: before, row, after, rfl, List.forall_mem_cons.mpr ⟨passed, fine⟩, failed⟩
      · rintro ⟨before, row, after, place, fine, failed⟩
        cases before with
        | nil =>
          obtain ⟨rfl, -⟩ := List.cons.inj place
          exact nomatch passed.symm.trans failed
        | cons earlier before =>
          obtain ⟨rfl, same⟩ := List.cons.inj place
          exact ⟨before, row, after, same, (List.forall_mem_cons.mp fine).2, failed⟩

theorem check_error_iff {α : Type} {read : Checked α} {check : Checked Unit}
    (checks : check = read >>= fun _ => .ok ()) {cause : Error} :
    check = .error cause ↔ read = .error cause := by
  rw [checks]
  cases read <;> simp [bind, Except.bind]

namespace Read

/-- An outcome that is no refusal is at fault if something is missing or cannot be read. -/
theorem fault_iff {read : Read} {outcome : Outcome} {cause : Error} (accepted : outcome.Accepted) :
    read.Fault outcome cause ↔
      (outcome.found = [] ∧ read.missing? = some cause) ∨
        ∃ before row after, read.examined outcome.found = before ++ row :: after ∧
          (∀ earlier ∈ before, read.check earlier = .ok ()) ∧ read.check row = .error cause := by
  constructor
  · rintro (⟨refusal⟩ | ⟨_, nothing, wanted⟩ | ⟨rows, fine, failed⟩)
    · exact absurd rfl (accepted refusal)
    · exact .inl ⟨nothing, wanted⟩
    · exact .inr ⟨_, _, _, rows, fine, failed⟩
  · rintro (⟨nothing, wanted⟩ | ⟨before, row, after, rows, fine, failed⟩)
    · exact .missing accepted nothing wanted
    · exact .unreadable rows fine failed

/-- A refusal is the fault itself. -/
theorem fault_refused_iff {read : Read} {refusal : Refusal} {cause : Error} :
    read.Fault (.refused refusal) cause ↔
      errorOf read.context .plain refusal = cause := by
  rw [errorOf_plain]
  constructor
  · rintro (⟨_⟩ | ⟨accepted, -, -⟩ | ⟨rows, -, -⟩)
    · rfl
    · exact absurd rfl (accepted refusal)
    · cases read <;> simp [examined, Outcome.found] at rows
  · rintro rfl
    exact .refused refusal

theorem mem_examined (read : Read) {rows : List Row} {row : Row}
    (member : row ∈ read.examined rows) : row ∈ rows := by
  cases read <;> first
    | exact List.mem_of_mem_take member
    | exact member

/-- A row is at fault because it cannot be read. -/
theorem illegible_of_check {read : Read} {row : Row} {cause : Error}
    (failed : read.check row = .error cause) : row.Illegible cause := by
  cases read with
  | user id => exact Row.user_illegible cause ((check_error_iff rfl).mp failed)
  | resourceByName name => exact Row.resource_illegible cause ((check_error_iff rfl).mp failed)
  | actionByName name => exact Row.action_illegible cause ((check_error_iff rfl).mp failed)
  | userRoles user => exact Row.role_illegible cause ((check_error_iff rfl).mp failed)
  | rolePermissions role => exact Row.permission_illegible cause ((check_error_iff rfl).mp failed)
  | attributes owner id => exact Row.fact_illegible cause ((check_error_iff rfl).mp failed)

/-- **What a fault is to the caller.** It is not found exactly where there is no row, his own fault
exactly where a word or a value in a row has no meaning, and internal otherwise. -/
theorem Fault.kinds {read : Read} {outcome : Outcome} {cause : Error}
    (fault : read.Fault outcome cause) :
    (cause.kind = .notFound ↔ outcome.Accepted ∧ outcome.found = []) ∧
      (cause.kind = .validation ↔ ∃ row ∈ outcome.found, row.Meaningless cause) ∧
      (cause.kind = .notFound ∨ cause.kind = .validation ∨ cause.kind = .internal) := by
  have meaningless {row : Row} (same : row.Meaningless cause) : cause.kind = .validation := by
    cases same <;> rfl
  cases fault with
  | refused refusal =>
    refine ⟨⟨nofun, fun both => absurd rfl (both.1 refusal)⟩, ⟨nofun, ?_⟩, .inr (.inr rfl)⟩
    rintro ⟨row, member, -⟩
    cases member
  | missing accepted nothing wanted =>
    have kind : cause.kind = .notFound := by
      cases read <;> cases wanted <;> rfl
    refine ⟨iff_of_true kind ⟨accepted, nothing⟩, ⟨?_, ?_⟩, .inl kind⟩
    · intro other
      cases kind.symm.trans other
    · rintro ⟨row, member, -⟩
      rw [nothing] at member
      cases member
  | @unreadable _ before after row _ rows fine failed =>
    have there : row ∈ outcome.found := read.mem_examined (by simp [rows])
    have some : outcome.found ≠ [] := List.ne_nil_of_mem there
    rcases illegible_of_check failed with ⟨column, rfl⟩ | same
    · refine ⟨⟨nofun, fun both => absurd both.2 some⟩, ⟨nofun, ?_⟩, .inr (.inr rfl)⟩
      rintro ⟨_, _, impossible⟩
      cases impossible
    · have kind := meaningless same
      refine ⟨⟨?_, fun both => absurd both.2 some⟩, iff_of_true kind ⟨row, there, same⟩,
        .inr (.inl kind)⟩
      intro other
      cases kind.symm.trans other

end Read

/-! ### Exchanges that ask -/

/-- An exchange asks one question, and ends with an error exactly where the answer is at fault. -/
def Asks {α : Type} (exchange : Session.Exchange α) (read : Read) : Prop :=
  ∃ made : Outcome → Checked α, Sends exchange read.statement made ∧
    ∀ outcome cause, made outcome = .error cause ↔ read.Fault outcome cause

section Asks

variable {α : Type} (decode : Row → Checked α) (read : Read)

/-- A question about one thing that must be there. -/
theorem asks_found {otherwise : Error} (missing : read.missing? = some otherwise)
    (first : ∀ rows, read.examined rows = rows.take 1)
    (checks : ∀ row, read.check row = decode row >>= fun _ => .ok ()) :
    Asks (Administration.found (firstAs decode read.context read.statement) otherwise) read := by
  refine ⟨fun outcome => ((outcome.checkedRows read.context .plain >>= fun rows =>
    .ok rows.head?) >>= (·.mapM decode)) >>= (·.elim (.error otherwise) .ok), ?_,
      fun outcome cause => ?_⟩
  · refine (sends_firstAs decode read.context read.statement).checking fun found session => ?_
    cases found <;> rfl
  dsimp only
  rcases outcome.accepted_or_refused with accepted | ⟨refusal, rfl⟩
  · rw [Outcome.checkedRows_iff.mpr ⟨accepted, rfl⟩, Read.fault_iff accepted, first, missing]
    cases outcome.found with
    | nil =>
      show Except.error otherwise = .error cause ↔ _
      simp
    | cons row rest =>
      have made : (((.ok (row :: rest).head? : Checked (Option Row)) >>= (·.mapM decode)) >>=
          (·.elim (.error otherwise) .ok)) = decode row := by
        show (Option.mapM decode (some row) >>= _) = _
        rw [Option.mapM_some]
        cases decode row <;> rfl
      show (((.ok (row :: rest).head? : Checked (Option Row)) >>= (·.mapM decode)) >>=
          (·.elim (.error otherwise) .ok)) = .error cause ↔ _
      rw [made, ← check_error_iff (checks row)]
      constructor
      · exact fun failed => .inr ⟨[], row, [], rfl, nofun, failed⟩
      · rintro (⟨nothing, -⟩ | ⟨before, other, after, place, -, failed⟩)
        · cases nothing
        · cases before with
          | nil =>
            obtain ⟨rfl, -⟩ := List.cons.inj (show [row] = other :: after from place)
            exact failed
          | cons earlier before =>
            have lengths := congrArg List.length (show [row] = _ from place)
            simp at lengths
  · rw [Read.fault_refused_iff]
    exact ⟨Except.error.inj, congrArg _⟩

/-- A question about all things of a kind. -/
theorem asks_all (missing : read.missing? = none) (all : ∀ rows, read.examined rows = rows)
    (checks : ∀ row, read.check row = decode row >>= fun _ => .ok ()) :
    Asks (allAs decode read.context read.statement) read := by
  refine ⟨_, sends_allAs decode read.context read.statement, fun outcome cause => ?_⟩
  rcases outcome.accepted_or_refused with accepted | ⟨refusal, rfl⟩
  · rw [Outcome.checkedRows_iff.mpr ⟨accepted, rfl⟩, Read.fault_iff accepted, all, missing]
    show outcome.found.mapM decode = .error cause ↔ _
    rw [mapM_error_iff checks]
    simp
  · rw [Read.fault_refused_iff]
    exact ⟨Except.error.inj, congrArg _⟩

end Asks

theorem asks_user (user : Id) : Asks (Administration.user store user) (.user user) :=
  asks_found Row.user (.user user) rfl (fun _ => rfl) fun _ => rfl

theorem asks_resourceByName (name : String) :
    Asks (Administration.resourceByName store name) (.resourceByName name) :=
  asks_found Row.resource (.resourceByName name) rfl (fun _ => rfl) fun _ => rfl

theorem asks_actionByName (name : String) :
    Asks (Administration.actionByName store name) (.actionByName name) :=
  asks_found Row.action (.actionByName name) rfl (fun _ => rfl) fun _ => rfl

theorem asks_userRoles (user : Id) : Asks (store.userRoles user) (.userRoles user) :=
  asks_all Row.role (.userRoles user) rfl (fun _ => rfl) fun _ => rfl

theorem asks_rolePermissions (role : Id) :
    Asks (store.rolePermissions role) (.rolePermissions role) :=
  asks_all Row.permission (.rolePermissions role) rfl (fun _ => rfl) fun _ => rfl

theorem asks_attributes (owner : Owner) (id : Id) :
    Asks (store.attributes owner id) (.attributes owner id) :=
  asks_all Row.fact (.attributes owner id) rfl (fun _ => rfl) fun _ => rfl

end Sql

end AccessControl

/-
**Tables in a database keep the rules that tables in memory keep.**

* `JudgedBy` — a stage comes to a check; `Goes.behind` — **stages go as their checks say**.
* `Ruled` — the operations that have rules of their own, on any store; `Ruled.rules` — these rules,
  and `Ruled.verdict` — what an operation comes to on some tables.
* `Ruled.memory_ending` — **an operation on tables in memory comes to its verdict.**
* `Ruled.database_ending` — **so does an operation on a database that describes them.**
* `rules_alike` — **where the server describes some tables, an operation ends as it does on these
  tables in memory**, with the same entity or the same error; and there are such replies.
-/

import AccessControl.Proofs.Sql.Inquiry
import AccessControl.Tables.Changes

namespace AccessControl.Sql

open Effect

/-! ### Checks in turn -/

def demand (condition : Bool) (otherwise : Error) : Checked Unit :=
  if condition then .ok () else .error otherwise

/-- Several checks and what comes behind them; the first error counts. -/
def afterAll {α : Type} : List (Checked Unit) → Checked α → Checked α
  | [], result => result
  | check :: rest, result => check >>= fun _ => afterAll rest result

theorem afterAll_eq {α : Type} (checks : List (Checked Unit)) (result : Checked α) :
    afterAll checks result = afterAll checks (.ok ()) >>= fun _ => result := by
  induction checks with
  | nil => rfl
  | cons check rest ih =>
    show (check >>= fun _ => afterAll rest result) = (check >>= fun _ => _) >>= _
    rw [ih, bind_assoc]

/-- An effect that demands something and goes on ends with what it demands, or as it goes on. -/
theorem ensure_bind_ending {σ α : Type} (condition : Bool) (otherwise : Error)
    (next : Unit → Effect Error σ α) (state : σ) {rest : Checked α}
    (later : (next () state).1 = .ofExcept rest) :
    ((ensure condition otherwise >>= next) state).1 =
      .ofExcept (demand condition otherwise >>= fun _ => rest) := by
  rw [ensure_bind]
  cases condition with
  | true => exact later
  | false => rfl

variable {tables : Tables} {session : Session} {statements : List Statement} {α : Type}

/-- A stage comes to a check wherever the outcome is as given. -/
def JudgedBy (given : Statement → Outcome → Prop) (stage : Stage) (check : Checked Unit) : Prop :=
  ∀ outcome, given stage.statement outcome → stage.verdict outcome = check

/-- A stage comes to a check wherever the outcome reflects some tables. -/
def Judged (tables : Tables) (stage : Stage) (check : Checked Unit) : Prop :=
  ∀ outcome, Reflects tables stage.statement outcome → stage.verdict outcome = check

/-- **Stages go as their checks say**, where the transcript is as given: the first check that fails
is the end, and if none does, the stages behind them go on. -/
theorem Goes.behind {given : Statement → Outcome → Prop} {front back : List Stage}
    {said : Transcript} {ending : Checked Unit} (goes : Goes (front ++ back) said ending)
    (answered : ∀ entry ∈ said, given entry.1 entry.2) {checks : List (Checked Unit)}
    (judged : List.Forall₂ (JudgedBy given) front checks) :
    match afterAll checks (.ok ()) with
    | .error cause => ending = .error cause
    | .ok _ => ∃ later ⊆ said, Goes back later ending := by
  induction judged generalizing said with
  | nil => exact ⟨said, List.Subset.refl said, goes⟩
  | @cons stage check rest others here _ ih =>
    cases goes with
    | @stopped _ _ outcome cause verdict =>
      have same : stage.verdict outcome = check := here outcome (answered _ List.mem_cons_self)
      rw [verdict] at same
      subst same
      rfl
    | @further _ _ outcome said _ favourable goes =>
      obtain ⟨reflected, still⟩ := List.forall_mem_cons.mp answered
      have same : stage.verdict outcome = check := here outcome reflected
      rw [(stage.verdict_iff outcome).mpr favourable] at same
      subst same
      show match afterAll others (.ok ()) with
        | .error cause => ending = .error cause
        | .ok _ => ∃ later ⊆ (stage.statement, outcome) :: said, Goes back later ending
      have rest := ih goes still
      cases checked : afterAll others (.ok ()) with
      | error cause =>
        rw [checked] at rest
        exact rest
      | ok _ =>
        rw [checked] at rest
        obtain ⟨later, among, goes⟩ := rest
        exact ⟨later, fun _ member => List.mem_cons_of_mem _ (among member), goes⟩

/-- Where all stages are judged, the checks say how they end. -/
theorem Goes.ending_eq {stages : List Stage} {said : Transcript} {ending : Checked Unit}
    (goes : Goes stages said ending) (described : Describes tables said)
    {checks : List (Checked Unit)} (judged : List.Forall₂ (Judged tables) stages checks) :
    ending = afterAll checks (.ok ()) := by
  rw [← List.append_nil stages] at goes
  have rest := goes.behind described judged
  cases checked : afterAll checks (.ok ()) with
  | error cause =>
    rw [checked] at rest
    exact rest
  | ok _ =>
    rw [checked] at rest
    obtain ⟨later, _, goes⟩ := rest
    cases goes
    rfl

/-! ### Stages that look at the tables -/

/-- What is not refused is judged by its rows. -/
theorem judged_judging {statement : Statement} {context : String} {reading : Reading}
    {Fine : List Row → Prop} {check : List Row → Checked Unit}
    {check_iff : ∀ rows, check rows = .ok () ↔ Fine rows} {expected : Checked Unit}
    (checks : ∀ outcome, Reflects tables statement outcome → check outcome.found = expected) :
    Judged tables (.judging statement context reading Fine check check_iff) expected := by
  intro outcome reflected
  have rows : outcome.checkedRows context reading = .ok outcome.found :=
    Outcome.checkedRows_iff.mpr ⟨reflected.accepted, rfl⟩
  show outcome.checkedRows context reading >>= check = expected
  rw [rows]
  exact checks outcome reflected

theorem judged_accepting (statement : Statement) (context : String) (reading : Reading) :
    Judged tables (.accepting statement context reading) (.ok ()) :=
  judged_judging fun _ _ => rfl

/-- A row is locked exactly when it is there. -/
theorem judged_locking (registry : Registry) (shared : Bool) (id : Id) (otherwise : Error) :
    Judged tables
      (.locking registry.table (if shared then "SHARE" else "UPDATE") id otherwise)
      (demand (registry.holds tables id) otherwise) := by
  refine judged_judging fun outcome reflected => ?_
  have answered : outcome.found ≠ [] ↔ registry.holds tables id = true :=
    reflected.answered (.lock registry shared id) rfl
  cases found : outcome.found with
  | nil =>
    have missing : registry.holds tables id = false := by simpa [found] using answered
    rw [missing]
    rfl
  | cons row rest =>
    have there : registry.holds tables id = true := by simpa [found] using answered
    rw [there]
    rfl

/-- Nothing is counted exactly when nothing refers to the row. -/
theorem judged_counting (reference : Reference) (id : Id) (otherwise : Error) :
    Judged tables (.counting reference.query id otherwise)
      (demand (reference.count tables id = 0) otherwise) := by
  refine judged_judging fun outcome reflected => ?_
  obtain ⟨row, rest, found, counted⟩ := reflected.answered (.count reference id) rfl
  rw [found]
  show (row.bigint "n" >>= fun count => if count ≤ 0 then .ok () else .error otherwise) = _
  rw [Row.bigint_iff.mpr counted]
  show (if (reference.count tables id : Int) ≤ 0 then _ else _) = _
  by_cases none : reference.count tables id = 0
  · simp [demand, none]
  · simp [demand, none]

/-- A condition that is tested behind a stage is one more check. -/
theorem judged_provided {stage : Stage} {check : Checked Unit} (judged : Judged tables stage check)
    (condition : Bool) (otherwise : Error) :
    Judged tables (stage.provided condition otherwise)
      (check >>= fun _ => demand condition otherwise) := by
  intro outcome reflected
  show (stage.verdict outcome >>= fun _ => _) = _
  rw [judged outcome reflected]
  rfl

/-- An edge is judged by the edges that there are, whatever the order in which they are fetched. -/
theorem judged_unlooped (edge : Edge) :
    Judged tables (.unlooped edge)
      (demand (!tables.edges.contains edge) (.edgeExists edge.parent edge.child) >>= fun _ =>
        demand (!RoleGraph.wouldCreateCycle tables.edges edge.parent edge.child)
          (.cycle edge.parent edge.child)) := by
  refine judged_judging fun outcome reflected => ?_
  obtain ⟨fetched, same, found⟩ := reflected.answered .edges rfl
  have read : outcome.found.mapM Row.edge = .ok fetched := by
    rw [found]
    exact Row.mapM_read fun edge _ => Row.edge_ofEdge edge
  have known : fetched.contains edge = tables.edges.contains edge := by
    rw [Bool.eq_iff_iff, List.contains_iff_mem, List.contains_iff_mem]
    exact same.mem_iff
  rw [read]
  show (if fetched.contains edge then _ else
    if RoleGraph.wouldCreateCycle fetched edge.parent edge.child then _ else _) = _
  rw [known, RoleGraph.wouldCreateCycle_perm same]
  cases tables.edges.contains edge with
  | true => rfl
  | false => cases RoleGraph.wouldCreateCycle tables.edges edge.parent edge.child <;> rfl

/-! ### Exchanges with a server that describes some tables -/

/-- A transaction ends as its checks say, or hands back what it was given. -/
theorem Transacted.ending_of_described (operation : Transacted α)
    (sent : (operation.exchange session).2.sent = session.sent ++ statements)
    (described : Describes tables (session.transcript statements)) (checks : List (Checked Unit))
    (result : Checked α)
    (judged : List.Forall₂ (Judged tables) operation.transaction.stages checks)
    (handed : ∀ outcome, Reflects tables operation.last.statement outcome →
      operation.handed outcome = result) :
    (operation.exchange session).1 = .ofExcept (afterAll checks result) := by
  rw [afterAll_eq]
  obtain ⟨others, told, ends⟩ := operation.exchange_ends session
  obtain rfl : others = statements := List.append_cancel_left (told.symm.trans sent)
  generalize session.transcript others = said at ends described
  generalize (operation.exchange session).1 = ending at ends ⊢
  cases ends with
  | stopped goes =>
    rw [← goes.ending_eq described judged]
    rfl
  | @committed before outcome reply written acknowledged goes =>
    rw [← goes.ending_eq described judged]
    have last : operation.handed outcome = result := handed outcome
      (described (operation.last.statement, outcome) (List.mem_append_right _ List.mem_cons_self))
    exact congrArg Ending.ofExcept last

/-- **Whatever is replied, what a transaction sends begins the same list of statements.** -/
theorem Transacted.sends_script (operation : Transacted α) :
    ∃ script : List Statement, ∀ session : Session, ∃ statements,
      (operation.exchange session).2.sent = session.sent ++ statements ∧
        statements <+: script := by
  refine ⟨operation.transaction.stages.map Stage.statement, fun session => ?_⟩
  obtain ⟨statements, sent, ends⟩ := operation.exchange_ends session
  refine ⟨statements, sent, ?_⟩
  rw [← session.map_fst_transcript statements]
  generalize session.transcript statements = said at ends ⊢
  generalize (operation.exchange session).1 = ending at ends
  cases ends with
  | stopped goes => exact goes.in_order
  | committed _ _ goes => exact goes.in_order

/-- An exchange of one statement ends as the outcome says, which reflects the tables. -/
theorem Sends.ending_of_described {exchange : Session.Exchange α} {statement : Statement}
    {made : Outcome → Checked α} (sends : Sends exchange statement made)
    (unmarked : Mark.ofStatement? statement = none)
    (sent : (exchange session).2.sent = session.sent ++ statements)
    (described : Describes tables (session.transcript statements)) :
    ∃ outcome, Reflects tables statement outcome ∧
      (exchange session).1 = .ofExcept (made outcome) := by
  rw [sends session] at sent ⊢
  obtain rfl : [statement] = statements := List.append_cancel_left sent
  refine ⟨session.next, ?_, rfl⟩
  rw [← Session.answer_unmarked unmarked]
  exact described _ List.mem_cons_self

theorem sends_affected (context : String) (reading : Reading) (statement : Statement) :
    Sends (Session.affected context reading statement) statement fun outcome =>
      outcome.checkedRows context reading >>= fun _ => .ok outcome.touched := by
  intro session
  unfold Session.affected
  rw [bind_apply, Session.send_apply]
  cases session.next <;> rfl

/-- What removes rows ends well if it was about some. -/
theorem sends_ensureAffected (context : String) (otherwise : Error) (statement : Statement) :
    Sends (ensureAffected context otherwise statement) statement fun outcome =>
      (outcome.checkedRows context .plain >>= fun _ => .ok outcome.touched) >>= fun count =>
        demand (count ≠ 0) otherwise := by
  refine (sends_affected context .plain statement).checking fun count session => ?_
  unfold ensure demand
  split <;> rfl

/-- What changes rows hands back the first of them. -/
theorem sends_foundAs (read : Row → Checked α) (context : String) (reading : Reading)
    (otherwise : Error) (statement : Statement) :
    Sends (foundAs read context reading otherwise statement) statement fun outcome =>
      (outcome.checkedRows context reading >>= fun rows => .ok rows.head?) >>=
        (·.elim (.error otherwise) read) := by
  refine (sends_first context reading statement).checking fun row session => ?_
  cases row <;> rfl

/-- Removing rows fails only where there are none. -/
theorem ensureAffected_ending {context : String} {otherwise : Error} {statement : Statement}
    (unmarked : Mark.ofStatement? statement = none)
    (sent : (ensureAffected context otherwise statement session).2.sent =
      session.sent ++ statements)
    (described : Describes tables (session.transcript statements)) {count : Nat}
    (touched : ∀ outcome, Reflects tables statement outcome → outcome.touched = count) :
    (ensureAffected context otherwise statement session).1 =
      .ofExcept (afterAll [demand (count ≠ 0) otherwise] (.ok ())) := by
  obtain ⟨outcome, reflected, ended⟩ :=
    (sends_ensureAffected context otherwise statement).ending_of_described unmarked sent described
  rw [ended, Outcome.checkedRows_iff.mpr ⟨reflected.accepted, rfl⟩, touched outcome reflected]
  exact congrArg Ending.ofExcept (bind_pure (demand (count ≠ 0) otherwise)).symm

/-- Changing a row fails only where there is none, and hands it back as it is changed. -/
theorem foundAs_ending {entity : Type} {read : Row → Checked α} {context : String}
    {reading : Reading} {otherwise : Error} {statement : Statement}
    (unmarked : Mark.ofStatement? statement = none)
    (sent : (foundAs read context reading otherwise statement session).2.sent =
      session.sent ++ statements)
    (described : Describes tables (session.transcript statements)) {entities : List entity}
    {test : entity → Bool} {written : entity → Row} {changed : entity → α}
    (found : ∀ outcome, Reflects tables statement outcome →
      outcome.found = (entities.filter test).map written)
    (back : ∀ entity, read (written entity) = .ok (changed entity)) :
    (foundAs read context reading otherwise statement session).1 =
      .ofExcept ((entities.find? test).elim (.error otherwise) fun entity =>
        .ok (changed entity)) := by
  obtain ⟨outcome, reflected, ended⟩ :=
    (sends_foundAs read context reading otherwise statement).ending_of_described unmarked sent
      described
  rw [ended, Outcome.checkedRows_iff.mpr ⟨reflected.accepted, rfl⟩, found outcome reflected,
    ← List.head?_filter]
  cases entities.filter test with
  | nil => rfl
  | cons entity rest => exact congrArg Ending.ofExcept (back entity)

/-! ### The operations that have rules of their own -/

/-- The operations that have rules of their own. -/
inductive Ruled : Type → Type where
  | deleteResource (id : Id) : Ruled Unit
  | deleteAction (id : Id) : Ruled Unit
  | deleteRole (id : Id) : Ruled Unit
  | unassignRole (user role : Id) : Ruled Unit
  | insertEdge (edge : Edge) : Ruled Unit
  | deleteEdge (edge : Edge) : Ruled Unit
  | deletePermission (role resource action : Id) : Ruled Unit
  | setRoleStatus (id : Id) (status : Status) : Ruled Role
  | setPermissionStatus (id : Id) (status : Status) : Ruled Permission
  | setAttribute (owner : Owner) (id : Id) (key : String) (value : AttributeValue) :
      Ruled Attribute

namespace Ruled

def on {σ : Type} (store : Store σ) : Ruled α → Effect Error σ α
  | .deleteResource id => store.deleteResource id
  | .deleteAction id => store.deleteAction id
  | .deleteRole id => store.deleteRole id
  | .unassignRole user role => store.unassignRole user role
  | .insertEdge edge => store.insertEdge edge
  | .deleteEdge edge => store.deleteEdge edge
  | .deletePermission role resource action => store.deletePermission role resource action
  | .setRoleStatus id status => store.setRoleStatus id status
  | .setPermissionStatus id status => store.setPermissionStatus id status
  | .setAttribute owner id key value => store.setAttribute owner id key value

/-- What an operation writes is read back from its text. -/
def Legible : Ruled α → Prop
  | .setAttribute _ _ _ value => value.Legible
  | _ => True

/-- The rules of an operation on some tables, in the order in which they are tested. -/
def rules (tables : Tables) : Ruled α → List (Checked Unit)
  | .deleteResource id =>
    [demand (tables.resource? id).isSome (.noId .resource id),
      demand (Reference.count tables id .children = 0) (.hasChildren id),
      demand (Reference.count tables id .ofResource = 0) (.referenced .resource id)]
  | .deleteAction id =>
    [demand (tables.action? id).isSome (.noId .action id),
      demand (Reference.count tables id .ofAction = 0) (.referenced .action id)]
  | .deleteRole id =>
    [demand (tables.role? id).isSome (.noId .role id),
      demand (Reference.count tables id .ofRole = 0) (.referenced .role id)]
  | .unassignRole user role =>
    [demand (tables.links.count ⟨user, role⟩ ≠ 0) (.notLinked user role)]
  | .insertEdge edge =>
    [demand (tables.role? edge.parent).isSome (.noId .role edge.parent),
      demand (tables.role? edge.child).isSome (.noId .role edge.child),
      demand (edge.parent ≠ edge.child) (.inheritsFromItself edge.parent),
      demand (!tables.edges.contains edge) (.edgeExists edge.parent edge.child),
      demand (!RoleGraph.wouldCreateCycle tables.edges edge.parent edge.child)
        (.cycle edge.parent edge.child)]
  | .deleteEdge edge => [demand (tables.edges.count edge ≠ 0) (.noEdge edge.parent edge.child)]
  | .deletePermission role resource action =>
    [demand (tables.permissions.countP (·.grants role resource action) ≠ 0)
      (.noGrant role resource action)]
  | .setAttribute owner id _ _ =>
    [demand (tables.hasOwner owner id) (.noId (Tables.ownerEntity owner) id)]
  | .setRoleStatus _ _ | .setPermissionStatus _ _ => []

/-- What an operation hands back where its rules are kept. -/
def handed (tables : Tables) : Ruled α → Checked α
  | .setRoleStatus id status => (tables.role? id).elim (.error (.noId .role id)) fun role =>
      .ok { role with status := status }
  | .setPermissionStatus id status =>
    (tables.permission? id).elim (.error (.noId .permission id)) fun permission =>
      .ok { permission with status := status }
  | .setAttribute owner id key value => .ok ⟨owner, id, key, value, value.type⟩
  | .deleteResource _ | .deleteAction _ | .deleteRole _ | .unassignRole _ _ | .insertEdge _
  | .deleteEdge _ | .deletePermission _ _ _ => .ok ()

/-- What an operation comes to on some tables: the first of its rules that is broken, or what it
hands back. -/
def verdict (tables : Tables) (operation : Ruled α) : Checked α :=
  afterAll (operation.rules tables) (operation.handed tables)

theorem not_any_eq {entity : Type} (entities : List entity) (test : entity → Bool) :
    (!entities.any test) = decide (entities.countP test = 0) := by
  rw [Bool.eq_iff_iff]
  simp [List.countP_eq_zero]

theorem contains_eq {entity : Type} [BEq entity] [LawfulBEq entity] (entities : List entity)
    (member : entity) : entities.contains member = decide (entities.count member ≠ 0) := by
  rw [Bool.eq_iff_iff]
  simp [List.count_eq_zero]

/-- **An operation on tables in memory comes to its verdict.** -/
theorem memory_ending (operation : Ruled α) (tables : Tables) :
    (operation.on Tables.store tables).1 = .ofExcept (operation.verdict tables) := by
  cases operation with
  | deleteResource id =>
    show ((ensure _ _ >>= fun _ => ensure _ _ >>= fun _ => _) tables).1 = _
    rw [not_any_eq, not_any_eq]
    exact ensure_bind_ending _ _ _ _ <| ensure_bind_ending _ _ _ _ <|
      ensure_bind_ending _ _ _ _ rfl
  | deleteAction id =>
    show ((ensure _ _ >>= fun _ => ensure _ _ >>= fun _ => _) tables).1 = _
    rw [not_any_eq]
    exact ensure_bind_ending _ _ _ _ <| ensure_bind_ending _ _ _ _ rfl
  | deleteRole id =>
    show ((ensure _ _ >>= fun _ => ensure _ _ >>= fun _ => _) tables).1 = _
    rw [not_any_eq]
    exact ensure_bind_ending _ _ _ _ <| ensure_bind_ending _ _ _ _ rfl
  | unassignRole user role =>
    show ((ensure _ _ >>= fun _ => _) tables).1 = _
    rw [contains_eq]
    exact ensure_bind_ending _ _ _ _ rfl
  | insertEdge edge =>
    exact ensure_bind_ending _ _ _ _ <| ensure_bind_ending _ _ _ _ <|
      ensure_bind_ending _ _ _ _ <| ensure_bind_ending _ _ _ _ <| ensure_bind_ending _ _ _ _ rfl
  | deleteEdge edge =>
    show ((ensure _ _ >>= fun _ => _) tables).1 = _
    rw [contains_eq]
    exact ensure_bind_ending _ _ _ _ rfl
  | deletePermission role resource action =>
    show ((require (tables.permissions.find? (·.grants role resource action)) _ >>= fun _ => _)
      tables).1 = .ofExcept (demand _ _ >>= fun _ => _)
    have found : (tables.permissions.find? (·.grants role resource action)).isSome =
        decide (tables.permissions.countP (·.grants role resource action) ≠ 0) := by
      rw [Bool.eq_iff_iff]
      simp [List.countP_eq_zero]
    rw [← found]
    cases tables.permissions.find? (·.grants role resource action) <;> rfl
  | setRoleStatus id status =>
    show ((require (tables.role? id) _ >>= fun _ => _) tables).1 =
      .ofExcept ((tables.role? id).elim _ _)
    cases tables.role? id <;> rfl
  | setPermissionStatus id status =>
    show ((require (tables.permission? id) _ >>= fun _ => _) tables).1 =
      .ofExcept ((tables.permission? id).elim _ _)
    cases tables.permission? id <;> rfl
  | setAttribute owner id key value => exact ensure_bind_ending _ _ _ _ rfl

/-- **An operation on a database that describes some tables comes to its verdict on them.** Two of
the stages make two checks each. -/
theorem database_ending (operation : Ruled α) (legible : operation.Legible)
    (sent : (operation.on store session).2.sent = session.sent ++ statements)
    (described : Describes tables (session.transcript statements)) :
    (operation.on store session).1 = .ofExcept (operation.verdict tables) := by
  have bound := Mark.ofStatement?_cons
  cases operation with
  | deleteResource id =>
    exact (Transacted.deleteResource id).ending_of_described sent described
      (.ok () :: (Ruled.deleteResource id).rules tables ++ [.ok (), .ok (), .ok ()]) (.ok ())
      (.cons (judged_accepting _ _ _) <| .cons (judged_locking .resources false id _) <|
        .cons (judged_counting .children id _) <| .cons (judged_counting .ofResource id _) <|
        .cons (judged_accepting _ _ _) <| .cons (judged_accepting _ _ _) <|
        .cons (judged_accepting _ _ _) .nil) fun _ _ => rfl
  | deleteAction id =>
    exact (Transacted.deleteAction id).ending_of_described sent described
      (.ok () :: (Ruled.deleteAction id).rules tables ++ [.ok (), .ok ()]) (.ok ())
      (.cons (judged_accepting _ _ _) <| .cons (judged_locking .actions false id _) <|
        .cons (judged_counting .ofAction id _) <| .cons (judged_accepting _ _ _) <|
        .cons (judged_accepting _ _ _) .nil) fun _ _ => rfl
  | deleteRole id =>
    exact (Transacted.deleteRole id).ending_of_described sent described
      (.ok () :: (Ruled.deleteRole id).rules tables ++ [.ok (), .ok ()]) (.ok ())
      (.cons (judged_accepting _ _ _) <| .cons (judged_locking .roles false id _) <|
        .cons (judged_counting .ofRole id _) <| .cons (judged_accepting _ _ _) <|
        .cons (judged_accepting _ _ _) .nil) fun _ _ => rfl
  | unassignRole user role =>
    refine ensureAffected_ending (bound ..) sent described fun outcome reflected => ?_
    exact reflected.answered (.removeLink ⟨user, role⟩) rfl
  | insertEdge edge =>
    have ended := (Transacted.insertEdge edge).ending_of_described sent described _ (.ok ())
      (.cons (judged_accepting _ _ _) <| .cons (judged_accepting _ _ _) <|
        .cons (judged_locking .roles true edge.parent _) <|
        .cons (judged_provided (judged_locking .roles true edge.child _) _ _) <|
        .cons (judged_unlooped edge) <| .cons (judged_accepting _ _ _) <|
        .cons (judged_accepting _ _ _) .nil) fun _ _ => rfl
    refine ended.trans (congrArg Ending.ofExcept ?_)
    simp only [verdict, rules, afterAll, bind_assoc]
    rfl
  | deleteEdge edge =>
    refine ensureAffected_ending (bound ..) sent described fun outcome reflected => ?_
    exact reflected.answered (.removeEdge edge) rfl
  | deletePermission role resource action =>
    refine ensureAffected_ending (bound ..) sent described fun outcome reflected => ?_
    exact reflected.answered (.removePermission role resource action) rfl
  | setRoleStatus id status =>
    refine foundAs_ending (bound ..) sent described (fun outcome reflected => ?_)
      fun role => Row.role_ofRole _
    exact reflected.answered (.changeRole id status) rfl
  | setPermissionStatus id status =>
    refine foundAs_ending (bound ..) sent described (fun outcome reflected => ?_)
      fun permission => Row.permission_ofPermission _
    exact reflected.answered (.changePermission id status) rfl
  | setAttribute owner id key value =>
    let written := (Transacted.setAttribute owner id key value).last
    have found (outcome : Outcome) (reflected : Reflects tables written.statement outcome) :
        outcome.found = [Row.ofFact ⟨owner, id, key, value, value.type⟩] :=
      reflected.answered (.setFact owner id key value) rfl
    have accepted : Judged tables written (.ok ()) := by
      refine judged_judging fun outcome reflected => ?_
      rw [found outcome reflected]
      rfl
    have locked : Judged tables
        (.locking (ownerTable owner).1 "SHARE" id (.noId (ownerTable owner).2 id))
        (demand (tables.hasOwner owner id) (.noId (Tables.ownerEntity owner) id)) := by
      cases owner with
      | user => exact judged_locking .users true id _
      | resource => exact judged_locking .resources true id _
    have judged : List.Forall₂ (Judged tables)
        (Transacted.setAttribute owner id key value).transaction.stages
        [.ok (), demand (tables.hasOwner owner id) (.noId (Tables.ownerEntity owner) id), .ok (),
          .ok ()] :=
      .cons (judged_accepting _ _ _) <| .cons locked <| .cons accepted <|
        .cons (judged_accepting _ _ _) .nil
    refine (Transacted.setAttribute owner id key value).ending_of_described sent described
      (.ok () :: (Ruled.setAttribute owner id key value).rules tables ++ [.ok (), .ok ()])
      (.ok ⟨owner, id, key, value, value.type⟩) judged fun outcome reflected => ?_
    show handing Row.fact _ outcome = _
    unfold handing
    rw [found outcome reflected]
    exact Row.fact_ofFact rfl legible

/-- **Whatever is replied, what an operation sends begins the same list of statements.** -/
theorem sends_prefix (operation : Ruled α) :
    ∃ script : List Statement, ∀ session : Session, ∃ statements,
      (operation.on store session).2.sent = session.sent ++ statements ∧ statements <+: script := by
  have single {exchange : Session.Exchange α} {statement : Statement}
      {made : Outcome → Checked α} (sends : Sends exchange statement made) :
      ∃ script : List Statement, ∀ session : Session, ∃ statements,
        (exchange session).2.sent = session.sent ++ statements ∧ statements <+: script :=
    ⟨[statement], fun session => ⟨[statement], congrArg Session.sent (sends.sent session),
      List.prefix_rfl⟩⟩
  cases operation with
  | deleteResource id => exact (Transacted.deleteResource id).sends_script
  | deleteAction id => exact (Transacted.deleteAction id).sends_script
  | deleteRole id => exact (Transacted.deleteRole id).sends_script
  | unassignRole user role => exact single (sends_ensureAffected _ _ _)
  | insertEdge edge => exact (Transacted.insertEdge edge).sends_script
  | deleteEdge edge => exact single (sends_ensureAffected _ _ _)
  | deletePermission role resource action => exact single (sends_ensureAffected _ _ _)
  | setRoleStatus id status => exact single (sends_foundAs _ _ _ _ _)
  | setPermissionStatus id status => exact single (sends_foundAs _ _ _ _ _)
  | setAttribute owner id key value =>
    exact (Transacted.setAttribute owner id key value).sends_script

end Ruled

/-- **Both stores enforce the same rules.** From a server whose replies describe some tables, an
operation ends as on these tables in memory: with the same entity, or with the same error. And for
any tables there is a server whose replies describe them. -/
theorem rules_alike (operation : Ruled α) (legible : operation.Legible) (tables : Tables) :
    (∀ (session : Session) (statements : List Statement),
      (operation.on store session).2.sent = session.sent ++ statements →
      Describes tables (session.transcript statements) →
        (operation.on store session).1 = (operation.on Tables.store tables).1) ∧
      ∃ (session : Session) (statements : List Statement),
        (operation.on store session).2.sent = session.sent ++ statements ∧
          Describes tables (session.transcript statements) := by
  constructor
  · intro session statements sent described
    rw [operation.database_ending legible sent described, operation.memory_ending tables]
  · obtain ⟨script, begins⟩ := operation.sends_prefix
    obtain ⟨session, describes⟩ := exists_describing tables script
    obtain ⟨statements, sent, begun⟩ := begins session
    exact ⟨session, statements, sent, describes statements begun⟩

/-- An edge would close a circle of three roles: the server fetches the edges in another order, and
refuses it as the tables in memory do. -/
theorem rules_alike_circle :
    let tables : Tables :=
      { roles := [⟨1, "clerk", none, .active⟩, ⟨2, "head", none, .active⟩,
          ⟨3, "chief", none, .active⟩]
        edges := [⟨3, 2⟩, ⟨2, 1⟩] }
    let session : Session :=
      { replies := [⟨none, .affected 0⟩, ⟨none, .rows [[("id", .bigint 1)]]⟩,
          ⟨none, .rows [[("id", .bigint 3)]]⟩,
          ⟨none, .rows [Row.ofEdge ⟨2, 1⟩, Row.ofEdge ⟨3, 2⟩]⟩]
        otherwise := .affected 0
        sent := [] }
    (Ruled.insertEdge ⟨1, 3⟩).Legible ∧
      (store.insertEdge ⟨1, 3⟩ session).1 = (Tables.store.insertEdge ⟨1, 3⟩ tables).1 ∧
      (Tables.store.insertEdge ⟨1, 3⟩ tables).1 = .error (.cycle 1 3) := by
  intro tables session
  let lock : Statement := ⟨"LOCK TABLE authz_role_hierarchy IN SHARE ROW EXCLUSIVE MODE", []⟩
  let statements : List Statement :=
    [Mark.start.statement, lock, (Inquiry.lock .roles true 1).statement,
      (Inquiry.lock .roles true 3).statement, Inquiry.edges.statement]
  have sent : ((Ruled.insertEdge ⟨1, 3⟩).on store session).2.sent =
      session.sent ++ statements := rfl
  have locked : Reflects tables lock (.affected 0) := by
    refine ⟨nofun, fun inquiry same => ?_⟩
    cases inquiry with
    | edges => exact absurd (congrArg Statement.text same) (by decide)
    | _ => cases congrArg Statement.parameters same
  have parent : Reflects tables (Inquiry.lock .roles true 1).statement
      (.rows [[("id", .bigint 1)]]) := reflects_inquiry nofun (iff_of_true nofun rfl)
  have child : Reflects tables (Inquiry.lock .roles true 3).statement
      (.rows [[("id", .bigint 3)]]) := reflects_inquiry nofun (iff_of_true nofun rfl)
  have fetched : Reflects tables Inquiry.edges.statement
      (.rows [Row.ofEdge ⟨2, 1⟩, Row.ofEdge ⟨3, 2⟩]) :=
    reflects_inquiry nofun ⟨[⟨2, 1⟩, ⟨3, 2⟩], .swap _ _ _, rfl⟩
  have described : Describes tables (session.transcript statements) := by
    refine List.forall_mem_cons.mpr ⟨reflects_mark (Mark.ofStatement?_statement .start) nofun, ?_⟩
    refine List.forall_mem_cons.mpr ⟨locked, ?_⟩
    refine List.forall_mem_cons.mpr ⟨parent, ?_⟩
    refine List.forall_mem_cons.mpr ⟨child, ?_⟩
    exact List.forall_mem_singleton.mpr fetched
  obtain ⟨alike, -⟩ := rules_alike (.insertEdge ⟨1, 3⟩) trivial tables
  exact ⟨trivial, alike session statements sent described, rfl⟩

end AccessControl.Sql

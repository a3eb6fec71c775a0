/-
**The newest entries of the audit log.**

* `AuditQuery.Matches` — an entry that a query is for: any one, or one of the user that it names.
* `AuditQuery.Newest` — what the newest entries of a log are that a query is for, said by their ids.
* `Tables.auditEntries_append`, `Tables.auditEntries_fewer` — what the answers to one query before
  and after the log has grown, and to two limits, have to do with each other.
* `Authority.Later` — the worlds that operations and calls from elsewhere make of a given one.
* `Authority.recent_entries_newest` — **a query is answered by the newest entries that it is for,
  the newest first, and later by the new ones in front of these.**
-/

import AccessControl.Proofs.Audit.History

namespace AccessControl

open Check (World)
open Effect

/-! ### What a query is for -/

namespace AuditQuery

/-- An entry that a query is for: any one, unless the query names a user. -/
def Matches (query : AuditQuery) (entry : AuditEntry) : Prop :=
  ∀ user, query.user = some user → entry.user = user

variable {query : AuditQuery} {entry : AuditEntry}

/-- The test of an entry asks whether the query is for it. -/
theorem accepts_iff : query.accepts entry = true ↔ query.Matches entry := by
  unfold accepts Matches
  cases query.user with
  | some user =>
    rw [decide_eq_true_iff]
    exact ⟨fun own _ same => Option.some.inj same ▸ own, fun own => own user rfl⟩
  | none => exact iff_of_true rfl nofun

instance : Decidable (query.Matches entry) := decidable_of_iff _ accepts_iff

theorem accepts_eq : query.accepts = fun entry => decide (query.Matches entry) :=
  funext fun _ => Bool.eq_iff_iff.mpr (accepts_iff.trans decide_eq_true_iff.symm)

/-- **The newest entries of a log that a query is for**, the newest first: no more of them than it
asks for, and none left out that is newer than one of them. -/
structure Newest (query : AuditQuery) (log entries : List AuditEntry) : Prop where
  recorded : ∀ entry ∈ entries, entry ∈ log ∧ query.Matches entry
  descending : (entries.map AuditEntry.id).Pairwise (· > ·)
  count : entries.length = min query.limit (log.countP fun entry => query.Matches entry)
  older : ∀ entry ∈ log, query.Matches entry → entry ∉ entries →
    ∀ shown ∈ entries, entry.id < shown.id

end AuditQuery

/-! ### What is answered -/

namespace Tables

variable {tables after : Tables} {query : AuditQuery}

theorem auditEntries_eq (tables : Tables) (query : AuditQuery) :
    tables.auditEntries query =
      (tables.audit.filter fun entry => query.Matches entry).reverse.take query.limit := by
  unfold auditEntries
  rw [AuditQuery.accepts_eq, List.filter_reverse]

theorem auditEntries_fewer {fewer : Nat} (within : fewer ≤ query.limit) :
    tables.auditEntries { query with limit := fewer } =
      (tables.auditEntries query).take fewer := by
  unfold auditEntries
  rw [List.take_take, Nat.min_eq_left within]
  rfl

/-- **New entries come in front of the ones before**, as far as there is room. -/
theorem auditEntries_append {new : List AuditEntry} (grown : after.audit = tables.audit ++ new) :
    after.auditEntries query =
      ((new.filter fun entry => query.Matches entry).reverse ++
        tables.auditEntries query).take query.limit := by
  rw [auditEntries_eq, auditEntries_eq, grown, List.filter_append, List.reverse_append,
    List.take_append, List.take_append, List.take_take, Nat.min_eq_left (Nat.sub_le _ _)]

/-- The ids of the log ascend, so what comes first in an answer has the larger id. -/
theorem Sound.matching_descend (sound : Sound tables) (query : AuditQuery) :
    ((tables.audit.filter fun entry => query.Matches entry).reverse.map AuditEntry.id).Pairwise
      (· > ·) := by
  rw [List.map_reverse, List.pairwise_reverse]
  have ascending := sound.audit.issued.ascending
  exact ascending.sublist (List.filter_sublist.map AuditEntry.id)

/-- **The answer to a query are the newest entries that it is for.** What is left out stands behind
everything that is taken. -/
theorem Sound.auditEntries_newest (sound : Sound tables) (query : AuditQuery) :
    query.Newest tables.audit (tables.auditEntries query) := by
  have descending := sound.matching_descend query
  rw [auditEntries_eq]
  have member (entry : AuditEntry) :
      entry ∈ (tables.audit.filter fun entry => query.Matches entry).reverse ↔
        entry ∈ tables.audit ∧ query.Matches entry := by
    rw [List.mem_reverse, List.mem_filter, decide_eq_true_iff]
  have count : (tables.audit.filter fun entry => query.Matches entry).reverse.length =
      tables.audit.countP fun entry => query.Matches entry := by
    rw [List.length_reverse, List.countP_eq_length_filter]
  generalize (tables.audit.filter fun entry => query.Matches entry).reverse = matching
    at descending member count ⊢
  refine ⟨fun entry shown => (member entry).mp (List.mem_of_mem_take shown), ?_, ?_, ?_⟩
  · rw [List.map_take]
    exact descending.sublist (List.take_sublist _ _)
  · rw [List.length_take, count]
  · intro entry recorded own left shown here
    rw [← List.take_append_drop query.limit matching, List.map_append, List.pairwise_append]
      at descending
    have among : entry ∈ matching.take query.limit ++ matching.drop query.limit := by
      rw [List.take_append_drop]
      exact (member entry).mpr ⟨recorded, own⟩
    have behind : entry ∈ matching.drop query.limit := (List.mem_append.mp among).resolve_left left
    exact descending.2.2 _ (List.mem_map_of_mem here) _ (List.mem_map_of_mem behind)

end Tables

/-! ### How it goes on -/

namespace Authority

/-- The worlds that operations, and calls of the store from elsewhere, make of a given one, whatever
each comes to. -/
inductive Later (authority : Authority Tables) (world : World Tables) : World Tables → Prop where
  | now : Later authority world world
  | perform {between : World Tables} (operation : Operation)
      (before : Later authority world between) :
      Later authority world (authority.perform operation between).2
  | call {between : World Tables} (call : Store.Call) (before : Later authority world between) :
      Later authority world ((authority.store.call call between.1).2, between.2)

variable {settings : Settings} {world after : World Tables}

theorem call_grows (call : Store.Call) (tables : Tables) :
    tables.audit <+: (Tables.store.call call tables).2.audit := by
  rcases Tables.takes_call call tables with alone | ⟨-, step⟩
  · exact congrArg Tables.audit alone ▸ List.prefix_rfl
  · exact step.audit_grows

theorem Later.grows (later : (ofStore Tables.store settings).Later world after) :
    world.1.audit <+: after.1.audit := by
  induction later with
  | now => exact List.prefix_rfl
  | perform operation _ ih => exact ih.trans (audit_grows operation)
  | call call _ ih => exact ih.trans (call_grows call _)

theorem perform_recentEntries (settings : Settings) (query : AuditQuery) (world : World Tables) :
    (ofStore Tables.store settings).perform (.recentEntries query) world =
      (.value (.entries (world.1.auditEntries query)), world) :=
  onTables_apply _ _ world

/-- **The newest entries.** In a reachable world a query for the log is answered by the newest
entries that it is for, in the order of their descending ids: as many as it asks for or as there
are, and none is left out that is newer than one of them. A smaller limit is answered by the first
ones of these. However it goes on, entries are only added to the log, and the same query is then
answered by the new ones that it is for, the newest first, and behind them the ones before, as far
as there is room. -/
theorem recent_entries_newest (reachable : (ofStore Tables.store settings).Reachable world)
    (query : AuditQuery) :
    let authority := ofStore Tables.store settings
    ∃ entries,
      authority.perform (.recentEntries query) world = (.value (.entries entries), world) ∧
      query.Newest world.1.audit entries ∧
      (∀ fewer ≤ query.limit,
        authority.perform (.recentEntries { query with limit := fewer }) world =
          (.value (.entries (entries.take fewer)), world)) ∧
      ∀ after, authority.Later world after → ∃ new, after.1.audit = world.1.audit ++ new ∧
        authority.perform (.recentEntries query) after =
          (.value (.entries (((new.filter fun entry => query.Matches entry).reverse ++
            entries).take query.limit)), after) := by
  intro authority
  refine ⟨world.1.auditEntries query, perform_recentEntries settings query world,
    reachable.keeping.1.sound.auditEntries_newest query, fun fewer within => ?_,
    fun after later => ?_⟩
  · rw [← Tables.auditEntries_fewer within]
    exact perform_recentEntries settings _ world
  · obtain ⟨new, grown⟩ := later.grows
    refine ⟨new, grown.symm, ?_⟩
    rw [← Tables.auditEntries_append grown.symm]
    exact perform_recentEntries settings query after

def asks (user : Id) : Operation := .check { user, resource := "page", action := "edit" }

/-- Two users ask for the same, one of them twice. -/
def visits : List Operation :=
  [.createUser "ann", .createUser "bob", .createResource { name := "page" },
    .createAction { name := "edit" }, asks 1, asks 2, asks 1]

/-- The second user is passed over, and what is asked next drives out the oldest entry. -/
theorem recent_entries_newest_visits :
    let authority := ofStore Tables.store {}
    let world := (authority.run visits (Tables.empty, authority.engine)).2
    let after := (authority.perform (asks 1) world).2
    let query : AuditQuery := ⟨some 1, 2⟩
    authority.Reachable world ∧ authority.Later world after ∧
      after.1.audit.map AuditEntry.id = [5, 6, 7, 8] ∧
      ∃ entries,
        authority.perform (.recentEntries query) world = (.value (.entries entries), world) ∧
        entries.map AuditEntry.id = [7, 5] ∧ query.Newest world.1.audit entries ∧
        ∃ new, after.1.audit = world.1.audit ++ new ∧
          authority.perform (.recentEntries query) after =
            (.value (.entries (((new.filter fun entry => query.Matches entry).reverse ++
              entries).take 2)), after) := by
  intro authority world after query
  have reachable : authority.Reachable world := Reachable.start.run visits
  have later : authority.Later world after := .perform _ .now
  obtain ⟨entries, answered, newest, -, onward⟩ := recent_entries_newest reachable query
  have same : world.1.auditEntries query = entries := by
    rw [perform_recentEntries] at answered
    exact Answer.entries.inj (Ending.value.inj (congrArg Prod.fst answered))
  refine ⟨reachable, later, by decide +kernel, entries, answered, ?_, newest, onward after later⟩
  rw [← same]
  decide +kernel

end Authority

end AccessControl

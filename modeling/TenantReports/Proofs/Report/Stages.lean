import TenantReports.Gateway.Operation
import TenantReports.Proofs.Report.Rollback

/-!
# The stages of a report

**What is exchanged to answer a report**, and what comes of it: the script is loaded, it is checked
against the convention of the database, and it runs. The first stage that fails is the last.

* `Loaded`: what is exchanged to load a script, one request or one file at most.
* `Ran`: what is exchanged to run one. The database is only asked if the script is for its
  convention.
* `Executed`: both together. What the whitelist rejects asks for nothing (`Executed.eq_nil`).
* `executed_of_leads_report`: a report is answered so, and its run is counted once, at the end.
-/

namespace TenantReports

variable {reporting : Reporting} {session : Session} {request : ReportRequest}
  {source : ReportSource} {url script : String} {log : List (Exchange Ask.Answer)}
  {outcome : Except Failure ReportResponse}

/-! ### Exchanges with one database -/

/-- An exchange with a database, as one of the gateway. -/
def Exchange.on (handle : Handle) (exchange : Exchange DbAsk.Answer) : Exchange Ask.Answer :=
  ⟨.database handle exchange.1, exchange.2⟩

/-- A computation that asks one database is answered by that database alone. -/
theorem leads_on {α : Type} {task : DbTask α} {handle : Handle} {a : α}
    (leads : (task.on handle).Leads log (.done a)) :
    ∃ inner, task.Leads inner (.done a) ∧ log = inner.map (Exchange.on handle) := by
  induction task generalizing log with
  | done b =>
    obtain ⟨rfl, rfl⟩ := leads.of_done_finished
    exact ⟨[], .refl _, rfl⟩
  | ask question next ih =>
    obtain ⟨answer, rest, rfl, goesOn⟩ := leads.of_ask_finished
    obtain ⟨inner, answered, rfl⟩ := ih answer goesOn
    exact ⟨⟨question, answer⟩ :: inner, .ask answered, rfl⟩

/-! ### Loading -/

/-- **What is exchanged to load a script**, and what comes of it. -/
inductive Loaded (source : ReportSource) (url : String) :
    List (Exchange Ask.Answer) → Except Failure String → Prop
  | rejected {failure : Failure} (rejects : source.whitelist.check url = .error failure) :
    Loaded source url [] (.error failure)
  /-- No script can be under the address. -/
  | unnamed (allowed : source.whitelist.check url = .ok ()) {error : FetchError}
    (reason : error = .scheme ∨ error = .path ∨ error = .nul) :
    Loaded source url [] (.error (error.toFailure url))
  | fetched (allowed : source.whitelist.check url = .ok ()) {target : Net.WebUrl}
    (web : Net.Url.ofText? url = some (.web target)) (outcome : Net.Outcome) :
    Loaded source url [⟨.fetch target, outcome⟩]
      (ReportSource.textOfOutcome url target.text outcome)
  | read (allowed : source.whitelist.check url = .ok ()) {path : List Char}
    (file : ReportSource.relativePath? url = some path)
    (content : Except SystemError (List UInt8)) :
    Loaded source url [⟨.read (ReportSource.under source.root path), content⟩]
      ((ReportSource.textOfFile content).mapError fun error => error.toFailure url)

theorem loaded_of_leads_readFile (allowed : source.whitelist.check url = .ok ())
    {result : Except Failure String} (leads : (source.readFile url).Leads log (.done result)) :
    Loaded source url log result := by
  unfold ReportSource.readFile at leads
  split at leads
  · obtain ⟨rfl, rfl⟩ := leads.of_done_finished
    exact .unnamed allowed (.inr (.inl rfl))
  · next path file =>
    dsimp only at leads
    split at leads
    · obtain ⟨rfl, rfl⟩ := leads.of_done_finished
      exact .unnamed allowed (.inr (.inr rfl))
    · obtain ⟨content, rest, rfl, goesOn⟩ := leads.of_ask_finished
      obtain ⟨rfl, rfl⟩ := goesOn.of_done_finished
      exact .read allowed file content

theorem loaded_of_leads {result : Except Failure String}
    (leads : (source.load url).Leads log (.done result)) : Loaded source url log result := by
  unfold ReportSource.load at leads
  split at leads
  · next failure rejects =>
    obtain ⟨rfl, rfl⟩ := leads.of_done_finished
    exact .rejected rejects
  · next allowed =>
    unfold ReportSource.fetch at leads
    split at leads
    · obtain ⟨rfl, rfl⟩ := leads.of_done_finished
      exact .unnamed allowed (.inl rfl)
    · exact loaded_of_leads_readFile allowed leads
    · next target web =>
      obtain ⟨outcome, rest, rfl, goesOn⟩ := leads.of_ask_finished
      obtain ⟨rfl, rfl⟩ := goesOn.of_done_finished
      exact .fetched allowed web outcome

/-- **For an address that the whitelist rejects, nothing is asked.** -/
theorem Loaded.eq_nil {result : Except Failure String} (loaded : Loaded source url log result)
    {failure : Failure} (rejects : source.whitelist.check url = .error failure) :
    log = [] ∧ result = .error failure := by
  cases loaded with
  | rejected rejects' =>
    rw [rejects] at rejects'
    cases rejects'
    exact ⟨rfl, rfl⟩
  | unnamed allowed | fetched allowed | read allowed =>
    rw [rejects] at allowed
    cases allowed

/-! ### Running -/

/-- **What is exchanged to run a script**, and what comes of it. -/
inductive Ran (reporting : Reporting) (session : Session) (request : ReportRequest)
    (script : String) : List (Exchange Ask.Answer) → Except Failure ReportResponse → Prop
  /-- The script has no marker, or one for no convention. -/
  | unmarked {failure : Failure} (unmarked : Marker.ofScript script = .error failure) :
    Ran reporting session request script [] (.error failure)
  /-- The script is for another convention. -/
  | unfit {marker : Marker} (marked : Marker.ofScript script = .ok marker)
    (unfit : marker.dialect ≠ session.dialect) :
    Ran reporting session request script [] (.error ⟨.dialectMismatch,
      "cannot run " ++ marker.dialect.displayName ++ " report in " ++ session.dialect.displayName⟩)
  | ran {marker : Marker} (marked : Marker.ofScript script = .ok marker)
    (fits : marker.dialect = session.dialect) {inner : List (Exchange DbAsk.Answer)}
    {rows : Except Failure RawRows}
    (rolledBack : RolledBack ⟨marker, registeredScript session.dialect script,
      invocation marker.function request.params request.limit⟩ reporting.queryLimit inner rows) :
    Ran reporting session request script (inner.map (Exchange.on session.database))
      (rows.map fun rows => ReportResponse.ofRecords rows.ordered)

theorem ran_of_leads
    (leads : (runScript session request reporting.queryLimit script).Leads log (.done outcome)) :
    Ran reporting session request script log outcome := by
  unfold runScript at leads
  cases marked : Marker.ofScript script with
  | error failure =>
    rw [prepare_of_unmarked marked] at leads
    obtain ⟨rfl, rfl⟩ := leads.of_done_finished
    exact .unmarked marked
  | ok marker =>
    rw [prepare_of_marker marked] at leads
    by_cases fits : marker.dialect = session.dialect
    · rw [if_pos fits] at leads
      obtain ⟨rows, first, second, rfl, runs, ends⟩ := leads.of_bind_finished
      obtain ⟨rfl, rfl⟩ := ends.of_done_finished
      obtain ⟨inner, answered, rfl⟩ := leads_on runs
      rw [List.append_nil]
      exact .ran marked fits (rolledBack_of_leads answered)
    · rw [if_neg fits] at leads
      obtain ⟨rfl, rfl⟩ := leads.of_done_finished
      exact .unfit marked fits

/-! ### Both -/

/-- **What is exchanged to load a script and to run it**, and what comes of it. -/
inductive Executed (reporting : Reporting) (session : Session) (request : ReportRequest) :
    List (Exchange Ask.Answer) → Except Failure ReportResponse → Prop
  | unloaded {log : List (Exchange Ask.Answer)} {failure : Failure}
    (loaded : Loaded reporting.source request.url log (.error failure)) :
    Executed reporting session request log (.error failure)
  | loaded {script : String} {first second : List (Exchange Ask.Answer)}
    {outcome : Except Failure ReportResponse}
    (loaded : Loaded reporting.source request.url first (.ok script))
    (ran : Ran reporting session request script second outcome) :
    Executed reporting session request (first ++ second) outcome

theorem executed_of_leads
    (leads : (fetchAndRun reporting session request).Leads log (.done outcome)) :
    Executed reporting session request log outcome := by
  obtain ⟨found, first, second, rfl, loads, goesOn⟩ := leads.of_bind_finished
  cases found with
  | error failure =>
    obtain ⟨rfl, rfl⟩ := goesOn.of_done_finished
    rw [List.append_nil]
    exact .unloaded (loaded_of_leads loads)
  | ok script => exact .loaded (loaded_of_leads loads) (ran_of_leads goesOn)

theorem Executed.eq_nil (executed : Executed reporting session request log outcome)
    {failure : Failure} (rejects : reporting.source.whitelist.check request.url = .error failure) :
    log = [] ∧ outcome = .error failure := by
  cases executed with
  | unloaded loaded =>
    obtain ⟨rfl, same⟩ := loaded.eq_nil rejects
    cases same
    exact ⟨rfl, rfl⟩
  | loaded loaded ran =>
    obtain ⟨-, same⟩ := loaded.eq_nil rejects
    cases same

/-- **A report is answered so, and its run is counted once**, under the name of its outcome. -/
theorem executed_of_leads_report
    (leads : (report reporting session request).Leads log (.done outcome)) :
    ∃ before, Executed reporting session request before outcome ∧
      log = before ++ [⟨.observe (.reportRun (outcomeName outcome)), ()⟩] := by
  obtain ⟨found, before, last, rfl, executes, counts⟩ := leads.of_bind_finished
  obtain ⟨counted, rest, rfl, ends⟩ := counts.of_ask_finished
  obtain ⟨rfl, rfl⟩ := ends.of_done_finished
  exact ⟨before, executed_of_leads executes, rfl⟩

end TenantReports

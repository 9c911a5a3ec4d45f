import TenantReports.Proofs.Gateway.Answering
import TenantReports.Proofs.Gateway.Order

/-!
# How a request for a report is answered

**What is exchanged to answer a request for a report, and in which order**, whatever is answered and
whatever is kept. Each stage is entered only when the ones before it succeeded, and the first
failure is the response.

* `AnsweredReport`: what is exchanged for a request, with the response and what is kept then.
* `answeredReport_of_leads`: a request for a report is answered in one of these ways.
* `StagedReport`: each effect comes at most once and in order, a body that is not understood or an
  address that the whitelist rejects asks for nothing, and a transaction is only begun for a script
  that was loaded and fits the database.
* `staged_reports`: so it is for every request.
-/

namespace TenantReports

variable {gateway : Gateway} {state after : GatewayState} {log : List (Exchange Ask.Answer)}

/-! ### Requests for reports -/

/-- A request for a report. -/
def reportsPost (query : Option String) (headers : List (String × List UInt8))
    (body : List UInt8) : Request :=
  ⟨"POST", Route.reports.path, query, headers, body⟩

/-- How a response to a request for a report is counted. -/
def countedReport (status : Nat) (timed : Bool) : Exchange Ask.Answer :=
  ⟨.observe (.request Route.reports.path "POST" status timed), ()⟩

/-- **What is exchanged for a request for a report**, with the response and what is kept then. -/
inductive AnsweredReport (gateway : Gateway) (headers : List (String × List UInt8))
    (body : List UInt8) (state : GatewayState) :
    List (Exchange Ask.Answer) → Response → GatewayState → Prop
  | overlong (long : readBody ReportRequest.ofTree? body = .error .length) :
    AnsweredReport gateway headers body state []
      (.plain 413 "Failed to buffer the request body: length limit exceeded") state
  | unread {failure : Failure}
    (unreadable : readBody ReportRequest.ofTree? body = .error (.body failure)) :
    AnsweredReport gateway headers body state [countedReport failure.status false]
      (.ofFailure failure) state
  | unresolved {report : ReportRequest} {before : List (Exchange Ask.Answer)} {failure : Failure}
    (read : readBody ReportRequest.ofTree? body = .ok report)
    (resolved : Resolved gateway.environment (.ofHeaders headers) state.registry before
      (.error failure)) (registry : Registry) :
    AnsweredReport gateway headers body state (before ++ [countedReport failure.status true])
      (.ofFailure failure) ⟨registry, state.columns⟩
  | reported {report : ReportRequest} {before during : List (Exchange Ask.Answer)}
    {session : Session} {outcome : Except Failure ReportResponse}
    (read : readBody ReportRequest.ofTree? body = .ok report)
    (resolved : Resolved gateway.environment (.ofHeaders headers) state.registry before
      (.ok session))
    (executed : Executed gateway.reporting session report during outcome) (registry : Registry) :
    AnsweredReport gateway headers body state
      (before ++ (during ++ [⟨.observe (.reportRun (outcomeName outcome)), ()⟩,
        countedReport (Response.ofOutcome (outcome.map .report)).status true]))
      (.ofOutcome (outcome.map .report)) ⟨registry, state.columns⟩

section Answered

variable {query : Option String} {headers : List (String × List UInt8)} {body : List UInt8}
  {response : Response}

theorem serve_reportsPost :
    gateway.serve (reportsPost query headers body) state =
      gateway.serveRoute .reports (reportsPost query headers body) state :=
  serve_of_takes rfl (show Route.reports.takes "POST" = true by decide)
    (show "POST" ≠ "HEAD" by decide)

/-- **A request for a report is answered in one of these ways.** -/
theorem answeredReport_of_leads
    (leads : (gateway.serve (reportsPost query headers body) state).Leads log
      (.done (response, after))) :
    AnsweredReport gateway headers body state log response after := by
  have operation : Route.operation .reports (reportsPost query headers body) =
      (readBody ReportRequest.ofTree? body).map fun report => some (.report report) := rfl
  rw [serve_reportsPost] at leads
  cases answered_of_leads leads with
  | misnamed reads => exact absurd (refused_of_map (operation ▸ reads)) (readBody_ne_query _ body)
  | overlong reads => exact .overlong (refused_of_map (operation ▸ reads))
  | unread reads => exact .unread (refused_of_map (operation ▸ reads))
  | own reads =>
    obtain ⟨report, -, same⟩ := read_of_map (operation ▸ reads)
    cases same
  | unresolved reads resolved registry =>
    obtain ⟨report, read, -⟩ := read_of_map (operation ▸ reads)
    exact .unresolved read resolved registry
  | performed reads resolved runs registry =>
    obtain ⟨report, read, same⟩ := read_of_map (operation ▸ reads)
    cases same
    obtain ⟨outcome, same, reports⟩ := runs.of_map_finished
    cases same
    obtain ⟨during, executed, rfl⟩ := executed_of_leads_report reports
    simp only [List.append_assoc, List.cons_append, List.nil_append]
    exact .reported read resolved executed registry

/-! ### What holds of every answer -/

/-- A question to a database that belongs to a transaction. -/
def DbAsk.InTransaction : DbAsk → Prop
  | .query _ _ => False
  | .begin | .setTimeout _ | .script _ | .txQuery _ _ | .rollback => True

theorem DbAsk.InTransaction.stage {question : DbAsk} (inside : question.InTransaction)
    (handle : Handle) :
    5 ≤ (Ask.database handle question).stage ∧ (Ask.database handle question).stage < 10 := by
  cases question with
  | query => cases inside
  | begin => exact (by decide : 5 ≤ 5 ∧ 5 < 10)
  | setTimeout => exact (by decide : 5 ≤ 6 ∧ 6 < 10)
  | script => exact (by decide : 5 ≤ 7 ∧ 7 < 10)
  | txQuery => exact (by decide : 5 ≤ 8 ∧ 8 < 10)
  | rollback => exact (by decide : 5 ≤ 9 ∧ 9 < 10)

/-- **The stages of a request for a report**, as they show in what is exchanged. -/
structure StagedReport (gateway : Gateway) (headers : List (String × List UInt8))
    (body : List UInt8) (state : GatewayState) (log : List (Exchange Ask.Answer))
    (response : Response) (after : GatewayState) : Prop where
  answered : AnsweredReport gateway headers body state log response after
  /-- Everything is asked at most once, and in the order of the stages. -/
  ordered : (stages log).Pairwise (· < ·)
  /-- For a body that is not understood, only the response is counted. -/
  unread : ∀ refusal, readBody ReportRequest.ofTree? body = .error refusal →
    after = state ∧ ∀ exchange ∈ log, ∃ status, exchange = countedReport status false
  /-- For an address that the whitelist rejects, nothing is loaded and no transaction begun. -/
  rejected : ∀ report failure, readBody ReportRequest.ofTree? body = .ok report →
    gateway.reporting.source.whitelist.check report.url = .error failure →
      (∀ url outcome, (⟨.fetch url, outcome⟩ : Exchange Ask.Answer) ∉ log) ∧
      (∀ path content, (⟨.read path, content⟩ : Exchange Ask.Answer) ∉ log) ∧
      ∀ handle question (answer : question.Answer), question.InTransaction →
        (⟨.database handle question, answer⟩ : Exchange Ask.Answer) ∉ log
  /-- A transaction is only begun when all stages before it succeeded. -/
  begun : ∀ handle question (answer : question.Answer), question.InTransaction →
    (⟨.database handle question, answer⟩ : Exchange Ask.Answer) ∈ log →
      ∃ report before session loading script marker running rest,
        readBody ReportRequest.ofTree? body = .ok report ∧
        log = before ++ (loading ++ running ++ rest) ∧
        Resolved gateway.environment (.ofHeaders headers) state.registry before (.ok session) ∧
        Loaded gateway.reporting.source report.url loading (.ok script) ∧
        Marker.ofScript script = .ok marker ∧ marker.dialect = session.dialect ∧
        handle = session.database ∧
        (⟨.database handle question, answer⟩ : Exchange Ask.Answer) ∈ running

theorem between_countedReport (status : Nat) (timed : Bool) :
    Between 11 12 (stages [countedReport status timed]) :=
  .singleton (Nat.le_refl 11) (Nat.lt_succ_self 11)

theorem between_counts (label : String) (status : Nat) :
    Between 10 12 (stages [⟨.observe (.reportRun label), ()⟩, countedReport status true]) :=
  (⟨by decide, by decide⟩ : Between 10 12 [10, 11])

namespace AnsweredReport

variable (answered : AnsweredReport gateway headers body state log response after)
include answered

theorem between : Between 0 12 (stages log) := by
  cases answered with
  | overlong long => exact .nil
  | unread unreadable => exact (between_countedReport _ _).widen (Nat.zero_le 11) (Nat.le_refl 12)
  | @unresolved report before failure read resolved registry =>
    rw [stages_append]
    have last := (between_countedReport failure.status true).widen (by decide : 4 ≤ 11)
      (Nat.le_refl 12)
    exact resolved.between.append last (Nat.zero_le 4) (by decide)
  | reported read resolved executed registry =>
    rw [stages_append, stages_append]
    exact resolved.between.append
      (executed.between.append (between_counts _ _) (by decide) (by decide)) (by decide) (by decide)

/-- Between the session and the counters, only the report is executed. -/
theorem executed_of_mem {exchange : Exchange Ask.Answer} (member : exchange ∈ log)
    (late : 4 ≤ exchange.1.stage) (early : exchange.1.stage < 10) :
    ∃ report before session during outcome rest,
      readBody ReportRequest.ofTree? body = .ok report ∧ log = before ++ (during ++ rest) ∧
      Resolved gateway.environment (.ofHeaders headers) state.registry before (.ok session) ∧
      Executed gateway.reporting session report during outcome ∧ exchange ∈ during := by
  -- In all other parts the stages are earlier or later.
  cases answered with
  | overlong long => cases member
  | unread unreadable =>
    have last := (between_countedReport _ _).of_mem member
    omega
  | unresolved read resolved registry =>
    rcases List.mem_append.mp member with here | there
    · have first := resolved.between.of_mem here
      omega
    · have last := (between_countedReport _ _).of_mem there
      omega
  | reported read resolved executed registry =>
    rcases List.mem_append.mp member with here | there
    · have first := resolved.between.of_mem here
      omega
    · rcases List.mem_append.mp there with inside | counts
      · exact ⟨_, _, _, _, _, _, read, rfl, resolved, executed, inside⟩
      · have last := (between_counts _ _).of_mem counts
        omega

/-- For an address that the whitelist rejects, nothing is asked between the session and the
counters. -/
theorem not_mem_of_rejects {report : ReportRequest} {failure : Failure}
    (read : readBody ReportRequest.ofTree? body = .ok report)
    (rejects : gateway.reporting.source.whitelist.check report.url = .error failure)
    {exchange : Exchange Ask.Answer} (late : 4 ≤ exchange.1.stage)
    (early : exchange.1.stage < 10) : exchange ∉ log := by
  intro member
  obtain ⟨report', before, session, during, outcome, rest, read', -, -, executed, inside⟩ :=
    answered.executed_of_mem member late early
  rw [read] at read'
  cases read'
  rw [(executed.eq_nil rejects).1] at inside
  cases inside

/-- **An answer shows the stages.** -/
theorem staged : StagedReport gateway headers body state log response after where
  answered := answered
  ordered := answered.between.ascends
  unread refusal unreadable := by
    cases answered with
    | overlong long => exact ⟨rfl, fun exchange member => absurd member List.not_mem_nil⟩
    | unread => exact ⟨rfl, fun exchange member => ⟨_, List.mem_singleton.mp member⟩⟩
    | unresolved read | reported read =>
      rw [unreadable] at read
      cases read
  rejected report failure read rejects :=
    ⟨fun url outcome => answered.not_mem_of_rejects read rejects (Nat.le_refl 4)
      (by decide : 4 < 10),
      fun path content => answered.not_mem_of_rejects read rejects (Nat.le_refl 4)
      (by decide : 4 < 10),
      fun handle question answer inside =>
        have ⟨late, early⟩ := inside.stage handle
        answered.not_mem_of_rejects read rejects (Nat.le_of_succ_le late) early⟩
  begun handle question answer inside member := by
    obtain ⟨late, early⟩ := inside.stage handle
    obtain ⟨report, before, session, during, outcome, rest, read, rfl, resolved, executed, here⟩ :=
      answered.executed_of_mem member (Nat.le_of_succ_le late) early
    obtain ⟨loading, running, script, marker, rfl, loaded, marked, fits, inner, same, there⟩ :=
      executed.begun here late
    obtain ⟨question', answer'⟩ := inner
    cases same
    exact ⟨report, before, session, loading, script, marker, running, rest, read, rfl, resolved,
      loaded, marked, fits, rfl, there⟩

end AnsweredReport

end Answered

/-- **Every request for a report goes through its stages**, whatever is kept and whatever is
answered: the session is found or opened, the script loaded, the transaction run and rolled back,
and the response counted, each at most once and only if what comes before it succeeded; the first
failure is the response. Each time a report is answered for a session its run is counted once, under
`ok` or the code of its failure. -/
theorem staged_reports (gateway : Gateway) :
    (∀ query headers body state {σ : Type} (answer : (question : Ask) → σ → question.Answer × σ)
        (s : σ),
      StagedReport gateway headers body state
        ((gateway.serve (reportsPost query headers body) state).dialogue answer s)
        ((gateway.serve (reportsPost query headers body) state).run answer s).1.1
        ((gateway.serve (reportsPost query headers body) state).run answer s).1.2) ∧
    ∀ session request {σ : Type} (answer : (question : Ask) → σ → question.Answer × σ) (s : σ),
      ∃ before, (report gateway.reporting session request).dialogue answer s =
          before ++ [⟨.observe (.reportRun (outcomeName
            ((report gateway.reporting session request).run answer s).1)), ()⟩] ∧
        ∀ exchange ∈ before, ∀ label, exchange.1 ≠ .observe (.reportRun label) := by
  refine ⟨fun query headers body state σ answer s => ?_, fun session request σ answer s => ?_⟩
  · exact (answeredReport_of_leads (Task.leads_dialogue answer _ s)).staged
  · obtain ⟨before, executed, same⟩ :=
      executed_of_leads_report (Task.leads_dialogue answer _ s)
    refine ⟨before, same, fun exchange member label counted => ?_⟩
    have early := (executed.between.of_mem member).2
    rw [counted] at early
    exact absurd early (Nat.lt_irrefl 10)

end TenantReports

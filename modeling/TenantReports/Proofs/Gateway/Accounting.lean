import Mathlib.Data.List.Forall2
import TenantReports.Proofs.Gateway.Answering
import TenantReports.Proofs.Gateway.Kept
import TenantReports.Proofs.Session.Run

/-!
# What the counter of requests tells

**A response is counted when a request has been read, under the method of its route.** A request
that is turned away before that, for its query string or for the length of its body, is answered but
not counted, and a request for headers only counts as one that reads.

* `requestsCounted`: how often a dialogue counts a request under a route, a method and a status.
* `requestCount_recordAll`: the counter goes up by that number, however long the requests took.
* `Accounted`: what one response adds to it; `accounted_of_leads`: so it is for every request to a
  route that needs a session.
* `requestsCounted_of_leads`: the sum over all requests.
* `accounted_iff`: the counter tells what was responded exactly when every request was sent with the
  method of its route and none was turned away.
-/

namespace TenantReports

variable {gateway : Gateway} {route : Route} {request : Request} {state after : GatewayState}
  {log first second : List (Exchange Ask.Answer)} {response : Response} {label method : String}
  {status : Nat}

/-! ### Observations and the counter -/

/-- What was counted in a dialogue. -/
def observations (log : List (Exchange Ask.Answer)) : List Observation :=
  log.filterMap fun
    | ⟨.observe event, _⟩ => some event
    | _ => none

/-- The counters after observations, each with a duration of its own. -/
def Metrics.recordAll (metrics : Metrics) (timed : List (Nanoseconds × Observation)) : Metrics :=
  timed.foldl (fun metrics entry => metrics.record entry.1 entry.2) metrics

/-- Whether an observation is that of a request under a route, a method and a status. -/
def Observation.isRequest (label method : String) (status : Nat) : Observation → Bool
  | .request route used answered _ => route == label && used == method && answered == status
  | .sessionOpened | .reportRun _ => false

/-- **How often a dialogue counts a request** under a route, a method and a status. -/
def requestsCounted (label method : String) (status : Nat) (log : List (Exchange Ask.Answer)) :
    Nat :=
  (observations log).countP (Observation.isRequest label method status)

theorem requestsCounted_append :
    requestsCounted label method status (first ++ second) =
      requestsCounted label method status first + requestsCounted label method status second := by
  simp only [requestsCounted, observations, List.filterMap_append, List.countP_append]

/-- One observation adds one to the series that it is of. -/
theorem requestCount_record (metrics : Metrics) (duration : Nanoseconds) (event : Observation) :
    (metrics.record duration event).requestCount label method status =
      metrics.requestCount label method status +
        if event.isRequest label method status then 1 else 0 := by
  cases event with
  | sessionOpened => rfl
  | reportRun outcome => rfl
  | request route used answered timed =>
    have series : ([label, method, Number.decimal status] : Series) =
        [route, used, Number.decimal answered] ↔
          Observation.isRequest label method status (.request route used answered timed) =
            true := by
      simp only [Observation.isRequest, Bool.and_eq_true, beq_iff_eq, List.cons.injEq, and_true,
        and_assoc]
      constructor
      · rintro ⟨rfl, rfl, same⟩
        exact ⟨rfl, rfl, (Number.decimal_injective same).symm⟩
      · rintro ⟨rfl, rfl, rfl⟩
        exact ⟨rfl, rfl, rfl⟩
    simp only [Metrics.requestCount, Metrics.record_requests, series]

/-- **The counter goes up with each observation of a request**, however long the requests took. -/
theorem requestCount_recordAll (metrics : Metrics) (timed : List (Nanoseconds × Observation)) :
    (metrics.recordAll timed).requestCount label method status =
      metrics.requestCount label method status +
        (timed.map (·.2)).countP (Observation.isRequest label method status) := by
  induction timed generalizing metrics with
  | nil => rfl
  | cons entry timed ih =>
    have step := ih (metrics.record entry.1 entry.2)
    rw [requestCount_record] at step
    rw [List.map_cons, List.countP_cons]
    exact step.trans (by omega)

/-- Inner questions count no request. -/
theorem requestsCounted_of_inner (inner : ∀ exchange ∈ log, exchange.1.Inner) :
    requestsCounted label method status log = 0 := by
  refine List.countP_eq_zero.mpr fun event member counts => ?_
  obtain ⟨⟨question, answer⟩, here, same⟩ := List.mem_filterMap.mp member
  have kind := inner _ here
  cases question with
  | observe observed =>
    cases same
    cases event with
    | request => exact kind
    | sessionOpened => cases counts
    | reportRun => cases counts
  | _ => cases same

/-- The exchange that counts a response. -/
theorem requestsCounted_response (route : Route) (answered : Nat) (timed : Bool) :
    requestsCounted label method status [countedResponse route answered timed] =
      if route.path == label && route.method == method && answered == status then 1 else 0 :=
  List.countP_singleton

/-! ### Requests that are turned away -/

/-- The routes that need a session. -/
def Route.needsSession : Route → Bool
  | .health | .metrics => false
  | _ => true

theorem operation_ne_none (needs : route.needsSession) : route.operation request ≠ .ok none := by
  cases route with
  | health => cases needs
  | metrics => cases needs
  | tables | log | version | updates | processes => exact fun same => nomatch same
  | columns | query | reports =>
    intro same
    obtain ⟨asked, -, found⟩ := read_of_map same
    cases found

/-- **Whether a request is turned away while it is read**: its query names a field twice, or its
body is too long. -/
def Route.turnsAway (route : Route) (request : Request) : Bool :=
  match route.operation request with
  | .error .query | .error .length => true
  | _ => false

/-- A request to a route that needs a session, with a method that the route takes. -/
def Request.IsTaken (request : Request) : Prop :=
  ∃ route : Route, request.path = route.path ∧ route.needsSession ∧ route.takes request.method

/-- **Whether the response to a request counts** under a route and a method. -/
def Request.counts (request : Request) (label method : String) : Bool :=
  match Route.ofPath? request.path with
  | some route => route.path == label && route.method == method && !route.turnsAway request
  | none => false

theorem Request.counts_of_path (path : request.path = route.path) (label method : String) :
    request.counts label method =
      (route.path == label && route.method == method && !route.turnsAway request) := by
  unfold Request.counts
  rw [path, Route.ofPath?_path]

theorem Route.path_of_ofPath? {path : String} (found : Route.ofPath? path = some route) :
    path = route.path := by
  unfold Route.ofPath? at found
  have same := List.find?_some found
  exact (eq_of_beq same).symm

theorem Request.path_of_counts (counts : request.counts label method) :
    ∃ route : Route, request.path = route.path ∧ route.path = label ∧ route.method = method ∧
      route.turnsAway request = false := by
  unfold Request.counts at counts
  cases found : Route.ofPath? request.path with
  | none =>
    rw [found] at counts
    cases counts
  | some route =>
    rw [found] at counts
    simp only [Bool.and_eq_true, beq_iff_eq, Bool.not_eq_true'] at counts
    exact ⟨route, Route.path_of_ofPath? found, counts.1.1, counts.1.2, counts.2⟩

/-- The statuses of requests that were turned away. -/
def isTurnedAway (status : Nat) : Bool :=
  status == 400 || status == 413

theorem isTurnedAway_failure (failure : Failure) : isTurnedAway failure.status = false := by
  obtain ⟨kind, message⟩ := failure
  cases kind <;> rfl

theorem isTurnedAway_outcome (outcome : Except Failure Payload) :
    isTurnedAway (Response.ofOutcome outcome).status = false := by
  cases outcome with
  | error failure => exact isTurnedAway_failure failure
  | ok payload => rfl

@[simp] theorem Response.status_forMethod (response : Response) (method : String) :
    (response.forMethod method).status = response.status := by
  unfold Response.forMethod
  split <;> rfl

/-! ### One request -/

/-- **What one response adds to the counter**; its status tells whether the request was turned
away. -/
structure Accounted (request : Request) (log : List (Exchange Ask.Answer)) (response : Response) :
    Prop where
  counted : ∀ label method status, requestsCounted label method status log =
    if request.counts label method && response.status == status then 1 else 0
  away : ∀ route : Route, request.path = route.path →
    isTurnedAway response.status = route.turnsAway request

/-- A path is that of one route. -/
theorem Route.path_injective {other : Route} (same : route.path = other.path) : route = other := by
  have found := Route.ofPath?_path route
  rw [same, Route.ofPath?_path] at found
  exact (Option.some.inj found).symm

/-- A response that is counted once, if the request was read. -/
theorem accounted_of_counted (path : request.path = route.path)
    (read : route.turnsAway request = false) (known : isTurnedAway response.status = false)
    (counted : ∀ label method status, requestsCounted label method status log =
      if route.path == label && route.method == method && response.status == status then 1 else 0) :
    Accounted request log response where
  counted label method status := by
    rw [counted, Request.counts_of_path path, read, Bool.not_false, Bool.and_true]
  away other path' := by rw [← Route.path_injective (path.symm.trans path'), read, known]

/-- A response that is not counted, for a request that was turned away. -/
theorem accounted_of_turnedAway (path : request.path = route.path)
    (away : route.turnsAway request = true) (known : isTurnedAway response.status = true) :
    Accounted request [] response where
  counted label method status := by
    rw [Request.counts_of_path path, away, Bool.not_true, Bool.and_false, Bool.false_and]
    rfl
  away other path' := by rw [← Route.path_injective (path.symm.trans path'), away, known]

/-- **A request on a route is accounted for**, or it was turned away. -/
theorem accounted_of_leads_serveRoute (path : request.path = route.path)
    (needs : route.needsSession)
    (leads : (gateway.serveRoute route request state).Leads log (.done (response, after))) :
    Accounted request log response := by
  unfold Gateway.serveRoute at leads
  cases reads : route.operation request with
  | error refusal =>
    rw [reads] at leads
    cases refusal with
    | query =>
      obtain ⟨rfl, same⟩ := leads.of_done_finished
      cases same
      exact accounted_of_turnedAway path (by simp only [Route.turnsAway, reads]) rfl
    | length =>
      obtain ⟨rfl, same⟩ := leads.of_done_finished
      cases same
      exact accounted_of_turnedAway path (by simp only [Route.turnsAway, reads]) rfl
    | body failure =>
      obtain ⟨rfl, rfl, rfl⟩ := counted_of_leads leads
      exact accounted_of_counted path (by simp only [Route.turnsAway, reads])
        (isTurnedAway_failure failure) fun label method status =>
          requestsCounted_response route _ false
  | ok asked =>
    rw [reads] at leads
    cases asked with
    | none => exact absurd reads (operation_ne_none needs)
    | some operation =>
      obtain ⟨⟨outcome, kept⟩, before, last, rfl, performs, counts⟩ := leads.of_bind_finished
      obtain ⟨rfl, rfl, rfl⟩ := counted_of_leads counts
      -- What an operation and the way to its session exchange counts no request.
      have inner := (inner_perform (.ofHeaders request.headers) operation state).of_leads performs
      refine accounted_of_counted path (by simp only [Route.turnsAway, reads])
        (isTurnedAway_outcome outcome) fun label method status => ?_
      rw [requestsCounted_append, requestsCounted_of_inner inner, Nat.zero_add,
        requestsCounted_response]

/-- **Every request to a route that needs a session is accounted for**, also one for headers
only. -/
theorem accounted_of_leads (taken : request.IsTaken)
    (leads : (gateway.serve request state).Leads log (.done (response, after))) :
    Accounted request log response := by
  obtain ⟨route, path, needs, takes⟩ := taken
  have found : Route.ofPath? request.path = some route := by rw [path, Route.ofPath?_path]
  simp only [Gateway.serve, found, takes, if_true] at leads
  obtain ⟨⟨whole, kept⟩, same, serves⟩ := leads.of_map_finished
  obtain ⟨rfl, rfl⟩ := Prod.mk.inj same
  have accounted := accounted_of_leads_serveRoute path needs serves
  refine ⟨fun label method status => ?_, fun other path' => ?_⟩
  · rw [Response.status_forMethod]
    exact accounted.counted label method status
  · rw [Response.status_forMethod]
    exact accounted.away other path'

/-! ### All requests -/

/-- The responses that count under a route and a method, with a status. -/
def countedResponses (label method : String) (status : Nat) (requests : List Request)
    (responses : List Response) : Nat :=
  (requests.zip responses).countP fun entry =>
    entry.1.counts label method && entry.2.status == status

/-- **The responses sent for requests** on a route, with a method and with a status. -/
def sentResponses (label method : String) (status : Nat) (requests : List Request)
    (responses : List Response) : Nat :=
  (requests.zip responses).countP fun entry =>
    entry.1.path == label && entry.1.method == method && entry.2.status == status

/-- **Every response is accounted for**, and the counter goes up by the sum. -/
theorem requestsCounted_of_leads {requests : List Request} {responses : List Response}
    (taken : ∀ request ∈ requests, request.IsTaken)
    (leads : (gateway.serveAll requests state).Leads log (.done (responses, after))) :
    (∀ label method status, requestsCounted label method status log =
        countedResponses label method status requests responses) ∧
      List.Forall₂ (fun request response => ∃ part, Accounted request part response) requests
        responses := by
  induction requests generalizing state log responses with
  | nil =>
    obtain ⟨rfl, same⟩ := leads.of_done_finished
    cases same
    exact ⟨fun label method status => rfl, .nil⟩
  | cons request requests ih =>
    obtain ⟨⟨response, between⟩, before, rest, rfl, serves, goesOn⟩ := leads.of_bind_finished
    obtain ⟨⟨others, kept⟩, same, servesAll⟩ := goesOn.of_map_finished
    obtain ⟨rfl, rfl⟩ := Prod.mk.inj same
    obtain ⟨here, later⟩ := List.forall_mem_cons.mp taken
    have accounted := accounted_of_leads here serves
    obtain ⟨sum, all⟩ := ih later servesAll
    refine ⟨fun label method status => ?_, .cons ⟨before, accounted⟩ all⟩
    rw [requestsCounted_append, accounted.counted, sum, countedResponses, countedResponses,
      List.zip_cons_cons, List.countP_cons, Nat.add_comm]

/-- Where every request counts as it was sent, so do the responses. -/
theorem countedResponses_eq_sentResponses {requests : List Request} {responses : List Response}
    (taken : ∀ request ∈ requests, request.IsTaken)
    (counts : ∀ request ∈ requests, request.counts request.path request.method) :
    countedResponses label method status requests responses =
      sentResponses label method status requests responses := by
  refine List.countP_congr fun entry member => ?_
  have among : entry.1 ∈ requests := (List.of_mem_zip member).1
  obtain ⟨route, path, -, -⟩ := taken _ among
  have sent := counts _ among
  simp only [Request.counts_of_path path, path, beq_self_eq_true, Bool.true_and, Bool.and_eq_true,
    beq_iff_eq, Bool.not_eq_true'] at sent
  simp only [Request.counts_of_path path, sent.1, sent.2, Bool.not_false, Bool.and_true, path]

/-- **A request that does not count as it was sent shows**: more responses with its status were sent
on its route, with its method, than count. -/
theorem exists_uncounted {requests : List Request} {responses : List Response}
    (all : List.Forall₂ (fun request response => ∃ part, Accounted request part response) requests
      responses) (among : request ∈ requests) (taken : request.IsTaken)
    (uncounted : request.counts request.path request.method = false) :
    ∃ status, countedResponses request.path request.method status requests responses <
      sentResponses request.path request.method status requests responses := by
  obtain ⟨i, inside, here⟩ := List.mem_iff_getElem.mp among
  have answered : i < responses.length := all.length_eq ▸ inside
  have member : (request, responses[i]) ∈ requests.zip responses :=
    List.mem_iff_getElem.mpr ⟨i, by rw [List.length_zip]; omega, by simp [here]⟩
  obtain ⟨part, accounted⟩ := List.forall₂_zip all member
  obtain ⟨route, path, -, -⟩ := taken
  refine ⟨responses[i].status, ?_⟩
  have none : countedResponses request.path request.method responses[i].status requests
      responses = 0 := by
    refine List.countP_eq_zero.mpr fun entry there counted => ?_
    obtain ⟨counts, same⟩ := Bool.and_eq_true_iff.mp counted
    obtain ⟨other, path', labelled, used, read⟩ := Request.path_of_counts counts
    obtain rfl : other = route := Route.path_injective (labelled.trans path)
    -- The request has the method of the route too, so it was turned away, and the other was not.
    have away : other.turnsAway request = true := by
      simpa [Request.counts_of_path path, path, used] using uncounted
    obtain ⟨part', accounted'⟩ := List.forall₂_zip all there
    have status := accounted'.away other path'
    rw [eq_of_beq same, accounted.away other path, away, read] at status
    cases status
  rw [none]
  exact List.countP_pos_iff.mpr ⟨_, member, by simp⟩

/-- **The counter tells what was responded, as long as every request was sent with the method of
its route and was read.** For any requests that routes with a session take, one after another, it
goes up by the number of responses to requests that were read, under the methods of their routes;
this is the number of responses that were sent, for all routes, methods and statuses, exactly when
none of the requests was for headers only and none was turned away. -/
theorem accounted_iff {requests : List Request} {responses : List Response}
    (taken : ∀ request ∈ requests, request.IsTaken)
    (leads : (gateway.serveAll requests state).Leads log (.done (responses, after)))
    (metrics : Metrics) {timed : List (Nanoseconds × Observation)}
    (counted : timed.map (·.2) = observations log) :
    (∀ label method status, (metrics.recordAll timed).requestCount label method status =
        metrics.requestCount label method status +
          countedResponses label method status requests responses) ∧
      ((∀ label method status, (metrics.recordAll timed).requestCount label method status =
          metrics.requestCount label method status +
            sentResponses label method status requests responses) ↔
        ∀ request ∈ requests, ∀ route : Route, request.path = route.path →
          request.method = route.method ∧ route.turnsAway request = false) := by
  obtain ⟨sum, all⟩ := requestsCounted_of_leads taken leads
  have increase : ∀ label method status,
      (metrics.recordAll timed).requestCount label method status =
        metrics.requestCount label method status +
          countedResponses label method status requests responses := by
    intro label method status
    rw [requestCount_recordAll, counted]
    exact congrArg _ (sum label method status)
  have counts_iff : ∀ request ∈ requests, request.counts request.path request.method = true ↔
      ∀ route : Route, request.path = route.path →
        request.method = route.method ∧ route.turnsAway request = false := by
    intro request among
    obtain ⟨route, path, -, -⟩ := taken request among
    rw [Request.counts_of_path path, path]
    simp only [beq_self_eq_true, Bool.true_and, Bool.and_eq_true, beq_iff_eq, Bool.not_eq_true']
    constructor
    · rintro ⟨used, read⟩ other path'
      obtain rfl := Route.path_injective path'
      exact ⟨used.symm, read⟩
    · intro sent
      exact ⟨(sent route rfl).1.symm, (sent route rfl).2⟩
  refine ⟨increase, fun told request among => ?_, fun sent label method status => ?_⟩
  · refine (counts_iff request among).mp (by_contra fun uncounted => ?_)
    obtain ⟨status, fewer⟩ := exists_uncounted all among (taken request among)
      (Bool.eq_false_iff.mpr uncounted)
    have both := (increase request.path request.method status).symm.trans (told _ _ status)
    omega
  · rw [increase, countedResponses_eq_sentResponses taken fun request among =>
      (counts_iff request among).mpr (sent request among)]

/-! ### Requests that do not count as they were sent -/

/-- A gateway with credentials for all callers. -/
def openGateway : Gateway :=
  { (default : Gateway) with environment := some somewhere }

/-- A schema is named twice, the tables are asked for with the headers only, and the version is
asked for as it should be. -/
def unevenRequests : List Request :=
  [⟨"GET", Route.columns.path, some "schema=public&schema=local&table=users", [], []⟩,
    ⟨"HEAD", Route.tables.path, none, [], []⟩, ⟨"GET", Route.version.path, none, [], []⟩]

/-- The gateway serves them, and everything is answered. -/
def unevenTask : GatewayTask (List Response × GatewayState) :=
  openGateway.serveAll unevenRequests .initial

/-- All that is exchanged then. -/
def unevenLog : List (Exchange Ask.Answer) :=
  unevenTask.dialogue (fun question (s : Unit) => (telling question, s)) ()

/-- The responses. -/
def unevenResponses : List Response :=
  (unevenTask.run (fun question (s : Unit) => (telling question, s)) ()).1.1

/-- What was counted; the requests took no time. -/
def unevenTimed : List (Nanoseconds × Observation) :=
  (observations unevenLog).map fun event => (0, event)

theorem isTaken_uneven : ∀ request ∈ unevenRequests, request.IsTaken := by
  intro request among
  simp only [unevenRequests, List.mem_cons, List.not_mem_nil, or_false] at among
  rcases among with rfl | rfl | rfl
  · exact ⟨.columns, rfl, rfl, by decide⟩
  · exact ⟨.tables, rfl, rfl, by decide⟩
  · exact ⟨.version, rfl, rfl, by decide⟩

theorem leads_uneven : ∃ after, unevenTask.Leads unevenLog (.done (unevenResponses, after)) :=
  ⟨_, Task.leads_dialogue _ unevenTask ()⟩

theorem map_unevenTimed : unevenTimed.map (·.2) = observations unevenLog := by
  rw [unevenTimed, List.map_map]
  exact List.map_id _

theorem accounted_iff_uneven :
    (∀ request ∈ unevenRequests, request.IsTaken) ∧
      unevenTimed.map (·.2) = observations unevenLog ∧
      unevenResponses.map (·.status) = [400, 200, 200] ∧
      (Metrics.empty.recordAll unevenTimed).requestCount Route.version.path "GET" 200 =
        Metrics.empty.requestCount Route.version.path "GET" 200 +
          countedResponses Route.version.path "GET" 200 unevenRequests unevenResponses ∧
      ¬∀ label method status, (Metrics.empty.recordAll unevenTimed).requestCount label method status =
        Metrics.empty.requestCount label method status +
          sentResponses label method status unevenRequests unevenResponses := by
  obtain ⟨after, leads⟩ := leads_uneven
  obtain ⟨counted, told⟩ := accounted_iff isTaken_uneven leads Metrics.empty map_unevenTimed
  refine ⟨isTaken_uneven, map_unevenTimed, by decide +kernel, counted _ _ _, fun all => ?_⟩
  have sent := told.mp all ⟨"HEAD", Route.tables.path, none, [], []⟩ (by simp [unevenRequests])
    .tables rfl
  exact absurd sent.1 (by decide)

/-- **Not every response is counted as the request was sent**: one whose query string names a schema
twice is answered with a status of 400 and not counted at all. -/
theorem not_accounted_uneven :
    ¬∀ (gateway : Gateway) (state after : GatewayState) (requests : List Request)
      (responses : List Response) (log : List (Exchange Ask.Answer)),
      (∀ request ∈ requests, request.IsTaken) →
      (gateway.serveAll requests state).Leads log (.done (responses, after)) →
      ∀ (metrics : Metrics) (timed : List (Nanoseconds × Observation)),
        timed.map (·.2) = observations log → ∀ label method status,
          (metrics.recordAll timed).requestCount label method status =
            metrics.requestCount label method status +
              sentResponses label method status requests responses := by
  intro accounted
  obtain ⟨after, leads⟩ := leads_uneven
  have told := accounted _ _ after _ _ _ isTaken_uneven leads Metrics.empty _ map_unevenTimed
    Route.columns.path "GET" 400
  exact absurd told (by decide +kernel)

end TenantReports

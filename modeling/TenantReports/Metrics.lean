import TenantReports.Keyed
import TenantReports.Number.Shortest

/-!
# Counters of the gateway

The gateway counts the requests it answers, the sessions it opens and the reports it runs, and keeps
the durations of requests in a histogram. `Metrics.lines` shows the counters in the text format that
collectors of such numbers read: families in the order of their names, series in the order of the
values of their labels, taken by the labels' names.

* `record_requests`: a request adds one to its own series and to no other.
-/

namespace TenantReports

open Number (Floating Format NumberStyle)

/-- A duration as a count of nanoseconds. -/
abbrev Nanoseconds := Nat

/-- What the gateway counts. -/
inductive Observation
  /-- A request on a route was answered with a status; `timed` tells whether its duration counts. -/
  | request (route method : String) (status : Nat) (timed : Bool)
  | sessionOpened
  /-- A report was run, with an outcome: `ok` or the code of a failure. -/
  | reportRun (outcome : String)
  deriving DecidableEq, Repr, Inhabited

/-- The upper bounds of the histogram's buckets in thousandths of a second. -/
def bucketBounds : List Nat :=
  [5, 10, 25, 50, 100, 250, 500, 1000, 2500, 5000, 10000, 30000, 60000]

/-- Durations: how many there were up to each bound, how many in all, and their sum in seconds. -/
structure Histogram where
  buckets : List Nat
  count : Nat
  sum : Floating
  deriving DecidableEq, Repr, Inhabited

/-- No durations. -/
def Histogram.empty : Histogram :=
  ⟨bucketBounds.map fun _ => 0, 0, Format.double.ofInt 0⟩

/-- A number of seconds as it stands in the text: thousandths, rounded. -/
def secondsOfMillis (millis : Nat) : Floating :=
  Format.double.round false millis 1000

/-- A duration in seconds: whole seconds, plus the rounded rest. -/
def secondsOf (duration : Nanoseconds) : Floating :=
  Format.double.add (Format.double.ofInt (duration / 1000000000))
    (Format.double.round false (duration % 1000000000) 1000000000)

/-- Adds a duration. -/
def Histogram.add (histogram : Histogram) (duration : Nanoseconds) : Histogram :=
  let seconds := secondsOf duration
  ⟨List.zipWith (fun bound n => if seconds.le (secondsOfMillis bound) then n + 1 else n)
      bucketBounds histogram.buckets,
    histogram.count + 1, Format.double.add histogram.sum seconds⟩

/-- A series: the values of its labels. -/
abbrev Series :=
  List String

/-- What is under a series. -/
def Series.lookup {α : Type} (default : α) (entries : List (Series × α)) (series : Series) : α :=
  (entries.lookup series).getD default

/-- Changes what is under a series. -/
def Series.update {α : Type} (default : α) (series : Series) (f : α → α) :
    List (Series × α) → List (Series × α)
  | [] => [(series, f default)]
  | (s, a) :: rest =>
    if s = series then (s, f a) :: rest else (s, a) :: Series.update default series f rest

/-- All counters. -/
structure Metrics where
  /-- Requests by route, method and status. -/
  requests : List (Series × Nat)
  /-- Durations by route, method and whether the request was granted. -/
  durations : List (Series × Histogram)
  sessions : Nat
  /-- Report runs by outcome. -/
  reports : List (Series × Nat)
  deriving DecidableEq, Repr, Inhabited

namespace Metrics

/-- Nothing was counted. -/
def empty : Metrics :=
  ⟨[], [], 0, []⟩

/-- Whether a status counts as a success. -/
def outcomeOf (status : Nat) : String :=
  if 200 ≤ status ∧ status < 400 then "success" else "error"

/-- Counts an observation; `duration` is that of the request. -/
def record (metrics : Metrics) (duration : Nanoseconds) : Observation → Metrics
  | .request route method status timed =>
    { metrics with
      requests := Series.update 0 [route, method, Number.decimal status] (· + 1) metrics.requests
      durations := Series.update .empty [route, method, outcomeOf status]
        (fun histogram => histogram.add (if timed then duration else 0)) metrics.durations }
  | .sessionOpened => { metrics with sessions := metrics.sessions + 1 }
  | .reportRun outcome =>
    { metrics with reports := Series.update 0 [outcome] (· + 1) metrics.reports }

/-- The number of requests on a route with a method and a status. -/
def requestCount (metrics : Metrics) (route method : String) (status : Nat) : Nat :=
  Series.lookup 0 metrics.requests [route, method, Number.decimal status]

/-! ### The text -/

/-- A number in the text. -/
def numberText (x : Floating) : String :=
  String.ofList (NumberStyle.plain.write .double x)

/-- The value of a label between its quotes. -/
def escapeLabel (value : String) : String :=
  String.ofList (value.toList.flatMap fun c =>
    if c == '\\' then ['\\', '\\'] else if c == '"' then ['\\', '"']
    else if c == '\n' then ['\\', 'n'] else [c])

/-- Labels with their values in braces. -/
def labelsText (labels : List (String × String)) : String :=
  if labels.isEmpty then ""
  else
    "\x7b" ++ String.intercalate ","
      (labels.map fun (name, value) => name ++ "=\"" ++ escapeLabel value ++ "\"") ++ "\x7d"

/-- A line: the name, the labels and the value. -/
def sample (name : String) (labels : List (String × String)) (value : String) : String :=
  name ++ labelsText labels ++ " " ++ value

/-- The lines of a family, if it has any: what it tells, its kind, and its samples. -/
def family (name help kind : String) (samples : List String) : List String :=
  if samples.isEmpty then []
  else ("# HELP " ++ name ++ " " ++ help) :: ("# TYPE " ++ name ++ " " ++ kind) :: samples

/-- Pairs the names of labels with the values of a series, in the order of the names. -/
def labelled (names : List String) (series : Series) : List (String × String) :=
  (Keyed.ofList (names.zip series)).entries

/-- Whether a list of texts comes before another, or is the same. -/
def seriesLe : Series → Series → Bool
  | [], _ => true
  | _ :: _, [] => false
  | a :: as, b :: bs => a < b || (a == b && seriesLe as bs)

/-- Series with their labels, in the order of the labels' values. -/
def ordered {α : Type} (names : List String) (entries : List (Series × α)) :
    List (List (String × String) × α) :=
  (entries.map fun (series, a) => (labelled names series, a)).mergeSort fun a b =>
    seriesLe (a.1.map (·.2)) (b.1.map (·.2))

/-- The samples of a counter by labels. -/
def counterSamples (name : String) (names : List String) (entries : List (Series × Nat)) :
    List String :=
  (ordered names entries).map fun (labels, n) => sample name labels (Number.decimal n)

/-- The samples of a histogram. -/
def histogramSamples (name : String) (labels : List (String × String)) (histogram : Histogram) :
    List String :=
  let bucket (bound : String) (n : Nat) :=
    sample (name ++ "_bucket") (labels ++ [("le", bound)]) (Number.decimal n)
  List.zipWith (fun bound n => bucket (numberText (secondsOfMillis bound)) n) bucketBounds
      histogram.buckets ++
    [bucket "+Inf" histogram.count, sample (name ++ "_sum") labels (numberText histogram.sum),
      sample (name ++ "_count") labels (Number.decimal histogram.count)]

/-- The lines of all counters. -/
def lines (metrics : Metrics) : List String :=
  let duration := "reporting_http_request_duration_seconds"
  let requests := "reporting_http_requests_total"
  let reports := "reporting_report_runs_total"
  let sessions := "reporting_sessions_opened_total"
  family duration "Reporting gateway HTTP request duration in seconds." "histogram"
      ((ordered ["route", "method", "outcome"] metrics.durations).flatMap fun (labels, histogram) =>
        histogramSamples duration labels histogram) ++
    family requests "Reporting gateway HTTP request count." "counter"
      (counterSamples requests ["route", "method", "status"] metrics.requests) ++
    family reports "Report executions by outcome." "counter"
      (counterSamples reports ["outcome"] metrics.reports) ++
    family sessions "Reporting database sessions opened." "counter"
      [sample sessions [] (Number.decimal metrics.sessions)]

/-- The kind of the text. -/
def contentType : String := "text/plain; version=0.0.4"

/-- The text of all counters. -/
def text (metrics : Metrics) : String :=
  String.join (metrics.lines.map (· ++ "\n"))

end Metrics

theorem Series.lookup_cons {α : Type} (default : α) (s t : Series) (a : α)
    (rest : List (Series × α)) :
    Series.lookup default ((t, a) :: rest) s =
      if s = t then a else Series.lookup default rest s := by
  unfold Series.lookup
  rw [List.lookup_cons]
  by_cases same : s = t
  · rw [if_pos same, same, beq_self_eq_true]
    rfl
  · rw [if_neg same, beq_false_of_ne same]

theorem Series.lookup_update {α : Type} (default : α) (series : Series) (f : α → α)
    (entries : List (Series × α)) (s : Series) :
    Series.lookup default (Series.update default series f entries) s =
      if s = series then f (Series.lookup default entries s) else
        Series.lookup default entries s := by
  induction entries with
  | nil =>
    rw [Series.update, Series.lookup_cons]
    rfl
  | cons entry rest ih =>
    obtain ⟨t, a⟩ := entry
    rw [Series.update, Series.lookup_cons]
    by_cases found : t = series
    · rw [if_pos found, Series.lookup_cons, found]
      split <;> rfl
    · rw [if_neg found, Series.lookup_cons, ih]
      by_cases same : s = t
      · rw [if_pos same, if_pos same, if_neg (same ▸ found)]
      · rw [if_neg same, if_neg same]

theorem Metrics.record_requests (metrics : Metrics) (duration : Nanoseconds) (route method : String)
    (status : Nat) (timed : Bool) (series : Series) :
    Series.lookup 0 (metrics.record duration (.request route method status timed)).requests series =
      Series.lookup 0 metrics.requests series +
        if series = [route, method, Number.decimal status] then 1 else 0 := by
  simp only [Metrics.record, Series.lookup_update]
  split <;> rfl

end TenantReports

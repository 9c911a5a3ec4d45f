import TenantReports.Proofs.Report.Stages
import TenantReports.Proofs.Session.Resolved

/-!
# The order of effects

**The stages in which a report is answered, as an order of what is asked.** A session is looked for
before it is connected, a script is loaded before a transaction is begun, and the counters come last.

* `Ask.stage`: the place of a question in this order.
* `Between`: stages that ascend between two bounds; `Between.append` puts them together.
* `Resolved.between`, `Loaded.between`, `Ran.between`: the bounds of each part.
* `Executed.begun`: what is asked from the transaction on is asked for a script that was loaded and
  fits the database.
-/

namespace TenantReports

variable {log : List (Exchange Ask.Answer)}

/-! ### The order of stages -/

/-- **The place of a question** among the stages in which a report is answered. -/
def Ask.stage : Ask → Nat
  | .settings _ => 0
  | .connect _ => 1
  | .database _ (.query _ _) => 2
  | .observe .sessionOpened => 3
  | .fetch _ | .read _ => 4
  | .database _ .begin => 5
  | .database _ (.setTimeout _) => 6
  | .database _ (.script _) => 7
  | .database _ (.txQuery _ _) => 8
  | .database _ .rollback => 9
  | .observe (.reportRun _) => 10
  | .observe (.request _ _ _ _) => 11
  | .counters => 12

/-- The stages of what was exchanged. -/
def stages (log : List (Exchange Ask.Answer)) : List Nat :=
  log.map fun exchange => exchange.1.stage

/-- **Stages that ascend** from the first bound on and stay below the second. -/
structure Between (low high : Nat) (stages : List Nat) : Prop where
  ascends : stages.Pairwise (· < ·)
  within : ∀ n ∈ stages, low ≤ n ∧ n < high

namespace Between

variable {low middle high : Nat} {first second : List Nat}

theorem nil : Between low high [] where
  ascends := List.Pairwise.nil
  within _ member := absurd member List.not_mem_nil

theorem singleton {n : Nat} (above : low ≤ n) (below : n < high) : Between low high [n] where
  ascends := List.pairwise_singleton _ _
  within _ member := List.mem_singleton.mp member ▸ ⟨above, below⟩

theorem widen {low' high' : Nat} (between : Between low high first) (lower : low' ≤ low)
    (higher : high ≤ high') : Between low' high' first where
  ascends := between.ascends
  within n member :=
    have ⟨above, below⟩ := between.within n member
    ⟨Nat.le_trans lower above, Nat.lt_of_lt_of_le below higher⟩

/-- **What goes on where the first part ended still ascends.** -/
theorem append (before : Between low middle first) (after : Between middle high second)
    (lower : low ≤ middle) (higher : middle ≤ high) : Between low high (first ++ second) where
  ascends := List.pairwise_append.mpr ⟨before.ascends, after.ascends, fun n here m there =>
    Nat.lt_of_lt_of_le (before.within n here).2 (after.within m there).1⟩
  within n member := by
    rcases List.mem_append.mp member with here | there
    · exact (before.widen (Nat.le_refl _) higher).within n here
    · exact (after.widen lower (Nat.le_refl _)).within n there

end Between

theorem stages_append (first second : List (Exchange Ask.Answer)) :
    stages (first ++ second) = stages first ++ stages second :=
  List.map_append

/-- Where an exchange is, its stage is within the bounds. -/
theorem Between.of_mem {low high : Nat} (between : Between low high (stages log))
    {exchange : Exchange Ask.Answer} (member : exchange ∈ log) :
    low ≤ exchange.1.stage ∧ exchange.1.stage < high :=
  between.within _ (List.mem_map_of_mem member)

/-! ### The stages of each part -/

section Parts

variable {environment : Option Credentials} {caller : SessionKey} {credentials : Credentials}
  {registry : Registry} {reporting : Reporting} {session : Session} {request : ReportRequest}

theorem Looked.between {found : Except Failure Credentials}
    (looked : Looked caller environment log found) : Between 0 1 (stages log) := by
  cases looked with
  | environment own => exact .nil
  | unbuildable => exact .nil
  | answered addressed outcome => exact .singleton (Nat.le_refl 0) Nat.one_pos

theorem Attached.between {result : Except Failure Session}
    (attached : Attached caller credentials log result) : Between 1 4 (stages log) := by
  cases attached with
  | refused error => exact (⟨by decide, by decide⟩ : Between 1 4 [1])
  | unprobed handle error => exact (⟨by decide, by decide⟩ : Between 1 4 [1, 2])
  | ready handle rows => exact (⟨by decide, by decide⟩ : Between 1 4 [1, 2, 3])

theorem Resolved.between {result : Except Failure Session}
    (resolved : Resolved environment caller registry log result) : Between 0 4 (stages log) := by
  cases resolved with
  | kept found => exact .nil
  | opened new established =>
    cases established with
    | unfound looked => exact looked.between.widen (Nat.le_refl 0) (by decide)
    | attached looked attached =>
      rw [stages_append]
      exact looked.between.append attached.between (Nat.zero_le 1) (by decide)

theorem Loaded.between {source : ReportSource} {url : String} {result : Except Failure String}
    (loaded : Loaded source url log result) : Between 4 5 (stages log) := by
  cases loaded with
  | rejected rejects => exact .nil
  | unnamed allowed reason => exact .nil
  | fetched allowed web outcome => exact .singleton (Nat.le_refl 4) (Nat.lt_succ_self 4)
  | read allowed file content => exact .singleton (Nat.le_refl 4) (Nat.lt_succ_self 4)

theorem RolledBack.between {report : PreparedReport} {timeout : Nat}
    {inner : List (Exchange DbAsk.Answer)} {rows : Except Failure RawRows}
    (rolledBack : RolledBack report timeout inner rows) (handle : Handle) :
    Between 5 10 (stages (inner.map (Exchange.on handle))) := by
  cases rolledBack with
  | unopened error => exact (⟨by decide, by decide⟩ : Between 5 10 [5])
  | ended invoked outcome =>
    cases invoked with
    | unlimited error => exact (⟨by decide, by decide⟩ : Between 5 10 [5, 6, 9])
    | unregistered error => exact (⟨by decide, by decide⟩ : Between 5 10 [5, 6, 7, 9])
    | uncalled error => exact (⟨by decide, by decide⟩ : Between 5 10 [5, 6, 7, 8, 9])
    | called rows => exact (⟨by decide, by decide⟩ : Between 5 10 [5, 6, 7, 8, 9])

theorem Ran.between {script : String} {outcome : Except Failure ReportResponse}
    (ran : Ran reporting session request script log outcome) : Between 5 10 (stages log) := by
  cases ran with
  | unmarked unmarked => exact .nil
  | unfit marked unfit => exact .nil
  | ran marked fits rolledBack => exact rolledBack.between session.database

theorem Executed.between {outcome : Except Failure ReportResponse}
    (executed : Executed reporting session request log outcome) : Between 4 10 (stages log) := by
  cases executed with
  | unloaded loaded => exact loaded.between.widen (Nat.le_refl 4) (by decide)
  | loaded loaded ran =>
    rw [stages_append]
    exact loaded.between.append ran.between (by decide) (by decide)

/-- **A transaction is only begun for a script that was loaded and fits the database**, and it is
the database of the session that is asked. -/
theorem Executed.begun {outcome : Except Failure ReportResponse}
    (executed : Executed reporting session request log outcome) {exchange : Exchange Ask.Answer}
    (member : exchange ∈ log) (late : 5 ≤ exchange.1.stage) :
    ∃ loading running script marker, log = loading ++ running ∧
      Loaded reporting.source request.url loading (.ok script) ∧
      Marker.ofScript script = .ok marker ∧ marker.dialect = session.dialect ∧
      ∃ inner, exchange = Exchange.on session.database inner ∧ exchange ∈ running := by
  cases executed with
  | unloaded loaded =>
    -- The script was still being loaded, which has an earlier stage.
    have early := (loaded.between.of_mem member).2
    omega
  | loaded loaded ran =>
    rcases List.mem_append.mp member with here | there
    · have early := (loaded.between.of_mem here).2
      omega
    · cases ran with
      | unmarked unmarked => cases there
      | unfit marked unfit => cases there
      | ran marked fits rolledBack =>
        obtain ⟨inner, -, rfl⟩ := List.mem_map.mp there
        exact ⟨_, _, _, _, rfl, loaded, marked, fits, inner, rfl, there⟩

end Parts

end TenantReports

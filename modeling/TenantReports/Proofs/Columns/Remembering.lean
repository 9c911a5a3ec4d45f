import TenantReports.Proofs.Columns.Run
import TenantReports.Proofs.Memo.Remembering

/-!
# Columns that are asked for once

**When the columns that a request has returned are never asked for again.** The runs are those in
which the table is not evicted; the requests, what they are answered and the order of all steps are
arbitrary.

* `remembersColumns_iff`: columns that were returned are returned to all who come later, without a
  question, exactly when none are lost as they are delivered; and they are lost only in a cell that
  a request which failed has taken away while another one held it.
* `not_remembersColumns_afterFailure`: this happens. One request fails, the next one at the cell
  begins before the first has taken the cell away, and a third request asks again for the columns
  that the second one has returned.
-/

namespace TenantReports

open Memo Memo.Machine

variable {events : List ColumnEvent} {machine : ColumnMachine} {key : ColumnKey}

/-! ### Two runs -/

/-- One request fails and takes its cell away, and the next one starts then and is answered; a third
one shares what it was answered. -/
def retriedFetch : List ColumnEvent :=
  [fetchEvent, .advance 0, .advance 0, .advance 0, .answer 0 failing, .advance 0, .advance 0,
    fetchEvent, .advance 1, .advance 1, .advance 1, fetchEvent, .advance 2, .answer 1 answering,
    .advance 1, .advance 2]

/-- Two requests hold the same cell. The first one fails, and the second one begins before the cell
is taken away, and is answered after that. -/
def lostFetchEarly : List ColumnEvent :=
  [fetchEvent, fetchEvent, .advance 0, .advance 0, .advance 1, .advance 0, .answer 0 failing,
    .advance 0, .advance 1, .advance 0, .answer 1 answering, .advance 1]

/-- After that a third request finds no cell and asks again. -/
def lostFetch : List ColumnEvent :=
  lostFetchEarly ++ [fetchEvent, .advance 2, .advance 2, .advance 2]

/-! ### The columns of a table -/

/-- **Columns that were returned are asked for no more exactly when none are lost**, and a request
loses them only in a cell that another one which failed has taken away. -/
theorem remembersColumns_iff (run : ColumnRun events machine)
    (spares : ∀ event ∈ events, event.spares key) :
    ((ofCells .empty : ColumnMachine).Remembers key events ↔
      ∀ before delivery, ¬(ofCells .empty : ColumnMachine).Loses key events before delivery) ∧
    ∀ before delivery, (ofCells .empty : ColumnMachine).Loses key events before delivery →
      ∃ withdrawal ∈ (ofCells .empty : ColumnMachine).withdrawals before, withdrawal.key = key ∧
        withdrawal.cell = delivery.cell :=
  ⟨remembers_iff run.ran spares, fun _ _ loses => withdrawn_of_loses spares loses⟩

theorem remembersColumns_iff_retriedFetch : ∃ machine, ColumnRun retriedFetch machine ∧
    (∀ event ∈ retriedFetch, event.spares someTable) ∧
    ((ofCells .empty : ColumnMachine).Remembers someTable retriedFetch ↔
      ∀ before delivery,
        ¬(ofCells .empty : ColumnMachine).Loses someTable retriedFetch before delivery) ∧
    ∀ before delivery,
      (ofCells .empty : ColumnMachine).Loses someTable retriedFetch before delivery →
      ∃ withdrawal ∈ (ofCells .empty : ColumnMachine).withdrawals before,
        withdrawal.key = someTable ∧ withdrawal.cell = delivery.cell := by
  have spares : ∀ event ∈ retriedFetch, event.spares someTable := by
    simp [retriedFetch, fetchEvent, columnsEvent, Event.spares]
  obtain ⟨machine, ran⟩ : ∃ machine, (ofCells .empty).run? retriedFetch = some machine := ⟨_, rfl⟩
  have run : ColumnRun retriedFetch machine := ⟨ran, by
    simp [retriedFetch, fetchEvent, columnsEvent, ColumnEvent.allowed]
    exact ⟨someSession, rfl, rfl⟩⟩
  exact ⟨machine, run, spares, remembersColumns_iff run spares⟩

/-- **A failure can lose columns**: they are asked for again after a request has returned them,
although the table was not evicted. -/
theorem not_remembersColumns_afterFailure : ∃ machine, ColumnRun lostFetch machine ∧
    (∀ event ∈ lostFetch, event.spares someTable) ∧ machine.outcome? 1 = some (.ok []) ∧
    (2, fetchQuestion) ∈ machine.asked ∧
    ¬(ofCells .empty : ColumnMachine).Remembers someTable lostFetch := by
  obtain ⟨machine, ran⟩ : ∃ machine, (ofCells .empty).run? lostFetch = some machine := ⟨_, rfl⟩
  have run : ColumnRun lostFetch machine := ⟨ran, by
    simp [lostFetch, lostFetchEarly, fetchEvent, columnsEvent, ColumnEvent.allowed]
    exact ⟨someSession, rfl, rfl⟩⟩
  refine ⟨machine, run, ?_, ?_, ?_, fun remembers => ?_⟩
  · simp [lostFetch, lostFetchEarly, fetchEvent, columnsEvent, Event.spares]
  · cases ran
    rfl
  · cases ran
    exact List.mem_cons_of_mem _ (List.mem_cons_of_mem _ List.mem_cons_self)
  · -- Right after the second request has returned its columns, the table has no cell.
    obtain ⟨early, ranEarly⟩ : ∃ early, (ofCells .empty : ColumnMachine).run? lostFetchEarly =
      some early := ⟨_, rfl⟩
    have lost : early.cells.get? someTable = none := by
      cases ranEarly
      rfl
    obtain ⟨call, here, same, returned⟩ : ∃ call, early.calls[1]? = some call ∧
        call.key = someTable ∧ call.phase = .returned (.ok []) := by
      cases ranEarly
      exact ⟨_, rfl, rfl, rfl⟩
    have serves := remembers _ _ early 1 call [] rfl ranEarly here same returned
    exact absurd (lost.symm.trans (get?_of_serves serves)) (by simp)

end TenantReports

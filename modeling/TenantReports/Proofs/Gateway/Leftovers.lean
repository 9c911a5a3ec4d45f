import TenantReports.Proofs.Columns.Remembering
import TenantReports.Proofs.Memo.Tending
import TenantReports.Proofs.Session.Sharing

/-!
# What requests leave behind

**Requests leave nothing behind but sessions and columns**, whatever they are answered, however
their steps, evictions and registrations follow each other.

* `tidy_gateway`: in the registry and in the cache of columns an empty cell is held by a request on
  its way for the same key. When all requests have returned, all cells are filled and count, and a
  caller whose sessions all failed to open has none.
* `tidy_gateway_afterFailure`: so it is after the runs in which a failure loses a session, and the
  columns of a table.
-/

namespace TenantReports

open Memo Memo.Machine

variable {environment : Option Credentials} {events : List RegistryEvent}
  {machine : RegistryMachine} {fetches : List ColumnEvent} {cache : ColumnMachine}

/-- **Neither the registry nor the cache of columns keeps what failed requests leave behind.** -/
theorem tidy_gateway (run : RegistryRun environment events machine)
    (fetched : ColumnRun fetches cache) : machine.Tidy events ∧ cache.Tidy fetches :=
  ⟨tidy_of_run run.ran, tidy_of_run fetched.ran⟩

theorem tidy_gateway_afterFailure : ∃ machine cache, RegistryRun (some somewhere) lostRun machine ∧
    ColumnRun lostFetch cache ∧ machine.Tidy lostRun ∧ cache.Tidy lostFetch := by
  obtain ⟨machine, ran⟩ : ∃ machine, (ofCells .empty).run? lostRun = some machine := ⟨_, rfl⟩
  obtain ⟨cache, fetched⟩ : ∃ cache, (ofCells .empty).run? lostFetch = some cache := ⟨_, rfl⟩
  have run : RegistryRun (some somewhere) lostRun machine := by
    refine ⟨ran, ?_⟩
    simp [lostRun, twoRequests, opens, resolveEvent, RegistryEvent.allowed]
  have fetchedRun : ColumnRun lostFetch cache := by
    refine ⟨fetched, ?_⟩
    simp [lostFetch, lostFetchEarly, fetchEvent, columnsEvent, ColumnEvent.allowed]
    exact ⟨someSession, rfl, rfl⟩
  obtain ⟨registryTidy, cacheTidy⟩ := tidy_gateway run fetchedRun
  exact ⟨machine, cache, run, fetchedRun, registryTidy, cacheTidy⟩

end TenantReports

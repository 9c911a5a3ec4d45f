import TenantReports.Proofs.Dialogue
import TenantReports.Session.Opening

/-!
# The dialogue in which a session is opened

**What is asked while a session is opened, and on whose behalf.** All statements are about every
point of every dialogue with `openSession`, whatever is answered.

* `Looked`: how the credentials of a caller are looked for: in the environment, or by one request to
  the caller's own settings service.
* `opening_of_leads`: the dialogue is still looking, or it has failed to find credentials, or it
  connects with those it found. All else follows from these three cases.
* `licensed_of_asks`: credentials that a database is connected to with are those of the environment,
  or else what the caller's settings service answered.
* `opened_of_leads`: a session is opened for the caller, by such a connect.
-/

namespace TenantReports

variable {environment : Option Credentials} {caller : SessionKey} {credentials : Credentials}
  {log : List (Exchange Ask.Answer)}

/-! ### Requests and connects on behalf of a caller -/

/-- **A request for the settings of a caller**: it goes to the caller's gateway and carries the
caller's tenant and token. -/
structure Addressed (caller : SessionKey) (request : SettingsRequest) : Prop where
  tenant : request.tenant = caller.tenant
  token : request.token = caller.token
  url : ∃ base, Net.Url.ofText? (Settings.entriesUrl caller.gatewayUrl) = some (.web base) ∧
    request.url = base.withPair "query" Settings.entryQuery

theorem addressed_of_request? {request : SettingsRequest}
    (made : Settings.request? caller.gatewayUrl caller.tenant caller.token = some request) :
    Addressed caller request := by
  unfold Settings.request? at made
  split at made
  · next base found =>
    split at made
    · cases made
      exact ⟨rfl, rfl, base, found, rfl⟩
    · cases made
  · cases made

/-- **The credentials a caller may be connected with**: those of the environment if it holds any,
else those that the answer to the request for the caller's settings yields, which are in its first
entry. -/
def Licensed (environment : Option Credentials) (caller : SessionKey)
    (log : List (Exchange Ask.Answer)) (credentials : Credentials) : Prop :=
  match environment with
  | some own => credentials = own
  | none => (∃ request outcome, (⟨.settings request, outcome⟩ : Exchange Ask.Answer) ∈ log) ∧
    ∀ request outcome, (⟨.settings request, outcome⟩ : Exchange Ask.Answer) ∈ log →
      Addressed caller request ∧ Settings.Yields outcome (.ok (some credentials))

/-! ### Looking for credentials -/

/-- **How credentials are looked for**, what was exchanged meanwhile, and what was found. -/
inductive Looked (caller : SessionKey) : Option Credentials → List (Exchange Ask.Answer) →
    Except Failure Credentials → Prop
  | environment (own : Credentials) : Looked caller (some own) [] (.ok own)
  | unbuildable : Looked caller none []
    (foundCredentials (.error (.transport "builder error")))
  | answered {request : SettingsRequest} (addressed : Addressed caller request)
    {outcome : Net.Outcome} {told : Except Settings.Error (Option Credentials)}
    (yields : Settings.Yields outcome told) :
    Looked caller none [⟨.settings request, outcome⟩] (foundCredentials told)

theorem looked_of_leads {last : GatewayTask (Except Failure Credentials)}
    (leads : (findCredentials environment caller).Leads log last) :
    (environment = none ∧ log = [] ∧
        ∃ request, last.question? = some (.settings request) ∧ Addressed caller request) ∨
      ∃ found, Looked caller environment log found ∧ last = .done found := by
  cases environment with
  | some own =>
    obtain ⟨rfl, rfl⟩ := leads.of_done
    exact Or.inr ⟨_, .environment own, rfl⟩
  | none =>
    simp only [findCredentials, Settings.lookup] at leads
    split at leads
    · obtain ⟨rfl, rfl⟩ := leads.of_done
      exact Or.inr ⟨_, .unbuildable, rfl⟩
    · next request made =>
      have addressed := addressed_of_request? made
      rcases leads.of_ask with ⟨rfl, rfl⟩ | ⟨outcome, rest, rfl, goesOn⟩
      · exact Or.inl ⟨rfl, rfl, request, rfl, addressed⟩
      · obtain ⟨rfl, rfl⟩ := goesOn.of_done
        exact Or.inr ⟨_, .answered addressed (Settings.yields_ofOutcome outcome), rfl⟩

/-- Only the caller's settings are asked for, and only if the environment holds no credentials. -/
theorem Looked.asks {found : Except Failure Credentials}
    (looked : Looked caller environment log found) :
    ∀ question ∈ log.map (·.1), environment = none ∧
      ∃ request, question = .settings request ∧ Addressed caller request := by
  cases looked with
  | environment | unbuildable => exact fun question member => absurd member List.not_mem_nil
  | @answered request addressed =>
    intro question member
    exact ⟨rfl, request, List.mem_singleton.mp member, addressed⟩

/-- Credentials that were found license the connect, if no more settings are asked for. -/
theorem Looked.licensed {rest : List (Exchange Ask.Answer)}
    (looked : Looked caller environment log (.ok credentials))
    (silent : ∀ request outcome, (⟨.settings request, outcome⟩ : Exchange Ask.Answer) ∉ rest) :
    Licensed environment caller (log ++ rest) credentials := by
  generalize result : Except.ok credentials = found at looked
  cases looked with
  | environment own => exact Except.ok.inj result
  | unbuildable => cases result
  | @answered request addressed outcome told yields =>
    have found : told = .ok (some credentials) := by
      cases told with
      | error => cases result
      | ok entry =>
        cases entry with
        | none => cases result
        | some => cases result; rfl
    refine ⟨⟨request, outcome, List.mem_cons_self⟩, fun request' outcome' member => ?_⟩
    rcases List.mem_cons.mp member with same | later
    · cases same
      exact ⟨addressed, found ▸ yields⟩
    · exact absurd later (silent request' outcome')

/-! ### Connecting -/

/-- To find out the convention, only the database and the counters are asked; the session that is
opened is the caller's. -/
theorem probed_of_leads {handle : Handle} {last : GatewayTask (Except Failure Session)}
    (leads : (probe caller handle).Leads log last) :
    (∀ question ∈ Task.asks log last, (∃ inner, question = .database handle inner) ∨
        question = .observe .sessionOpened) ∧
      ∀ session, last = .done (.ok session) → session.key = caller ∧ session.database = handle := by
  rcases leads.of_bind with ⟨question, next, stops, rfl⟩ | ⟨result, first, second, rfl, done, more⟩
  · exact ⟨fun asked member => Or.inl (stops.asks_of_lift asked member),
      fun session same => by cases same⟩
  · have inside : ∀ question ∈ first.map (·.1), ∃ inner, question = Ask.database handle inner :=
      fun question member => done.asks_of_lift question (List.mem_append_left _ member)
    cases result with
    | error failure =>
      obtain ⟨rfl, rfl⟩ := more.of_done
      refine ⟨fun question member => Or.inl (inside question ?_), fun session same => by cases same⟩
      simpa [Task.asks, Task.question?] using member
    | ok dialect =>
      rcases more.of_ask with ⟨rfl, rfl⟩ | ⟨answer, rest, rfl, goesOn⟩
      · refine ⟨fun question member => ?_, fun session same => by cases same⟩
        rcases List.mem_append.mp member with before | now
        · exact Or.inl (inside question (by simpa using before))
        · exact Or.inr (List.mem_singleton.mp now)
      · obtain ⟨rfl, rfl⟩ := goesOn.of_done
        refine ⟨fun question member => ?_, fun session same => by cases same; exact ⟨rfl, rfl⟩⟩
        simp only [Task.asks, Task.question?, List.map_append, List.map_cons, List.map_nil,
          Option.toList_none, List.append_nil] at member
        rcases List.mem_append.mp member with before | now
        · exact Or.inl (inside question before)
        · exact Or.inr (List.mem_singleton.mp now)

/-- **What is asked to connect**: first the connect, then the database and the counters. -/
theorem connected_of_leads {last : GatewayTask (Except Failure Session)}
    (leads : (connectWith caller credentials).Leads log last) :
    (∀ question ∈ Task.asks log last, question = .connect credentials ∨
        (∃ handle inner, question = .database handle inner) ∨ question = .observe .sessionOpened) ∧
      ∀ session, last = .done (.ok session) → session.key = caller ∧
        (⟨.connect credentials, .ok session.database⟩ : Exchange Ask.Answer) ∈ log := by
  rcases leads.of_ask with ⟨rfl, rfl⟩ | ⟨answer, rest, rfl, goesOn⟩
  · exact ⟨fun question member => Or.inl (List.mem_singleton.mp member),
      fun session same => by cases same⟩
  · cases answer with
    | error refusal =>
      obtain ⟨rfl, rfl⟩ := goesOn.of_done
      exact ⟨fun question member => Or.inl (List.mem_singleton.mp member),
        fun session same => by cases same⟩
    | ok handle =>
      obtain ⟨asks, opened⟩ := probed_of_leads goesOn
      refine ⟨fun question member => ?_, fun session same => ?_⟩
      · rcases List.mem_cons.mp member with rfl | later
        · exact Or.inl rfl
        · rcases asks question later with ⟨inner, rfl⟩ | rfl
          · exact Or.inr (Or.inl ⟨handle, inner, rfl⟩)
          · exact Or.inr (Or.inr rfl)
      · obtain ⟨mine, rfl⟩ := opened session same
        exact ⟨mine, List.mem_cons_self⟩

/-! ### Opening -/

/-- **Where a dialogue that opens a session may be.** -/
inductive Opening (environment : Option Credentials) (caller : SessionKey) :
    List (Exchange Ask.Answer) → GatewayTask (Except Failure Session) → Prop
  | looking {last : GatewayTask (Except Failure Session)} {request : SettingsRequest}
    (unset : environment = none) (waits : last.question? = some (.settings request))
    (addressed : Addressed caller request) : Opening environment caller [] last
  | unfound {log : List (Exchange Ask.Answer)} {failure : Failure}
    (looked : Looked caller environment log (.error failure)) :
    Opening environment caller log (.done (.error failure))
  | connecting {first second : List (Exchange Ask.Answer)} {credentials : Credentials}
    {last : GatewayTask (Except Failure Session)}
    (looked : Looked caller environment first (.ok credentials))
    (leads : (connectWith caller credentials).Leads second last) :
    Opening environment caller (first ++ second) last

/-- **Every dialogue that opens a session is at one of these places.** -/
theorem opening_of_leads {last : GatewayTask (Except Failure Session)}
    (leads : (openSession environment caller).Leads log last) :
    Opening environment caller log last := by
  rcases leads.of_bind with ⟨question, next, stops, rfl⟩ | ⟨found, first, second, rfl, done, more⟩
  · rcases looked_of_leads stops with ⟨unset, rfl, request, waits, addressed⟩ | ⟨found, -, same⟩
    · exact .looking unset waits addressed
    · cases same
  · rcases looked_of_leads done with ⟨-, -, request, waits, -⟩ | ⟨found', looked, same⟩
    · cases waits
    · cases same
      cases found with
      | error failure =>
        obtain ⟨rfl, rfl⟩ := more.of_done
        rw [List.append_nil]
        exact .unfound looked
      | ok credentials => exact .connecting looked more

variable {last : GatewayTask (Except Failure Session)}

/-- While a database is connected to, no settings are asked for. -/
theorem silent_of_connect {log : List (Exchange Ask.Answer)}
    (connects : (connectWith caller credentials).Leads log last) (request : SettingsRequest)
    (outcome : Net.Outcome) : (⟨.settings request, outcome⟩ : Exchange Ask.Answer) ∉ log := by
  intro member
  have asked : Ask.settings request ∈ Task.asks log last :=
    List.mem_append_left _ (List.mem_map.mpr ⟨_, member, rfl⟩)
  rcases (connected_of_leads connects).1 _ asked with same | ⟨_, _, same⟩ | same <;> cases same

/-- **A session that is opened is the caller's**, and its database was connected to with credentials
that the caller may be connected with. -/
theorem opened_of_leads {session : Session}
    (leads : (openSession environment caller).Leads log (.done (.ok session))) :
    session.key = caller ∧ ∃ credentials, Licensed environment caller log credentials ∧
      (⟨.connect credentials, .ok session.database⟩ : Exchange Ask.Answer) ∈ log := by
  generalize same : Task.done (Except.ok session) = last at leads
  cases opening_of_leads leads with
  | looking _ waits =>
    subst same
    cases waits
  | unfound => cases same
  | connecting looked connects =>
    obtain ⟨mine, member⟩ := (connected_of_leads connects).2 session same.symm
    exact ⟨mine, _, looked.licensed (silent_of_connect connects), List.mem_append_right _ member⟩

end TenantReports

import TenantReports.Proofs.Columns.Run
import TenantReports.Proofs.Gateway.Separation
import TenantReports.Proofs.Session.Isolation
import TenantReports.Proofs.Text.Hex
import TenantReports.Proofs.Text.Spelling

/-!
# Who the callers are

**A caller is what three headers show.** A value that shows as text names its caller exactly; one
with an octet that does not show counts as empty, like a header that is missing, so callers who
differ in such values only are one and the same.

* `Request.sends`: the octets that a request sends under a name.
* `Unseen`: values that count as empty; `shown_eq_iff`: no other ones are confused.
* `SessionKey.logId_digits`: a log shows sixteen digits of a caller.
* `Gives`: a call for a key returned a value; `ApartCallers`: two callers are given sessions and
  columns of their own.
* `sameCaller_iff`: two requests have the same caller exactly when all their values are the same or
  unseen, and different callers are kept apart.
-/

namespace TenantReports

open Memo Memo.Machine

/-! ### What a request sends -/

/-- The headers that name the caller. -/
def callerHeaders : List String :=
  [tenantHeader, urlHeader, tokenHeader]

/-- **The octets that a request sends under a name**; none if it has no such header. -/
def Request.sends (request : Request) (name : String) : List UInt8 :=
  ((request.headers.find? fun header => Text.sameAscii header.1 name).map (·.2)).getD []

/-- What is seen of a value. -/
def shown (value : List UInt8) : List UInt8 :=
  if value.all isHeaderText then value else []

/-- A value that counts as empty: it is, or one of its octets does not show as text. -/
def Unseen (value : List UInt8) : Prop :=
  value = [] ∨ value.all isHeaderText = false

instance (value : List UInt8) : Decidable (Unseen value) :=
  inferInstanceAs (Decidable (_ ∨ _))

theorem shown_eq_nil_iff {value : List UInt8} : shown value = [] ↔ Unseen value := by
  unfold shown Unseen
  cases all : value.all isHeaderText with
  | true => simp only [if_true, Bool.true_eq_false, or_false]
  | false => simp only [Bool.false_eq_true, if_false, or_true]

/-- **Only values that count as empty are confused.** -/
theorem shown_eq_iff {first second : List UInt8} :
    shown first = shown second ↔ first = second ∨ Unseen first ∧ Unseen second := by
  constructor
  · intro same
    by_cases unseen : Unseen first
    · have none : shown second = [] := same ▸ shown_eq_nil_iff.mpr unseen
      exact .inr ⟨unseen, shown_eq_nil_iff.mp none⟩
    · have seen : ∀ {value}, ¬Unseen value → shown value = value := by
        intro value seen
        have all : value.all isHeaderText = true := by
          simpa using (not_or.mp seen).2
        exact if_pos all
      have seenToo : ¬Unseen second := fun unseen' =>
        unseen (shown_eq_nil_iff.mp (same.trans (shown_eq_nil_iff.mpr unseen')))
      rw [seen unseen, seen seenToo] at same
      exact .inl same
  · rintro (rfl | ⟨unseen, unseen'⟩)
    · rfl
    · rw [shown_eq_nil_iff.mpr unseen, shown_eq_nil_iff.mpr unseen']

/-- The text of a header is what is seen of its value, character by octet. -/
theorem headerText_eq_shown (request : Request) (name : String) :
    headerText request.headers name =
      String.ofList ((shown (request.sends name)).map Text.ofOctet) := by
  unfold headerText Request.sends shown
  cases request.headers.find? fun header => Text.sameAscii header.1 name with
  | none => rfl
  | some header =>
    obtain ⟨named, value⟩ := header
    by_cases all : value.all isHeaderText = true
    · simp only [all, Option.map_some, Option.getD_some, if_true]
      rfl
    · simp only [all, Option.map_some, Option.getD_some]
      rfl

/-- Texts of headers are the same where what is seen of their values is. -/
theorem headerText_eq_iff {first second : Request} {name : String} :
    headerText first.headers name = headerText second.headers name ↔
      first.sends name = second.sends name ∨
        Unseen (first.sends name) ∧ Unseen (second.sends name) := by
  rw [headerText_eq_shown, headerText_eq_shown, String.ofList_inj,
    List.map_inj_right fun _ _ => Text.ofOctet_injective, shown_eq_iff]

/-- **A log shows sixteen digits of a caller**, whatever the headers say. -/
theorem SessionKey.logId_digits (key : SessionKey) :
    key.logId.length = 16 ∧ ∀ c ∈ key.logId.toList, Text.Hex.isDigit c = true := by
  unfold logId
  rw [String.toList_ofList, String.length_ofList]
  refine ⟨?_, fun c member => ?_⟩
  · rw [List.length_take, Text.Hex.length_ofOctets, Sha256.digest_length]
    rfl
  · obtain ⟨value, small, rfl⟩ := Text.Hex.exists_digit_of_mem (List.mem_of_mem_take member)
    exact Text.Hex.isDigit_digit small

/-! ### What callers are given -/

section Gives

variable {Key Value Error : Type} {Ask : Type} {Answer : Ask → Type}
  {events : List (Event Key Ask Answer Value Error)}
  {machine : Machine Key Ask Answer Value Error} {key : Key} {value : Value}

/-- A call for a key returned a value. -/
def Gives (machine : Machine Key Ask Answer Value Error) (key : Key) (value : Value) : Prop :=
  ∃ (i : Nat) (call : Call Key Ask Answer Value Error), machine.calls[i]? = some call ∧
    call.key = key ∧ call.phase = .returned (.ok value)

theorem gives_of_outcome? {i : Nat} (called : machine.calls[i]?.map (·.key) = some key)
    (outcome : machine.outcome? i = some (.ok value)) : Gives machine key value := by
  obtain ⟨call, here, same⟩ := Option.map_eq_some_iff.mp called
  refine ⟨i, call, here, same, ?_⟩
  rw [outcome?, here, Option.bind_some] at outcome
  cases phase : call.phase with
  | returned result =>
    rw [phase] at outcome
    exact congrArg _ (Option.some.inj outcome)
  | _ =>
    rw [phase] at outcome
    cases outcome

/-- What a call returned was brought by a call for the same key, if nothing was put in. -/
theorem Gives.delivery [DecidableEq Key] [Inhabited Key] {owner : CellId → Key}
    (gives : Gives machine key value) (sound : Sound owner machine)
    (told : Told (ofCells .empty) owner events machine)
    (closed : ∀ key value, Event.insert key value ∉ events) :
    ∃ delivery ∈ (ofCells .empty).deliveries events, delivery.key = key ∧
      delivery.value = value := by
  obtain ⟨i, call, here, rfl, returned⟩ := gives
  obtain ⟨cell, mine, holds⟩ := sound.backed i call value here returned
  rcases told.source cell value holds with ⟨delivery, member, owned, -, same⟩ | inserted
  · exact ⟨delivery, member, owned.trans mine, same⟩
  · exact absurd inserted (closed _ _)

end Gives

/-- **Two callers are given what is their own**, whatever happens to the registry and the cache:
sessions that were opened or registered for the one and for the other, and columns that calls of
their own brought into different cells. -/
structure ApartCallers (one other : SessionKey) : Prop where
  sessions : ∀ environment events machine, RegistryRun environment events machine →
    ∀ session session', Gives machine one session → Gives machine other session' →
      session ≠ session' ∧ Origin environment events machine one session ∧
        Origin environment events machine other session'
  columns : ∀ events machine, ColumnRun events machine →
    ∀ key key' : ColumnKey, key.session = one → key'.session = other →
      ∀ columns columns', Gives machine key columns → Gives machine key' columns' →
        ∃ brought ∈ (ofCells .empty).deliveries events,
          ∃ brought' ∈ (ofCells .empty).deliveries events,
            (brought.key = key ∧ brought.value = columns) ∧
              (brought'.key = key' ∧ brought'.value = columns') ∧ brought.cell ≠ brought'.cell

/-- A session that the registry gives is the caller's own. -/
theorem origin_of_gives {environment : Option Credentials} {events : List RegistryEvent}
    {machine : RegistryMachine} (run : RegistryRun environment events machine)
    {caller : SessionKey} {session : Session} (gives : Gives machine caller session) :
    session.key = caller ∧ Origin environment events machine caller session := by
  obtain ⟨owner, sound, told⟩ := history_of_run run.ran
  obtain ⟨i, call, here, rfl, returned⟩ := gives
  obtain ⟨cell, owned, holds⟩ := sound.backed i call session here returned
  exact owned ▸ origin_of_value run told holds

/-- **Different callers are kept apart.** -/
theorem apartCallers_of_ne {one other : SessionKey} (differ : one ≠ other) :
    ApartCallers one other where
  sessions environment events machine run session session' gives gives' := by
    obtain ⟨mine, origin⟩ := origin_of_gives run gives
    obtain ⟨others, origin'⟩ := origin_of_gives run gives'
    refine ⟨?_, origin, origin'⟩
    rintro rfl
    exact differ (mine.symm.trans others)
  columns events machine run key key' mine others columns columns' gives gives' := by
    obtain ⟨owner, sound, told⟩ := history_of_run run.ran
    have closed : ∀ key value, Event.insert key value ∉ events := fun key value inserted =>
      run.allowed _ inserted
    obtain ⟨brought, member, own⟩ := gives.delivery sound told closed
    obtain ⟨brought', member', own'⟩ := gives'.delivery sound told closed
    refine ⟨brought, member, brought', member', own, own', fun same => ?_⟩
    -- A cell has one owner, and the owners of these two belong to different callers.
    have sameKey : key = key' := by
      rw [← own.1, ← own'.1, ← (told.kept brought member).1, same,
        (told.kept brought' member').1]
    apply differ
    rw [← mine, ← others, sameKey]

/-- **Two requests have the same caller exactly when all their values are the same or unseen**, and
different callers are never given the same session or the same kept columns. -/
theorem sameCaller_iff (first second : Request) :
    (first.caller = second.caller ↔ ∀ name ∈ callerHeaders,
        first.sends name = second.sends name ∨
          Unseen (first.sends name) ∧ Unseen (second.sends name)) ∧
      (first.caller ≠ second.caller → ApartCallers first.caller second.caller) := by
  refine ⟨?_, apartCallers_of_ne⟩
  simp only [callerHeaders, List.forall_mem_cons, List.not_mem_nil, false_imp_iff, implies_true,
    and_true, ← headerText_eq_iff]
  exact SessionKey.mk.injEq .. ▸ Iff.rfl

theorem sameCaller_iff_twoCallers :
    (columnsRequest someone "users").caller ≠ (columnsRequest someoneElse "users").caller ∧
      ∃ machine, RegistryRun none apartRun machine ∧
        Gives machine (columnsRequest someone "users").caller ⟨someone, ⟨0⟩, .metadb⟩ ∧
        Gives machine (columnsRequest someoneElse "users").caller ⟨someoneElse, ⟨7⟩, .ldp⟩ ∧
        Origin none apartRun machine (columnsRequest someone "users").caller
          ⟨someone, ⟨0⟩, .metadb⟩ := by
  have differ : (columnsRequest someone "users").caller ≠
      (columnsRequest someoneElse "users").caller := by
    decide +kernel
  have completes : ((ofCells .empty : RegistryMachine).run? apartRun).any (fun machine =>
      machine.calls[0]?.map (·.key) = some (columnsRequest someone "users").caller ∧
      machine.outcome? 0 = some (.ok ⟨someone, ⟨0⟩, .metadb⟩) ∧
      machine.calls[2]?.map (·.key) = some (columnsRequest someoneElse "users").caller ∧
      machine.outcome? 2 = some (.ok ⟨someoneElse, ⟨7⟩, .ldp⟩)) = true := by
    decide +kernel
  obtain ⟨machine, ran, returned⟩ := Option.any_eq_true _ _ |>.mp completes
  obtain ⟨called, outcome, called', outcome'⟩ := of_decide_eq_true returned
  have run : RegistryRun none apartRun machine := ⟨ran, by
    simp [apartRun, resolveEvent, RegistryEvent.allowed]⟩
  have gives := gives_of_outcome? called outcome
  have gives' := gives_of_outcome? called' outcome'
  have apart := (sameCaller_iff (columnsRequest someone "users")
    (columnsRequest someoneElse "users")).2 differ
  exact ⟨differ, machine, run, gives, gives',
    (apart.sessions none apartRun machine run _ _ gives gives').2.1⟩

/-- Whether a value of a header may have an octet. -/
def isHeaderOctet (b : UInt8) : Bool :=
  b == 0x09 || (0x20 ≤ b && b != 0x7F)

/-- A request that a server accepts and that names its caller once: no header of the three is
repeated, and values have only octets that a value may have. -/
def Request.Presents (request : Request) : Prop :=
  (∀ name ∈ callerHeaders,
      (request.headers.filter fun header => Text.sameAscii header.1 name).length ≤ 1) ∧
    request.headers.all (fun header => header.2.all isHeaderOctet) = true

instance (request : Request) : Decidable request.Presents :=
  inferInstanceAs (Decidable (_ ∧ _))

/-- A request for the tables with the given token. -/
def tokenRequest (token : List UInt8) : Request :=
  ⟨"GET", Route.tables.path, none,
    [(tenantHeader, Text.Utf8.ofString "diku"), (tokenHeader, token)], []⟩

/-- **Callers with different tokens can be one and the same**: two letters beyond ASCII do. -/
theorem not_exactCaller_accents :
    ¬∀ first second : Request, first.Presents → second.Presents →
      (∃ name ∈ callerHeaders, first.sends name ≠ second.sends name) →
      first.caller ≠ second.caller := by
  intro always
  have accepted : (tokenRequest (Text.Utf8.ofString "é")).Presents ∧
      (tokenRequest (Text.Utf8.ofString "è")).Presents := by
    decide +kernel
  have differ : ∃ name ∈ callerHeaders, (tokenRequest (Text.Utf8.ofString "é")).sends name ≠
      (tokenRequest (Text.Utf8.ofString "è")).sends name :=
    ⟨tokenHeader, by decide, by decide +kernel⟩
  have same : (tokenRequest (Text.Utf8.ofString "é")).caller =
      (tokenRequest (Text.Utf8.ofString "è")).caller := by
    decide +kernel
  exact always _ _ accepted.1 accepted.2 differ same

end TenantReports

import TenantReports.Proofs.Dialogue
import TenantReports.Proofs.Memo.Delivery

/-!
# What a call was answered

**Every call that gets a value follows its own dialogue with the outside**, however its steps are
mixed with those of others.

* `Machine.conversation`: the questions of a call that were answered, with the answers.
* `Follows`: the dialogue with the computation of a call led to the phase that the call is in.
* `Spoken`: all calls follow their dialogues, the questions asked are those of the dialogues, and a
  value that was delivered is what the dialogue of the delivering call ended with.
* `spoken_of_run`: this holds after every run. `Spoken.asks` then finds every question that was
  asked in the dialogue of the call that asked it.
-/

set_option linter.unusedSectionVars false

namespace TenantReports.Memo.Machine

variable {Key Value Error : Type} {Ask : Type} {Answer : Ask → Type} [DecidableEq Key]

variable {start machine next : Machine Key Ask Answer Value Error}
  {event : Event Key Ask Answer Value Error} {events : List (Event Key Ask Answer Value Error)}

/-! ### The answers that a call got -/

/-- The question that a step answers, with the answer and the call that asked. -/
def exchange? (machine : Machine Key Ask Answer Value Error) :
    Event Key Ask Answer Value Error → Option (Nat × Exchange Answer)
  | .answer i reply => machine.calls[i]?.bind fun call => call.phase.question?.map fun question =>
    (i, ⟨question, reply question⟩)
  | _ => none

/-- What a call was answered, in order. -/
def conversation (start : Machine Key Ask Answer Value Error)
    (events : List (Event Key Ask Answer Value Error)) (i : Nat) : List (Exchange Answer) :=
  (start.record exchange? events).filterMap fun noted => if noted.1 = i then some noted.2 else none

theorem conversation_snoc (ran : start.run? events = some machine)
    (event : Event Key Ask Answer Value Error) (i : Nat) :
    start.conversation (events ++ [event]) i = start.conversation events i ++
      (machine.exchange? event).toList.filterMap fun noted =>
        if noted.1 = i then some noted.2 else none := by
  unfold conversation
  rw [record_snoc exchange? ran event, List.filterMap_append]

/-- A step in which a call is not answered leaves its conversation as it is. -/
theorem conversation_of_quiet (ran : start.run? events = some machine) {i : Nat}
    (quiet : ∀ reply, event ≠ .answer i reply) :
    start.conversation (events ++ [event]) i = start.conversation events i := by
  rw [conversation_snoc ran]
  refine (congrArg _ ?_).trans (List.append_nil _)
  refine List.filterMap_eq_nil_iff.mpr fun noted member => if_neg ?_
  rintro rfl
  have answered := Option.mem_toList.mp member
  cases event with
  | answer j reply =>
    obtain ⟨call, -, noted⟩ := Option.bind_eq_some_iff.mp answered
    obtain ⟨question, -, rfl⟩ := Option.map_eq_some_iff.mp noted
    exact quiet reply rfl
  | _ => cases answered

theorem conversation_of_answer (ran : start.run? events = some machine) {i : Nat}
    {call : Call Key Ask Answer Value Error} {cell : CellId} {question : Ask}
    {rest : Answer question → Task Ask Answer (Except Error Value)}
    (here : machine.calls[i]? = some call) (phase : call.phase = .getting cell (.ask question rest))
    (reply : (question : Ask) → Answer question) :
    start.conversation (events ++ [.answer i reply]) i =
      start.conversation events i ++ [⟨question, reply question⟩] := by
  have answered : machine.exchange? (.answer i reply) = some (i, ⟨question, reply question⟩) := by
    show machine.calls[i]?.bind _ = _
    rw [here, Option.bind_some, phase]
    rfl
  rw [conversation_snoc ran, answered]
  simp only [Option.toList_some, List.filterMap_cons, List.filterMap_nil, if_true]

/-- What a call was answered stays. -/
theorem conversation_subset (ran : start.run? events = some machine) (i : Nat) :
    start.conversation events i ⊆ start.conversation (events ++ [event]) i := by
  rw [conversation_snoc ran]
  exact List.subset_append_left _ _

/-! ### Dialogues and phases -/

/-- **The dialogue with the computation of a call led to its phase.** A call that never got the
value itself was answered nothing. -/
def Follows (call : Call Key Ask Answer Value Error) (log : List (Exchange Answer)) : Prop :=
  match call.phase with
  | .looking | .making | .waiting _ => log = []
  | .getting _ rest => call.get.Leads log rest
  | .failing _ error => call.get.Leads log (.done (.error error))
  | .returned outcome => call.get.Leads log (.done outcome) ∨ log = []

/-- A call that was answered anything is somewhere in its dialogue. -/
theorem Follows.leads {call : Call Key Ask Answer Value Error} {log : List (Exchange Answer)}
    (follows : Follows call log) (spoke : log ≠ []) : ∃ last, call.get.Leads log last := by
  unfold Follows at follows
  split at follows
  · exact absurd follows spoke
  · exact absurd follows spoke
  · exact absurd follows spoke
  · exact ⟨_, follows⟩
  · exact ⟨_, follows⟩
  · exact ⟨_, follows.resolve_right spoke⟩

/-- **All calls follow their dialogues**, of which the questions are those that were asked. -/
structure Spoken (start : Machine Key Ask Answer Value Error)
    (events : List (Event Key Ask Answer Value Error))
    (machine : Machine Key Ask Answer Value Error) : Prop where
  follows : ∀ (i : Nat) (call : Call Key Ask Answer Value Error), machine.calls[i]? = some call →
    Follows call (start.conversation events i)
  fresh : ∀ i, machine.calls.length ≤ i → start.conversation events i = []
  asked : ∀ (i : Nat) (question : Ask), (i, question) ∈ machine.asked →
    question ∈ (start.conversation events i).map (·.1) ∨
      ∃ call, machine.calls[i]? = some call ∧ call.phase.question? = some question
  delivered : ∀ delivery ∈ start.deliveries events, ∃ call,
    machine.calls[delivery.call]? = some call ∧
    call.key = delivery.key ∧ call.phase = .returned (.ok delivery.value) ∧
    call.get.Leads (start.conversation events delivery.call) (.done (.ok delivery.value))

namespace Spoken

/-- A step in which no call is answered brings one call to another phase. -/
theorem follows_put (spoken : Spoken start events machine) (ran : start.run? events = some machine)
    (quiet : ∀ i reply, event ≠ .answer i reply) {i j : Nat}
    {stepped call : Call Key Ask Answer Value Error} {phase : Phase Ask Answer Value Error}
    (here : machine.calls[j]? = some stepped)
    (becomes : Follows stepped (start.conversation events j) →
      Follows { stepped with phase } (start.conversation events j))
    (there : (machine.put j stepped phase).calls[i]? = some call) :
    Follows call (start.conversation (events ++ [event]) i) := by
  rw [conversation_of_quiet ran (quiet i)]
  rw [calls_put here] at there
  split at there
  · next same =>
    subst same
    cases there
    exact becomes (spoken.follows i stepped here)
  · exact spoken.follows i call there

/-- **Every step keeps to the dialogues.** -/
theorem follows_step (spoken : Spoken start events machine) (ran : start.run? events = some machine)
    (taken : Step machine event next) {i : Nat} {call : Call Key Ask Answer Value Error}
    (there : next.calls[i]? = some call) :
    Follows call (start.conversation (events ++ [event]) i) := by
  cases taken with
  | start key get =>
    rw [conversation_of_quiet ran (by rintro _ ⟨⟩)]
    rcases calls_start there with before | ⟨rfl, rfl⟩
    · exact spoken.follows i call before
    · exact spoken.fresh _ (Nat.le_refl _)
  | evict | evictAll | insert =>
    rw [conversation_of_quiet ran (by rintro _ ⟨⟩)]
    exact spoken.follows i call there
  | found here phase | missed here phase | made here phase =>
    refine spoken.follows_put ran (by rintro _ _ ⟨⟩) here (fun before => ?_) there
    simp only [Follows, phase] at before
    exact before
  | shared here phase =>
    refine spoken.follows_put ran (by rintro _ _ ⟨⟩) here (fun before => ?_) there
    simp only [Follows, phase] at before
    exact Or.inr before
  | began here phase =>
    -- The dialogue begins here, with nothing answered yet.
    refine spoken.follows_put ran (by rintro _ _ ⟨⟩) here (fun before => ?_) there
    simp only [Follows, phase] at before
    rw [before]
    exact .refl _
  | failed here phase =>
    refine spoken.follows_put ran (by rintro _ _ ⟨⟩) here (fun before => ?_) there
    simp only [Follows, phase] at before
    exact before
  | filled here phase | discarded here phase =>
    refine spoken.follows_put ran (by rintro _ _ ⟨⟩) here (fun before => ?_) there
    simp only [Follows, phase] at before
    exact Or.inl before
  | @answered j stepped cell question rest reply here phase =>
    rw [calls_put here] at there
    split at there
    · next same =>
      subst same
      cases there
      have before := spoken.follows i stepped here
      simp only [Follows, phase] at before
      rw [conversation_of_answer ran here phase]
      exact before.snoc (reply question)
    · next other =>
      rw [conversation_of_quiet ran fun _ same => other (Event.answer.inj same).1.symm]
      exact spoken.follows i call there

/-- A call that has not started was answered nothing. -/
theorem fresh_step (spoken : Spoken start events machine) (ran : start.run? events = some machine)
    (taken : Step machine event next) {i : Nat} (later : next.calls.length ≤ i) :
    start.conversation (events ++ [event]) i = [] := by
  have earlier := Nat.le_trans (length_le_of_step taken) later
  rw [conversation_of_quiet ran ?_, spoken.fresh i earlier]
  rintro reply rfl
  cases taken with
  | answered _ here => exact absurd (List.getElem?_eq_some_iff.mp here).1 (Nat.not_lt.mpr earlier)

/-- A question that was asked is answered in the dialogue, or waits. -/
theorem asked_step (spoken : Spoken start events machine) (ran : start.run? events = some machine)
    (taken : Step machine event next) {i : Nat} {question : Ask}
    (asked : (i, question) ∈ next.asked) :
    question ∈ (start.conversation (events ++ [event]) i).map (·.1) ∨
      ∃ call, next.calls[i]? = some call ∧ call.phase.question? = some question := by
  rcases asked_of_step taken asked with before | waits
  · rcases spoken.asked i question before with answered | ⟨call, here, waits⟩
    · exact Or.inl (List.map_subset _ (conversation_subset ran i) answered)
    · rcases waits_or_answered taken here waits with ⟨reply, rfl⟩ | still
      · obtain ⟨cell, rest, phase⟩ := Phase.question?_eq_some waits
        rw [conversation_of_answer ran here phase, List.map_append]
        exact Or.inl (List.mem_append_right _ (List.mem_singleton.mpr rfl))
      · exact Or.inr ⟨call, still, waits⟩
  · exact Or.inr waits

/-- What was delivered is what the dialogue of the call ended with. -/
theorem delivered_step (spoken : Spoken start events machine)
    (ran : start.run? events = some machine) (taken : Step machine event next)
    {delivery : Delivery Key Value} (member : delivery ∈ start.deliveries (events ++ [event])) :
    ∃ call, next.calls[delivery.call]? = some call ∧ call.key = delivery.key ∧
      call.phase = .returned (.ok delivery.value) ∧
      call.get.Leads (start.conversation (events ++ [event]) delivery.call)
        (.done (.ok delivery.value)) := by
  rcases (mem_deliveries_snoc ran event).mp member with before | now
  · obtain ⟨call, here, same, returned, leads⟩ := spoken.delivered delivery before
    refine ⟨call, returned_of_step taken here returned, same, returned, ?_⟩
    rw [conversation_of_quiet ran ?_]
    · exact leads
    · rintro reply rfl
      cases taken with
      | answered _ there phase =>
        rw [here] at there
        cases there
        rw [returned] at phase
        cases phase
  · obtain ⟨rfl, call, here, same, phase, -⟩ := delivery?_eq_some now
    have before := spoken.follows _ call here
    simp only [Follows, phase] at before
    have after := step_delivers taken here phase
    subst after
    refine ⟨_, (calls_put here _ _).trans (if_pos rfl), same, rfl, ?_⟩
    rw [conversation_of_quiet ran (by rintro _ ⟨⟩)]
    exact before

/-- **What a call has asked are the questions of its dialogue.** -/
theorem asks (spoken : Spoken start events machine) {i : Nat} {question : Ask}
    (asked : (i, question) ∈ machine.asked) :
    ∃ call last, machine.calls[i]? = some call ∧
      call.get.Leads (start.conversation events i) last ∧
      question ∈ Task.asks (start.conversation events i) last := by
  rcases spoken.asked i question asked with answered | ⟨call, here, waits⟩
  · obtain ⟨exchange, member, -⟩ := List.mem_map.mp answered
    have spoke := List.ne_nil_of_mem member
    have started : i < machine.calls.length := by
      by_contra absent
      exact spoke (spoken.fresh i (Nat.not_lt.mp absent))
    obtain ⟨last, leads⟩ := (spoken.follows i _ (List.getElem?_eq_getElem started)).leads spoke
    exact ⟨_, last, List.getElem?_eq_getElem started, leads, List.mem_append_left _ answered⟩
  · obtain ⟨cell, rest, phase⟩ := Phase.question?_eq_some waits
    have follows := spoken.follows i call here
    simp only [Follows, phase] at follows
    exact ⟨call, _, here, follows, List.mem_append_right _ (List.mem_singleton.mpr rfl)⟩

theorem step (spoken : Spoken start events machine) (ran : start.run? events = some machine)
    (taken : Step machine event next) : Spoken start (events ++ [event]) next where
  follows _ _ there := spoken.follows_step ran taken there
  fresh _ later := spoken.fresh_step ran taken later
  asked _ _ asked := spoken.asked_step ran taken asked
  delivered _ member := spoken.delivered_step ran taken member

end Spoken

/-- **Calls follow their dialogues in every run.** -/
theorem spoken_of_run {cells : Cells Key Value} (ran : (ofCells cells).run? events = some machine) :
    Spoken (ofCells cells) events machine := by
  refine run_invariant (motive := Spoken (ofCells cells)) ?_
    (fun _ _ _ _ ran spoken taken => spoken.step ran taken) ran
  exact
    { follows := fun _ _ here => nomatch here
      fresh := fun _ _ => rfl
      asked := fun _ _ asked => absurd asked List.not_mem_nil
      delivered := fun _ member => absurd member List.not_mem_nil }

end TenantReports.Memo.Machine

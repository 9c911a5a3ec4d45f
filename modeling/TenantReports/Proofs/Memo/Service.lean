import TenantReports.Proofs.Memo.Conversation
import TenantReports.Proofs.Memo.Sharing

/-!
# Calls that come after a value

**A value that is kept under a key is served to every call that comes to its cell from then on**, as
long as the key is left to its lookups until the call has come there. Such a call asks nothing, and
it returns the value after two steps of its own; the steps of others neither stop it nor add to
them, not even those that take the cell away once the call holds it.

* `Unplaced`: a call has come to no cell yet.
* `Paced`: how far a call is that was unplaced, after a number of steps of its own. Every step keeps
  the pace (`Attends.step`).
* `Serves`: every call for a key that is unplaced now is served a value.
* `serves_of_get?`, `get?_of_serves`: the value that is kept under a key is served, and no other.
-/

set_option linter.unusedSectionVars false

namespace TenantReports.Memo

variable {Key Value Error : Type} {Ask : Type} {Answer : Ask → Type}

/-- Whether an event is a step that a call takes by itself. -/
def Event.isStepOf (i : Nat) : Event Key Ask Answer Value Error → Bool
  | .advance j => decide (i = j)
  | _ => false

/-- The number of steps that a call took by itself. -/
def Event.steps (i : Nat) (events : List (Event Key Ask Answer Value Error)) : Nat :=
  events.countP (Event.isStepOf i)

theorem Event.steps_snoc (i : Nat) (events : List (Event Key Ask Answer Value Error))
    (event : Event Key Ask Answer Value Error) :
    Event.steps i (events ++ [event]) =
      Event.steps i events + if event.isStepOf i then 1 else 0 := by
  unfold Event.steps
  rw [List.countP_append, List.countP_singleton]

theorem Event.eq_advance {i : Nat} {event : Event Key Ask Answer Value Error}
    (own : event.isStepOf i = true) : event = .advance i := by
  cases event with
  | advance j => rw [of_decide_eq_true own]
  | _ => cases own

/-- **A key is left to its lookups until a call takes its first step**; what happens to it later
does not matter. -/
def Event.SparesUntil (key : Key) (i : Nat) (events : List (Event Key Ask Answer Value Error)) :
    Prop :=
  ∀ before event after, events = before ++ event :: after → Event.steps i before = 0 →
    event.spares key

theorem Event.SparesUntil.of_snoc {key : Key} {i : Nat}
    {events : List (Event Key Ask Answer Value Error)} {event : Event Key Ask Answer Value Error}
    (spares : Event.SparesUntil key i (events ++ [event])) :
    Event.SparesUntil key i events ∧ (Event.steps i events = 0 → event.spares key) := by
  refine ⟨fun before now after split none => ?_, fun none => spares events event [] rfl none⟩
  exact spares before now (after ++ [event]) (by rw [split, List.append_assoc]; rfl) none

namespace Machine

variable [DecidableEq Key]

variable {machine next : Machine Key Ask Answer Value Error}
  {event : Event Key Ask Answer Value Error} {events : List (Event Key Ask Answer Value Error)}
  {owner : CellId → Key} {key : Key} {cell : CellId} {value : Value} {i : Nat}

/-! ### The steps of one call -/

theorem Step.unique {other : Machine Key Ask Answer Value Error} (taken : Step machine event next)
    (again : Step machine event other) : next = other :=
  Option.some.inj ((step?_of_step taken).symm.trans (step?_of_step again))

theorem exists_of_advance (taken : Step machine (.advance i) next) :
    ∃ call, machine.calls[i]? = some call := by
  obtain ⟨call, here, -⟩ := Option.bind_eq_some_iff.mp (step?_of_step taken)
  exact ⟨call, here⟩

theorem exists_key_of_advance {call : Call Key Ask Answer Value Error}
    (taken : Step machine (.advance i) next) (there : next.calls[i]? = some call) :
    ∃ before, machine.calls[i]? = some before ∧ before.key = call.key := by
  rcases call_or_start taken there with ⟨before, here, same, -⟩ | ⟨-, started, -⟩
  · exact ⟨before, here, same⟩
  · cases started

theorem call_of_put {cells : Cells Key Value} {stepped call : Call Key Ask Answer Value Error}
    {phase : Phase Ask Answer Value Error} (here : machine.calls[i]? = some stepped)
    (there : ({ machine with cells }.put i stepped phase).calls[i]? = some call) :
    call.phase = phase := by
  rw [call_put here phase] at there
  exact congrArg Call.phase (Option.some.inj there).symm

theorem not_advance_of_returned {call : Call Key Ask Answer Value Error}
    {outcome : Except Error Value} (here : machine.calls[i]? = some call)
    (returned : call.phase = .returned outcome) : ¬Step machine (.advance i) next := by
  intro taken
  have stepped : machine.calls[i]?.bind (machine.advance? i) = some next := step?_of_step taken
  simp only [here, Option.bind_some, advance?, returned, reduceCtorEq] at stepped

/-- **The steps of others leave a call as it is**, if it does not start with them. -/
theorem call_of_others {call : Call Key Ask Answer Value Error} (taken : Step machine event next)
    (others : event.isStepOf i = false) (unanswered : ∀ reply, event ≠ .answer i reply)
    (there : next.calls[i]? = some call) :
    machine.calls[i]? = some call ∨ (i = machine.calls.length ∧ call.phase = .looking) := by
  cases taken with
  | start key get =>
    rcases calls_start there with before | ⟨last, rfl⟩
    · exact Or.inl before
    · exact Or.inr ⟨last, rfl⟩
  | evict | evictAll | insert => exact Or.inl there
  | found here | missed here | made here | shared here | began here | filled here | failed here
  | discarded here =>
    refine Or.inl ((if_neg ?_).symm.trans ((calls_put here _ i).symm.trans there))
    exact of_decide_eq_false others
  | answered reply here =>
    refine Or.inl ((if_neg ?_).symm.trans ((calls_put here _ i).symm.trans there))
    rintro rfl
    exact unanswered reply rfl

/-! ### Calls that have come to no cell -/

/-- **A call has come to no cell yet**: it looks for one, is about to make one, or has not started.
-/
def Unplaced (machine : Machine Key Ask Answer Value Error) (i : Nat) : Prop :=
  ∀ call, machine.calls[i]? = some call → call.phase = .looking ∨ call.phase = .making

theorem unplaced_of_length_le (later : machine.calls.length ≤ i) : machine.Unplaced i :=
  fun _ here => absurd (List.getElem?_eq_some_iff.mp here).1 (Nat.not_lt.mpr later)

/-- A call that has come to no cell has asked nothing. -/
theorem silent_of_unplaced {cells : Cells Key Value}
    (ran : (ofCells cells).run? events = some machine) (unplaced : machine.Unplaced i)
    (question : Ask) : (i, question) ∉ machine.asked := by
  intro asked
  have spoken := spoken_of_run ran
  rcases spoken.asked i question asked with answered | ⟨call, here, waits⟩
  · have spoke : (ofCells cells).conversation events i ≠ [] := by
      intro silent
      rw [silent] at answered
      cases answered
    by_cases started : i < machine.calls.length
    · have here := List.getElem?_eq_getElem started
      have follows := spoken.follows i _ here
      rcases unplaced _ here with phase | phase <;> simp only [Follows, phase] at follows <;>
        exact spoke follows
    · exact spoke (spoken.fresh i (Nat.not_lt.mp started))
  · rcases unplaced call here with phase | phase <;> rw [phase] at waits <;> cases waits

/-! ### The pace of a call -/

/-- **How far a call is** that had come to no cell, after a number of steps of its own. -/
inductive Paced (cell : CellId) (value : Value) : Nat → Phase Ask Answer Value Error → Prop
  | looking : Paced cell value 0 .looking
  | making : Paced cell value 0 .making
  | waiting : Paced cell value 1 (.waiting cell)
  | returned : Paced cell value 2 (.returned (.ok value))

theorem not_paced_getting {count : Nat} {busy : CellId}
    {rest : Task Ask Answer (Except Error Value)} :
    ¬Paced cell value count (.getting busy rest) := by
  rintro ⟨⟩

/-- **A call comes to the cell that holds a value**, and to the value, at its pace. The cell is that
of the key until the call has taken a step. -/
structure Attends (i : Nat) (key : Key) (cell : CellId) (value : Value)
    (events : List (Event Key Ask Answer Value Error))
    (machine : Machine Key Ask Answer Value Error) : Prop where
  holds : machine.cells.value? cell = some value
  slot : Event.steps i events = 0 → machine.cells.slot? key = some cell
  fresh : machine.calls.length ≤ i →
    Event.steps i events = 0 ∧ ∀ question, (i, question) ∉ machine.asked
  paced : ∀ call, machine.calls[i]? = some call → call.key = key →
    Paced cell value (Event.steps i events) call.phase
  silent : ∀ call question, machine.calls[i]? = some call → call.key = key →
    (i, question) ∉ machine.asked

namespace Attends

/-- A call that steps goes on to the cell, or to the value in it. -/
theorem paced_of_advance {call : Call Key Ask Answer Value Error}
    (attends : Attends i key cell value events machine) (taken : Step machine (.advance i) next)
    (there : next.calls[i]? = some call) (same : call.key = key) :
    Paced cell value (Event.steps i events + 1) call.phase := by
  obtain ⟨before, here, keyOld⟩ := exists_key_of_advance taken there
  have mine := keyOld.trans same
  have paced := attends.paced before here mine
  have slot := attends.slot
  generalize Event.steps i events = count at paced slot ⊢
  generalize phase : before.phase = reached at paced
  cases paced with
  | looking =>
    obtain rfl := taken.unique (.found here phase (mine ▸ slot rfl))
    rw [call_of_put here there]
    exact .waiting
  | making =>
    obtain rfl := taken.unique (.made here phase)
    rw [call_of_put here there, Cells.hold_of_slot (mine ▸ slot rfl)]
    exact .waiting
  | waiting =>
    obtain rfl := taken.unique (.shared here phase attends.holds)
    rw [call_of_put here there]
    exact .returned
  | returned => exact absurd taken (not_advance_of_returned here phase)

theorem not_answered {call : Call Key Ask Answer Value Error} {reply : (q : Ask) → Answer q}
    (attends : Attends i key cell value events machine)
    (taken : Step machine (.answer i reply) next) (there : next.calls[i]? = some call) :
    call.key ≠ key := by
  intro same
  cases taken with
  | @answered _ stepped _ _ _ _ here phase =>
    obtain rfl : _ = call := Option.some.inj ((if_pos rfl).symm.trans
      ((calls_put here _ i).symm.trans there))
    exact not_paced_getting (phase ▸ attends.paced stepped here same)

theorem paced_step {call : Call Key Ask Answer Value Error}
    (attends : Attends i key cell value events machine) (taken : Step machine event next)
    (there : next.calls[i]? = some call) (same : call.key = key) :
    Paced cell value (Event.steps i (events ++ [event])) call.phase := by
  rw [Event.steps_snoc]
  by_cases own : event.isStepOf i = true
  · obtain rfl := Event.eq_advance own
    rw [if_pos own]
    exact attends.paced_of_advance taken there same
  · rw [if_neg own, Nat.add_zero]
    have unanswered : ∀ reply, event ≠ .answer i reply := by
      rintro reply rfl
      exact attends.not_answered taken there same
    rcases call_of_others taken (Bool.eq_false_iff.mpr own) unanswered there with
      before | ⟨rfl, looking⟩
    · exact attends.paced call before same
    · rw [(attends.fresh (Nat.le_refl _)).1, looking]
      exact .looking

/-- **Every step keeps the pace of the call**, if it spares the key until the call has taken a step
of its own. -/
theorem step (attends : Attends i key cell value events machine) (owned : Owned owner machine)
    (taken : Step machine event next) (spares : Event.steps i events = 0 → event.spares key) :
    Attends i key cell value (events ++ [event]) next where
  holds := value?_of_step owned taken attends.holds
  slot none := by
    rw [Event.steps_snoc] at none
    have before := Nat.eq_zero_of_add_eq_zero_right none
    exact slot?_of_step taken (spares before) (attends.slot before) attends.holds
  fresh later := by
    have earlier := Nat.le_trans (length_le_of_step taken) later
    refine ⟨?_, fun question asked => ?_⟩
    · rw [Event.steps_snoc, (attends.fresh earlier).1, if_neg]
      intro own
      obtain rfl := Event.eq_advance own
      obtain ⟨call, here⟩ := exists_of_advance taken
      exact absurd (List.getElem?_eq_some_iff.mp here).1 (Nat.not_lt.mpr earlier)
    · rcases asked_of_step taken asked with before | ⟨call, there, -⟩
      · exact (attends.fresh earlier).2 question before
      · exact absurd (List.getElem?_eq_some_iff.mp there).1 (Nat.not_lt.mpr later)
  paced _ there same := attends.paced_step taken there same
  silent call question there same asked := by
    rcases asked_of_step taken asked with before | ⟨asking, again, waits⟩
    · rcases call_or_start taken there with ⟨old, here, keyOld, -⟩ | ⟨rfl, -⟩
      · exact attends.silent old question here (keyOld.trans same) before
      · exact (attends.fresh (Nat.le_refl _)).2 question before
    · rw [there] at again
      cases again
      obtain ⟨_, _, phase⟩ := Phase.question?_eq_some waits
      exact not_paced_getting (phase ▸ attends.paced_step taken there same)

/-- **A call keeps the pace in every run** that spares the key until the call has taken a step of
its own. -/
theorem run (attends : Attends i key cell value [] machine) (sound : Sound owner machine)
    (ran : machine.run? events = some next) (spares : Event.SparesUntil key i events) :
    Attends i key cell value events next := by
  revert spares
  refine (run_invariant (motive := fun events now => (∃ owner, Sound owner now) ∧
    (Event.SparesUntil key i events → Attends i key cell value events now))
    ⟨⟨owner, sound⟩, fun _ => attends⟩ (fun events now event next _ before taken => ?_) ran).2
  obtain ⟨⟨owner, sound⟩, attends⟩ := before
  obtain ⟨owner', -, sound'⟩ := sound.step taken
  refine ⟨⟨owner', sound'⟩, fun spares => ?_⟩
  exact (attends spares.of_snoc.1).step sound.owned taken spares.of_snoc.2

end Attends

/-! ### What is served -/

/-- A call returns a value if it takes a number of steps now, and asks nothing meanwhile. -/
def Returns (machine : Machine Key Ask Answer Value Error) (i owed : Nat) (value : Value) : Prop :=
  ∃ last, machine.run? (List.replicate owed (.advance i)) = some last ∧
    last.outcome? i = some (.ok value) ∧ last.asked = machine.asked

theorem Returns.cons {owed : Nat} (taken : Step machine (.advance i) next)
    (silent : next.asked = machine.asked) (returns : next.Returns i owed value) :
    machine.Returns i (owed + 1) value := by
  obtain ⟨last, ran, returned, asked⟩ := returns
  exact ⟨last, Option.bind_eq_some_iff.mpr ⟨next, step?_of_step taken, ran⟩, returned,
    asked.trans silent⟩

theorem returns_of_waiting {call : Call Key Ask Answer Value Error}
    (here : machine.calls[i]? = some call) (phase : call.phase = .waiting cell)
    (holds : machine.cells.value? cell = some value) : machine.Returns i 1 value := by
  refine .cons (.shared here phase holds) (List.append_nil _) ⟨_, rfl, ?_, rfl⟩
  exact outcome?_put machine.cells here (.returned (.ok value))

/-- A call that keeps the pace takes what is left of its two steps, whenever it can. -/
theorem Paced.returns {call : Call Key Ask Answer Value Error} {taken : Nat}
    (paced : Paced cell value taken call.phase) (here : machine.calls[i]? = some call)
    (slot : taken = 0 → machine.cells.slot? call.key = some cell)
    (holds : machine.cells.value? cell = some value) :
    ∃ owed, taken + owed = 2 ∧ machine.Returns i owed value := by
  generalize phase : call.phase = reached at paced
  cases paced with
  | looking =>
    refine ⟨2, rfl, .cons (.found here phase (slot rfl)) (List.append_nil _) ?_⟩
    exact returns_of_waiting ((calls_put here _ i).trans (if_pos rfl)) rfl holds
  | making =>
    have made := Step.made here phase
    rw [Cells.hold_of_slot (slot rfl)] at made
    refine ⟨2, rfl, .cons made (List.append_nil _) ?_⟩
    exact returns_of_waiting ((calls_put here _ i).trans (if_pos rfl)) rfl holds
  | waiting => exact ⟨1, rfl, returns_of_waiting here phase holds⟩
  | returned =>
    refine ⟨0, rfl, machine, rfl, ?_, rfl⟩
    unfold outcome?
    rw [here, Option.bind_some, phase]
    rfl

/-- **A call is served a value**: it asks nothing, and of the two steps after which it returns the
value it has taken some and can take the others now. -/
structure Served (machine : Machine Key Ask Answer Value Error) (i taken : Nat) (value : Value) :
    Prop where
  silent : ∀ question, (i, question) ∉ machine.asked
  returns : ∃ owed, taken + owed = 2 ∧ machine.Returns i owed value

/-- **Every call for a key that comes to its cell from now on is served a value**, as long as the
key is left to its lookups until the call has come there. -/
def Serves (machine : Machine Key Ask Answer Value Error) (key : Key) (value : Value) : Prop :=
  ∀ events next (i : Nat) (call : Call Key Ask Answer Value Error), machine.Unplaced i →
    machine.run? events = some next → Event.SparesUntil key i events →
    next.calls[i]? = some call → call.key = key → next.Served i (Event.steps i events) value

/-- A call that has come to no cell attends to the value that is kept under its key. -/
theorem attends_of_unplaced {cells : Cells Key Value}
    (ran : (ofCells cells).run? events = some machine)
    (has : machine.cells.slot? key = some cell) (holds : machine.cells.value? cell = some value)
    (unplaced : machine.Unplaced i) : Attends i key cell value [] machine where
  holds := holds
  slot _ := has
  fresh _ := ⟨rfl, silent_of_unplaced ran unplaced⟩
  paced call here _ := by
    rcases unplaced call here with phase | phase
    · exact phase ▸ .looking
    · exact phase ▸ .making
  silent _ question _ _ := silent_of_unplaced ran unplaced question

/-- **What is kept under a key is served.** -/
theorem serves_of_get? {cells : Cells Key Value}
    (ran : (ofCells cells).run? events = some machine) (sound : Sound owner machine)
    (kept : machine.cells.get? key = some value) : machine.Serves key value := by
  obtain ⟨cell, has, holds⟩ := Cells.get?_eq_some_iff.mp kept
  intro after next i call unplaced ranAfter spares there same
  have attends := (attends_of_unplaced ran has holds unplaced).run sound ranAfter spares
  refine ⟨fun question => attends.silent call question there same, ?_⟩
  exact (attends.paced call there same).returns there (fun none => same ▸ attends.slot none)
    attends.holds

/-- **What is served is kept under the key**: a call that starts now has found it there. -/
theorem get?_of_serves (serves : machine.Serves key value) :
    machine.cells.get? key = some value := by
  let get : Task Ask Answer (Except Error Value) := .done (.ok value)
  have spares : Event.SparesUntil key machine.calls.length
      [(.start key get : Event Key Ask Answer Value Error)] := by
    intro before event after split _
    have member : event ∈ [(.start key get : Event Key Ask Answer Value Error)] :=
      split ▸ List.mem_append_right _ List.mem_cons_self
    rw [List.mem_singleton.mp member]
    trivial
  have served := serves _ _ machine.calls.length _ (unplaced_of_length_le (Nat.le_refl _))
    (show machine.run? [.start key get] = some (machine.started key get) from rfl) spares
    (call_of_started machine key get) rfl
  obtain ⟨owed, total, last, ran, returned, asked⟩ := served.returns
  obtain rfl : owed = 2 := (Nat.zero_add owed).symm.trans total
  have answers : machine.Answers key get value := ⟨last, ran, returned, asked⟩
  exact get?_of_answers answers

end Machine

end TenantReports.Memo

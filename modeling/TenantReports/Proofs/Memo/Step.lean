import Mathlib.Data.List.Induction
import TenantReports.Memo.Machine

/-!
# The steps of concurrent lookups

**What one step does, and what holds along a run.**

* `Machine.Step`: the steps a machine can take, one constructor for each thing that can happen.
  `step_of_step?` and `step?_of_step` are the only places where the step function is opened; all
  invariants follow the constructors.
* `Machine.stays_or_steps`, `Machine.slot?_source`: what a step leaves as it was, and where the cell
  of a key comes from.
* `Machine.run_invariant`: what holds at the start and is kept by every step holds after every run.
  It speaks of the events so far, so that an invariant may tell the history of a run;
  `run_invariant_of_all` is for runs in which only events of a kind happen.
* `Machine.record`: what a run leaves in a log that notes one thing at most about each step.
-/

set_option linter.unusedSectionVars false

namespace TenantReports.Memo

variable {Key Value Error : Type} {Ask : Type} {Answer : Ask → Type}

/-- The cell that a call holds while it is not done with it. -/
def Phase.cell? : Phase Ask Answer Value Error → Option CellId
  | .waiting cell | .getting cell _ | .failing cell _ => some cell
  | _ => none

theorem Phase.question?_eq_some {phase : Phase Ask Answer Value Error} {question : Ask}
    (waits : phase.question? = some question) :
    ∃ cell rest, phase = .getting cell (.ask question rest) := by
  unfold Phase.question? at waits
  split at waits
  · cases waits
    exact ⟨_, _, rfl⟩
  · cases waits

/-- An event that leaves the cell of a key to the lookups. -/
def Event.spares (key : Key) : Event Key Ask Answer Value Error → Prop
  | .evict other | .insert other _ => other ≠ key
  | .evictAll kind => kind key = false
  | _ => True

namespace Machine

variable [DecidableEq Key]

/-! ### One step -/

/-- **What a step does.** A call that steps is at place `i`; `call` is what it was before. -/
inductive Step (machine : Machine Key Ask Answer Value Error) :
    Event Key Ask Answer Value Error → Machine Key Ask Answer Value Error → Prop
  | start (key : Key) (get : Task Ask Answer (Except Error Value)) :
    Step machine (.start key get) { machine with calls := machine.calls ++ [⟨key, get, .looking⟩] }
  | found {i : Nat} {call : Call Key Ask Answer Value Error} {cell : CellId}
    (here : machine.calls[i]? = some call) (phase : call.phase = .looking)
    (has : machine.cells.slot? call.key = some cell) :
    Step machine (.advance i) (machine.put i call (.waiting cell))
  | missed {i : Nat} {call : Call Key Ask Answer Value Error}
    (here : machine.calls[i]? = some call) (phase : call.phase = .looking)
    (lacks : machine.cells.slot? call.key = none) :
    Step machine (.advance i) (machine.put i call .making)
  | made {i : Nat} {call : Call Key Ask Answer Value Error}
    (here : machine.calls[i]? = some call) (phase : call.phase = .making) :
    Step machine (.advance i)
      ({ machine with cells := (machine.cells.hold call.key).2 }.put i call
        (.waiting (machine.cells.hold call.key).1))
  | shared {i : Nat} {call : Call Key Ask Answer Value Error} {cell : CellId} {value : Value}
    (here : machine.calls[i]? = some call) (phase : call.phase = .waiting cell)
    (holds : machine.cells.value? cell = some value) :
    Step machine (.advance i) (machine.put i call (.returned (.ok value)))
  | began {i : Nat} {call : Call Key Ask Answer Value Error} {cell : CellId}
    (here : machine.calls[i]? = some call) (phase : call.phase = .waiting cell)
    (empty : machine.cells.value? cell = none) (free : machine.isBusy cell = false) :
    Step machine (.advance i) (machine.put i call (.getting cell call.get))
  | filled {i : Nat} {call : Call Key Ask Answer Value Error} {cell : CellId} {value : Value}
    (here : machine.calls[i]? = some call)
    (phase : call.phase = .getting cell (.done (.ok value))) :
    Step machine (.advance i)
      ({ machine with cells := machine.cells.fill cell value }.put i call (.returned (.ok value)))
  | failed {i : Nat} {call : Call Key Ask Answer Value Error} {cell : CellId} {error : Error}
    (here : machine.calls[i]? = some call)
    (phase : call.phase = .getting cell (.done (.error error))) :
    Step machine (.advance i) (machine.put i call (.failing cell error))
  | discarded {i : Nat} {call : Call Key Ask Answer Value Error} {cell : CellId} {error : Error}
    (here : machine.calls[i]? = some call) (phase : call.phase = .failing cell error) :
    Step machine (.advance i)
      ({ machine with cells := machine.cells.discard call.key cell }.put i call
        (.returned (.error error)))
  | answered {i : Nat} {call : Call Key Ask Answer Value Error} {cell : CellId} {question : Ask}
    {rest : Answer question → Task Ask Answer (Except Error Value)}
    (reply : (question : Ask) → Answer question)
    (here : machine.calls[i]? = some call)
    (phase : call.phase = .getting cell (.ask question rest)) :
    Step machine (.answer i reply)
      (machine.put i call (.getting cell (rest (reply question))))
  | evict (key : Key) : Step machine (.evict key) { machine with cells := machine.cells.erase key }
  | evictAll (kind : Key → Bool) :
    Step machine (.evictAll kind) { machine with cells := (machine.cells.evictAll kind).2 }
  | insert (key : Key) (value : Value) :
    Step machine (.insert key value) { machine with cells := machine.cells.insert key value }

theorem step_of_advance? {machine next : Machine Key Ask Answer Value Error} {i : Nat}
    {call : Call Key Ask Answer Value Error} (here : machine.calls[i]? = some call)
    (taken : machine.advance? i call = some next) : Step machine (.advance i) next := by
  unfold advance? at taken
  split at taken
  case h_1 phase =>
    split at taken
    · next has => exact Option.some.inj taken ▸ .found here phase has
    · next lacks => exact Option.some.inj taken ▸ .missed here phase lacks
  case h_2 phase => exact Option.some.inj taken ▸ .made here phase
  case h_3 cell phase =>
    split at taken
    · next holds => exact Option.some.inj taken ▸ .shared here phase holds
    · next empty =>
      split at taken
      · cases taken
      · next free =>
        exact Option.some.inj taken ▸ .began here phase empty (Bool.eq_false_iff.mpr free)
  case h_4 phase => exact Option.some.inj taken ▸ .filled here phase
  case h_5 phase => exact Option.some.inj taken ▸ .failed here phase
  case h_6 => cases taken
  case h_7 phase => exact Option.some.inj taken ▸ .discarded here phase
  case h_8 => cases taken

/-- **A step that is taken is one of `Step`.** -/
theorem step_of_step? {machine next : Machine Key Ask Answer Value Error}
    {event : Event Key Ask Answer Value Error} (taken : machine.step? event = some next) :
    Step machine event next := by
  cases event with
  | start key get => exact Option.some.inj taken ▸ .start key get
  | advance i =>
    obtain ⟨call, here, taken⟩ := Option.bind_eq_some_iff.mp taken
    exact step_of_advance? here taken
  | answer i reply =>
    obtain ⟨call, here, taken⟩ := Option.bind_eq_some_iff.mp taken
    unfold answer? at taken
    split at taken
    · next phase => exact Option.some.inj taken ▸ .answered reply here phase
    · cases taken
  | evict key => exact Option.some.inj taken ▸ .evict key
  | evictAll kind => exact Option.some.inj taken ▸ .evictAll kind
  | insert key value => exact Option.some.inj taken ▸ .insert key value

/-- **Every step of `Step` can be taken.** -/
theorem step?_of_step {machine next : Machine Key Ask Answer Value Error}
    {event : Event Key Ask Answer Value Error} (taken : Step machine event next) :
    machine.step? event = some next := by
  have advances : ∀ {i : Nat} {call : Call Key Ask Answer Value Error},
      machine.calls[i]? = some call → machine.step? (.advance i) = machine.advance? i call :=
    fun here => (congrArg (Option.bind · _) here).trans (Option.bind_some _ _)
  cases taken with
  | start | evict | evictAll | insert => rfl
  | found here phase has =>
    rw [advances here]
    simp only [advance?, phase, has]
  | missed here phase lacks =>
    rw [advances here]
    simp only [advance?, phase, lacks]
  | shared here phase holds =>
    rw [advances here]
    simp only [advance?, phase, holds]
  | began here phase empty free =>
    rw [advances here]
    simp only [advance?, phase, empty, free, Bool.false_eq_true, if_false]
  | made here phase | filled here phase | failed here phase | discarded here phase =>
    rw [advances here]
    simp only [advance?, phase]
  | answered reply here phase =>
    refine (congrArg (Option.bind · _) here).trans ?_
    simp only [Option.bind_some, answer?, phase]

/-- The calls after one of them has stepped. -/
theorem calls_put {machine : Machine Key Ask Answer Value Error} {i : Nat}
    {call : Call Key Ask Answer Value Error} (here : machine.calls[i]? = some call)
    (phase : Phase Ask Answer Value Error) (j : Nat) :
    (machine.put i call phase).calls[j]? =
      if j = i then some { call with phase } else machine.calls[j]? := by
  have inside : i < machine.calls.length := (List.getElem?_eq_some_iff.mp here).1
  show (machine.calls.set i { call with phase })[j]? = _
  rw [List.getElem?_set]
  by_cases same : j = i
  · rw [if_pos same.symm, if_pos inside, if_pos same]
  · rw [if_neg (Ne.symm same), if_neg same]

/-- A call that has stepped is in its new phase. -/
theorem call_put {machine : Machine Key Ask Answer Value Error} {i : Nat} {cells : Cells Key Value}
    {call : Call Key Ask Answer Value Error} (here : machine.calls[i]? = some call)
    (phase : Phase Ask Answer Value Error) :
    ({ machine with cells }.put i call phase).calls[i]? = some { call with phase } := by
  have stepped := calls_put here phase i
  rwa [if_pos rfl] at stepped

/-- The calls after one more has started. -/
theorem calls_start {machine : Machine Key Ask Answer Value Error}
    {call call' : Call Key Ask Answer Value Error} {j : Nat}
    (here : (machine.calls ++ [call])[j]? = some call') :
    machine.calls[j]? = some call' ∨ (j = machine.calls.length ∧ call' = call) := by
  rw [List.getElem?_append] at here
  split at here
  · exact Or.inl here
  · next beyond =>
    right
    obtain ⟨inside, same⟩ := List.getElem?_eq_some_iff.mp here
    rw [List.length_singleton] at inside
    rw [List.getElem_singleton] at same
    exact ⟨by omega, same.symm⟩

/-- **A call keeps its key and its way to get the value**, from the event in which it starts. -/
theorem call_or_start {machine next : Machine Key Ask Answer Value Error}
    {event : Event Key Ask Answer Value Error} {j : Nat} {call : Call Key Ask Answer Value Error}
    (taken : Step machine event next) (there : next.calls[j]? = some call) :
    (∃ before, machine.calls[j]? = some before ∧ before.key = call.key ∧ before.get = call.get) ∨
      (j = machine.calls.length ∧ event = .start call.key call.get ∧ call.phase = .looking) := by
  cases taken with
  | start key get =>
    rcases calls_start there with before | ⟨last, rfl⟩
    · exact Or.inl ⟨call, before, rfl, rfl⟩
    · exact Or.inr ⟨last, rfl, rfl⟩
  | evict | evictAll | insert => exact Or.inl ⟨call, there, rfl, rfl⟩
  | found here | missed here | made here | shared here | began here | filled here | failed here
  | discarded here | answered _ here =>
    replace there := (calls_put here _ j).symm.trans there
    split at there
    · next same =>
      cases there
      rw [← same] at here
      exact Or.inl ⟨_, here, rfl, rfl⟩
    · exact Or.inl ⟨call, there, rfl, rfl⟩

/-- A question that is noted is asked by the call that steps. -/
theorem asked_put {machine : Machine Key Ask Answer Value Error} {i j : Nat}
    {call : Call Key Ask Answer Value Error} {phase : Phase Ask Answer Value Error} {question : Ask}
    (noted : (j, question) ∈ (machine.put i call phase).asked) :
    (j, question) ∈ machine.asked ∨ (j = i ∧ phase.question? = some question) := by
  rcases List.mem_append.mp noted with before | now
  · exact Or.inl before
  · right
    obtain ⟨asked, same, pair⟩ := Option.map_eq_some_iff.mp (Option.mem_toList.mp now)
    cases pair
    exact ⟨rfl, same⟩

/-- No call is forgotten. -/
theorem length_le_of_step {machine next : Machine Key Ask Answer Value Error}
    {event : Event Key Ask Answer Value Error} (taken : Step machine event next) :
    machine.calls.length ≤ next.calls.length := by
  cases taken with
  | start => exact (List.length_append ▸ Nat.le_add_right _ _)
  | evict | evictAll | insert => exact Nat.le_refl _
  | _ => exact Nat.le_of_eq (List.length_set ..).symm

/-- **What a step asks**: nothing, or the question of the call that steps. -/
theorem asked_of_step {machine next : Machine Key Ask Answer Value Error}
    {event : Event Key Ask Answer Value Error} {j : Nat} {question : Ask}
    (taken : Step machine event next)
    (asked : (j, question) ∈ next.asked) :
    (j, question) ∈ machine.asked ∨
      ∃ call, next.calls[j]? = some call ∧ call.phase.question? = some question := by
  cases taken with
  | start | evict | evictAll | insert => exact Or.inl asked
  | found here | missed here | made here | shared here | began here | filled here | failed here
  | discarded here | answered _ here =>
    rcases asked_put asked with before | ⟨rfl, same⟩
    · exact Or.inl before
    · exact Or.inr ⟨_, (calls_put here _ _).trans (if_pos rfl), same⟩

/-- **A call stays as it is unless it steps**, by itself or with an answer. -/
theorem stays_or_steps {machine next : Machine Key Ask Answer Value Error}
    {event : Event Key Ask Answer Value Error} {i : Nat} {call : Call Key Ask Answer Value Error}
    (taken : Step machine event next) (here : machine.calls[i]? = some call) :
    next.calls[i]? = some call ∨ event = .advance i ∨ ∃ reply, event = .answer i reply := by
  cases taken with
  | start => exact Or.inl (List.getElem?_append_left (List.getElem?_eq_some_iff.mp here).1 ▸ here)
  | evict | evictAll | insert => exact Or.inl here
  | @answered j _ _ _ _ reply there =>
    by_cases same : i = j
    · exact Or.inr (Or.inr ⟨reply, by rw [same]⟩)
    · exact Or.inl ((calls_put there _ i).trans ((if_neg same).trans here))
  | @found j _ _ there | @missed j _ there | @made j _ there | @shared j _ _ _ there
  | @began j _ _ there | @filled j _ _ _ there | @failed j _ _ _ there | @discarded j _ _ _ there =>
    by_cases same : i = j
    · exact Or.inr (Or.inl (by rw [same]))
    · exact Or.inl ((calls_put there _ i).trans ((if_neg same).trans here))

/-- **A call that waits for an answer waits until it is answered.** -/
theorem waits_or_answered {machine next : Machine Key Ask Answer Value Error}
    {event : Event Key Ask Answer Value Error} {i : Nat} {call : Call Key Ask Answer Value Error}
    {question : Ask} (taken : Step machine event next) (here : machine.calls[i]? = some call)
    (waits : call.phase.question? = some question) :
    (∃ reply, event = .answer i reply) ∨ next.calls[i]? = some call := by
  rcases stays_or_steps taken here with stays | rfl | answered
  · exact Or.inr stays
  · cases taken with
    | found there phase | missed there phase | made there phase | shared there phase
    | began there phase | filled there phase | failed there phase | discarded there phase =>
      cases here.symm.trans there
      rw [phase] at waits
      cases waits
  · exact Or.inl answered

/-- **Where the cell of a key comes from**: the key had it, or it was just made. Then a call for the
key waits at it, or it is filled. -/
theorem slot?_source {machine next : Machine Key Ask Answer Value Error}
    {event : Event Key Ask Answer Value Error} {key : Key} {cell : CellId}
    (taken : Step machine event next) (has : next.cells.slot? key = some cell) :
    machine.cells.slot? key = some cell ∨ cell = machine.cells.next ∧
      ((∃ (i : Nat) (call : Call Key Ask Answer Value Error), next.calls[i]? = some call ∧
        call.key = key ∧ call.phase = .waiting cell) ∨ next.cells.value? cell ≠ none) := by
  cases taken with
  | @made i call here =>
    replace has := (Cells.slot?_hold _ _ _).symm.trans has
    split at has
    · next same =>
      subst same
      cases before : machine.cells.slot? call.key with
      | some kept =>
        rw [Cells.hold_of_slot before] at has
        exact Or.inl has
      | none =>
        have made : (machine.cells.hold call.key).1 = machine.cells.next := by
          rw [Cells.hold_of_none before]
        cases has
        exact Or.inr ⟨made, Or.inl ⟨i, _, call_put here _, rfl, rfl⟩⟩
    · exact Or.inl has
  | filled => exact Or.inl ((Cells.slot?_fill _ _ _ _).symm.trans has)
  | discarded => exact Or.inl (Cells.slot?_of_discard has)
  | evict => exact Or.inl (Cells.slot?_of_erase has)
  | evictAll => exact Or.inl (Cells.slot?_of_evictAll has)
  | insert other value =>
    replace has := (Cells.slot?_insert _ _ _ _).symm.trans has
    split at has
    · cases has
      have holds : (machine.cells.insert other value).value? machine.cells.next = some value :=
        (Cells.value?_insert _ _ _ _).trans (if_pos rfl)
      exact Or.inr ⟨rfl, Or.inr (holds.trans_ne (Option.some_ne_none value))⟩
    · exact Or.inl has
  | _ => exact Or.inl has

/-- A cell is busy as long as a call gets its value. -/
theorem isBusy_of_filling {machine : Machine Key Ask Answer Value Error} {i : Nat}
    {call : Call Key Ask Answer Value Error} {cell : CellId}
    (here : machine.calls[i]? = some call) (filling : call.phase.filling? = some cell) :
    machine.isBusy cell = true := by
  refine List.any_eq_true.mpr ⟨call, List.mem_of_getElem? here, ?_⟩
  rw [filling]
  exact beq_self_eq_true _

/-! ### Runs -/

theorem run?_append (machine : Machine Key Ask Answer Value Error)
    (first second : List (Event Key Ask Answer Value Error)) :
    machine.run? (first ++ second) = (machine.run? first).bind fun next => next.run? second := by
  induction first generalizing machine with
  | nil => rfl
  | cons event rest ih =>
    show (machine.step? event).bind (fun next => next.run? (rest ++ second)) =
      ((machine.step? event).bind fun next => next.run? rest).bind fun next => next.run? second
    rw [Option.bind_assoc]
    exact congrArg _ (funext fun next => ih next)

theorem run?_snoc (machine : Machine Key Ask Answer Value Error)
    (events : List (Event Key Ask Answer Value Error)) (event : Event Key Ask Answer Value Error) :
    machine.run? (events ++ [event]) = (machine.run? events).bind fun next => next.step? event := by
  rw [run?_append]
  refine congrArg _ (funext fun next => ?_)
  show (next.step? event).bind some = next.step? event
  cases next.step? event <;> rfl

/-- **Induction on runs.** What holds at the start with no events so far, and is kept by every step
that a run takes, holds after every run. -/
theorem run_invariant {start : Machine Key Ask Answer Value Error}
    {motive : List (Event Key Ask Answer Value Error) →
      Machine Key Ask Answer Value Error → Prop}
    (initial : motive [] start)
    (kept : ∀ events machine event next, start.run? events = some machine →
      motive events machine → Step machine event next → motive (events ++ [event]) next)
    {events : List (Event Key Ask Answer Value Error)}
    {machine : Machine Key Ask Answer Value Error}
    (ran : start.run? events = some machine) : motive events machine := by
  induction events using List.reverseRecOn generalizing machine with
  | nil => exact Option.some.inj ran ▸ initial
  | append_singleton events event ih =>
    rw [run?_snoc] at ran
    obtain ⟨before, ranBefore, taken⟩ := Option.bind_eq_some_iff.mp ran
    exact kept events before event machine ranBefore (ih ranBefore) (step_of_step? taken)

/-- **Induction on runs of events of a kind.** -/
theorem run_invariant_of_all {start : Machine Key Ask Answer Value Error}
    {allowed : Event Key Ask Answer Value Error → Prop}
    {motive : List (Event Key Ask Answer Value Error) →
      Machine Key Ask Answer Value Error → Prop}
    (initial : motive [] start)
    (kept : ∀ events machine event next, start.run? events = some machine →
      (∀ event ∈ events, allowed event) → motive events machine → Step machine event next →
      allowed event → motive (events ++ [event]) next)
    {events : List (Event Key Ask Answer Value Error)}
    {machine : Machine Key Ask Answer Value Error}
    (ran : start.run? events = some machine) (all : ∀ event ∈ events, allowed event) :
    motive events machine := by
  revert all
  refine run_invariant (motive := fun events machine =>
    (∀ event ∈ events, allowed event) → motive events machine) (fun _ => initial)
    (fun events machine event next ran before taken all => ?_) ran
  have earlier : ∀ event ∈ events, allowed event :=
    fun event member => all event (List.mem_append_left _ member)
  exact kept events machine event next ran earlier (before earlier) taken
    (all event (List.mem_append_right _ (List.mem_singleton.mpr rfl)))

/-! ### Logs of runs -/

variable {Note : Type}

/-- What a run leaves in a log, when `note` tells what is noted about a step that is taken. -/
def record
    (note : Machine Key Ask Answer Value Error → Event Key Ask Answer Value Error → Option Note)
    (machine : Machine Key Ask Answer Value Error) :
    List (Event Key Ask Answer Value Error) → List Note
  | [] => []
  | event :: events =>
    (note machine event).toList ++
      match machine.step? event with
      | some next => next.record note events
      | none => []

theorem record_append
    (note : Machine Key Ask Answer Value Error → Event Key Ask Answer Value Error → Option Note)
    {start machine : Machine Key Ask Answer Value Error}
    {first : List (Event Key Ask Answer Value Error)} (ran : start.run? first = some machine)
    (second : List (Event Key Ask Answer Value Error)) :
    start.record note (first ++ second) =
      start.record note first ++ machine.record note second := by
  induction first generalizing start with
  | nil =>
    cases ran
    rfl
  | cons event rest ih =>
    obtain ⟨next, taken, ran⟩ := Option.bind_eq_some_iff.mp ran
    simp only [List.cons_append, record, taken, ih ran, List.append_assoc]

theorem record_snoc
    (note : Machine Key Ask Answer Value Error → Event Key Ask Answer Value Error → Option Note)
    {start machine : Machine Key Ask Answer Value Error}
    {events : List (Event Key Ask Answer Value Error)} (ran : start.run? events = some machine)
    (event : Event Key Ask Answer Value Error) :
    start.record note (events ++ [event]) =
      start.record note events ++ (note machine event).toList := by
  rw [record_append note ran]
  simp only [record]
  split <;> simp only [List.append_nil]

/-- What was noted stays in a log, and what a step is noted for comes to it. -/
theorem mem_record_snoc
    {note : Machine Key Ask Answer Value Error → Event Key Ask Answer Value Error → Option Note}
    {start machine : Machine Key Ask Answer Value Error}
    {events : List (Event Key Ask Answer Value Error)} (ran : start.run? events = some machine)
    (event : Event Key Ask Answer Value Error) {entry : Note} :
    entry ∈ start.record note (events ++ [event]) ↔
      entry ∈ start.record note events ∨ note machine event = some entry := by
  rw [record_snoc note ran event, List.mem_append, Option.mem_toList]

/-- **What is in the log was noted at some step of the run.** -/
theorem exists_of_mem_record
    {note : Machine Key Ask Answer Value Error → Event Key Ask Answer Value Error → Option Note}
    {start : Machine Key Ask Answer Value Error} {events : List (Event Key Ask Answer Value Error)}
    {entry : Note} (member : entry ∈ start.record note events) :
    ∃ before event after machine, events = before ++ event :: after ∧
      start.run? before = some machine ∧ note machine event = some entry := by
  induction events generalizing start with
  | nil => cases member
  | cons event rest ih =>
    rcases List.mem_append.mp member with now | later
    · exact ⟨[], event, rest, start, rfl, rfl, Option.mem_toList.mp now⟩
    · split at later
      · next next taken =>
        obtain ⟨before, last, after, machine, rfl, ran, noted⟩ := ih later
        exact ⟨event :: before, last, after, machine, rfl,
          Option.bind_eq_some_iff.mpr ⟨next, taken, ran⟩, noted⟩
      · cases later

end Machine

end TenantReports.Memo

import TenantReports.Proofs.Memo.Withdrawal

/-!
# One value for a key

**When all lookups of a key share one value, and what keeps them from it.** The runs are those that
start without cells and in which the key is neither evicted nor given a value.

* `Late`: from the moment on at which the cell of a key holds a value, a call that starts for the
  key finds that cell and returns that value, and asks nothing. Every step keeps this.
* `SharesOne`: at most one value is delivered for the key, and once a call for it has returned a
  value, every call that starts later returns the same one without asking, and can do so at once.
* `sharesOne_iff`: a run shares one value exactly when no value is delivered to a cell that the key
  has lost.
-/

set_option linter.unusedSectionVars false

namespace TenantReports.Memo.Machine

variable {Key Value Error : Type} {Ask : Type} {Answer : Ask → Type} [DecidableEq Key]

variable {start machine next : Machine Key Ask Answer Value Error}
  {event : Event Key Ask Answer Value Error} {events : List (Event Key Ask Answer Value Error)}
  {owner : CellId → Key} {key : Key} {cell : CellId} {value : Value}

/-! ### Calls that start after the value is there -/

/-- Only calls that have started ask. -/
def AsksInside (machine : Machine Key Ask Answer Value Error) : Prop :=
  ∀ (j : Nat) (question : Ask), (j, question) ∈ machine.asked → j < machine.calls.length

theorem AsksInside.step (inside : AsksInside machine) (taken : Step machine event next) :
    AsksInside next := by
  intro j question asked
  rcases asked_of_step taken asked with before | ⟨call, here, -⟩
  · exact Nat.lt_of_lt_of_le (inside j question before) (length_le_of_step taken)
  · exact (List.getElem?_eq_some_iff.mp here).1

/-- **The value of a key is there for all who come later.** `cell` is the cell of the key and holds
`value`; the calls for the key from place `first` on look for the cell, wait at it or have returned
the value, and have asked nothing. -/
structure Late (first : Nat) (key : Key) (cell : CellId) (value : Value)
    (machine : Machine Key Ask Answer Value Error) : Prop where
  slot : machine.cells.slot? key = some cell
  holds : machine.cells.value? cell = some value
  inside : AsksInside machine
  calls : ∀ (j : Nat) (call : Call Key Ask Answer Value Error), first ≤ j →
    machine.calls[j]? = some call → call.key = key →
    call.phase = .looking ∨ call.phase = .waiting cell ∨ call.phase = .returned (.ok value)
  silent : ∀ (j : Nat) (call : Call Key Ask Answer Value Error) question, first ≤ j →
    machine.calls[j]? = some call → call.key = key → (j, question) ∉ machine.asked

namespace Late

variable {first : Nat}

/-- What becomes of a late call for the key that steps: it finds the cell, or the value in it. -/
theorem phase_of_step {i : Nat} {call : Call Key Ask Answer Value Error}
    (late : Late first key cell value machine) (taken : Step machine event next) (later : first ≤ i)
    (there : next.calls[i]? = some call) (same : call.key = key) :
    call.phase = .looking ∨ call.phase = .waiting cell ∨ call.phase = .returned (.ok value) := by
  cases taken with
  | start other get =>
    rcases calls_start there with before | ⟨-, rfl⟩
    · exact late.calls i call later before same
    · exact Or.inl rfl
  | evict | evictAll | insert => exact late.calls i call later there same
  | @found j stepped found here phase has =>
    replace there := (calls_put here _ i).symm.trans there
    split at there
    · cases there
      rw [show stepped.key = key from same, late.slot] at has
      cases has
      exact Or.inr (Or.inl rfl)
    · exact late.calls i call later there same
  | @missed j stepped here phase lacks =>
    replace there := (calls_put here _ i).symm.trans there
    split at there
    · cases there
      rw [show stepped.key = key from same, late.slot] at lacks
      cases lacks
    · exact late.calls i call later there same
  | @shared j stepped found shared here phase holds =>
    replace there := (calls_put here _ i).symm.trans there
    split at there
    · next place =>
      cases there
      rcases late.calls j stepped (place ▸ later) here same with old | old | old
      all_goals rw [phase] at old; cases old
      rw [late.holds] at holds
      cases holds
      exact Or.inr (Or.inr rfl)
    · exact late.calls i call later there same
  | @began j stepped found here phase empty =>
    replace there := (calls_put here _ i).symm.trans there
    split at there
    · next place =>
      cases there
      rcases late.calls j stepped (place ▸ later) here same with old | old | old
      all_goals rw [phase] at old; cases old
      rw [late.holds] at empty
      cases empty
    · exact late.calls i call later there same
  | @made j stepped here phase | @filled j stepped _ _ here phase
  | @failed j stepped _ _ here phase | @discarded j stepped _ _ here phase
  | @answered j stepped _ _ _ _ here phase =>
    -- A late call for the key is in none of these phases.
    replace there := (calls_put here _ i).symm.trans there
    split at there
    · next place =>
      cases there
      rcases late.calls j stepped (place ▸ later) here same with old | old | old
      all_goals rw [phase] at old; cases old
    · exact late.calls i call later there same

/-- **Every step that spares the key keeps its value for all who come later.** -/
theorem step (late : Late first key cell value machine) (owned : Owned owner machine)
    (taken : Step machine event next) (spares : event.spares key) :
    Late first key cell value next where
  slot := slot?_of_step taken spares late.slot late.holds
  holds := value?_of_step owned taken late.holds
  inside := late.inside.step taken
  calls i call later there same := late.phase_of_step taken later there same
  silent i call question later there same asked := by
    rcases asked_of_step taken asked with before | ⟨stepped, here, asks⟩
    · rcases call_or_start taken there with ⟨old, here, keyOld, -⟩ | ⟨rfl, -⟩
      · exact late.silent i old question later here (keyOld.trans same) before
      · exact absurd (late.inside _ question before) (Nat.lt_irrefl _)
    · rw [there] at here
      cases here
      rcases late.phase_of_step taken later there same with phase | phase | phase
      all_goals rw [phase] at asks; cases asks

/-- **A value stays there for all who come later**, in every run that spares the key. -/
theorem run {owner : CellId → Key} (late : Late first key cell value machine)
    (sound : Sound owner machine) (spares : ∀ event ∈ events, event.spares key)
    (ran : machine.run? events = some next) : Late first key cell value next := by
  refine (run_invariant_of_all (motive := fun _ machine =>
    (∃ owner, Sound owner machine) ∧ Late first key cell value machine) ⟨⟨owner, sound⟩, late⟩
    (fun events machine event next _ _ before taken spares => ?_) ran spares).2
  obtain ⟨⟨owner, sound⟩, late⟩ := before
  obtain ⟨owner', -, sound'⟩ := sound.step taken
  exact ⟨⟨owner', sound'⟩, late.step sound.owned taken spares⟩

end Late

/-! ### What a call returns that starts now -/

/-- A call that starts now and takes its steps alone returns the value, and asks nothing. -/
def Answers (machine : Machine Key Ask Answer Value Error) (key : Key)
    (get : Task Ask Answer (Except Error Value)) (value : Value) : Prop :=
  ∃ next, machine.run? [.start key get, .advance machine.calls.length,
      .advance machine.calls.length] = some next ∧
    next.outcome? machine.calls.length = some (.ok value) ∧ next.asked = machine.asked

theorem outcome?_put (cells : Cells Key Value) {i : Nat} {call : Call Key Ask Answer Value Error}
    (here : machine.calls[i]? = some call) (phase : Phase Ask Answer Value Error) :
    ({ machine with cells }.put i call phase).outcome? i = phase.outcome? := by
  have there : ({ machine with cells }.put i call phase).calls[i]? = some { call with phase } :=
    (calls_put here phase i).trans (if_pos rfl)
  unfold outcome?
  rw [there, Option.bind_some]

/-- A step after which a call has returned a value: the value was in the cell that the call waited
at, or the call has got it. -/
theorem returned_source {i : Nat} (taken : Step machine (.advance i) next)
    (returned : next.outcome? i = some (.ok value)) :
    ∃ call cell, machine.calls[i]? = some call ∧
      (call.phase = .waiting cell ∧ machine.cells.value? cell = some value ∨
        call.phase = .getting cell (.done (.ok value))) := by
  cases taken with
  | shared here phase holds =>
    have outcome := (outcome?_put _ here _).symm.trans returned
    cases outcome
    exact ⟨_, _, here, Or.inl ⟨phase, holds⟩⟩
  | @filled _ call _ _ here phase =>
    have outcome := (outcome?_put _ here _).symm.trans returned
    cases outcome
    exact ⟨_, _, here, Or.inr phase⟩
  | found here | missed here | made here | began here | failed here | discarded here =>
    have outcome := (outcome?_put _ here _).symm.trans returned
    cases outcome

/-- The phase that a call which looks for its cell comes to. -/
theorem looked_of_step {i : Nat} {call : Call Key Ask Answer Value Error}
    (taken : Step machine (.advance i) next) (here : machine.calls[i]? = some call)
    (phase : call.phase = .looking) :
    next.cells = machine.cells ∧
      next.calls[i]? = some { call with
        phase := match machine.cells.slot? call.key with
          | some cell => .waiting cell
          | none => .making } := by
  cases taken with
  | found there _ has =>
    rw [here] at there
    cases there
    exact ⟨rfl, (calls_put here _ _).trans (by rw [if_pos rfl, has])⟩
  | missed there _ lacks =>
    rw [here] at there
    cases there
    exact ⟨rfl, (calls_put here _ _).trans (by rw [if_pos rfl, lacks])⟩
  | made there phase' | shared there phase' | began there phase' | filled there phase'
  | failed there phase' | discarded there phase' =>
    rw [here] at there
    cases there
    rw [phase] at phase'
    cases phase'

/-- A machine with one more call, which is about to look for its cell. -/
def started (machine : Machine Key Ask Answer Value Error) (key : Key)
    (get : Task Ask Answer (Except Error Value)) : Machine Key Ask Answer Value Error :=
  { machine with calls := machine.calls ++ [⟨key, get, .looking⟩] }

theorem call_of_started (machine : Machine Key Ask Answer Value Error) (key : Key)
    (get : Task Ask Answer (Except Error Value)) :
    (machine.started key get).calls[machine.calls.length]? = some ⟨key, get, .looking⟩ :=
  List.getElem?_concat_length

variable {get : Task Ask Answer (Except Error Value)}

/-- A call that returns a value in two steps has found the value under its key. -/
theorem get?_of_answers (answers : machine.Answers key get value) :
    machine.cells.get? key = some value := by
  obtain ⟨next, whole, returned, -⟩ := answers
  obtain ⟨looked, first, second⟩ := Option.bind_eq_some_iff.mp
    (show ((machine.started key get).step? (.advance machine.calls.length)).bind _ = some next
      from whole)
  obtain ⟨cells, there⟩ :=
    looked_of_step (step_of_step? first) (call_of_started machine key get) rfl
  obtain ⟨last, second, same⟩ := Option.bind_eq_some_iff.mp second
  cases same
  obtain ⟨call, cell, again, source⟩ := returned_source (step_of_step? second) returned
  rw [there] at again
  cases again
  rw [cells] at source
  cases has : machine.cells.slot? key with
  | none =>
    simp only [started, has] at source
    rcases source with ⟨phase, -⟩ | phase <;> cases phase
  | some found =>
    simp only [started, has] at source
    rcases source with ⟨phase, holds⟩ | phase
    · cases phase
      exact Cells.get?_eq_some_iff.mpr ⟨cell, has, holds⟩
    · cases phase

/-- A call finds the value that is kept under its key, and returns it. -/
theorem answers_of_get? (kept : machine.cells.get? key = some value) :
    machine.Answers key get value := by
  obtain ⟨cell, has, holds⟩ := Cells.get?_eq_some_iff.mp kept
  let i := machine.calls.length
  let waits := (machine.started key get).put i ⟨key, get, .looking⟩ (.waiting cell)
  have looked : (machine.started key get).step? (.advance i) = some waits :=
    step?_of_step (.found (call_of_started machine key get) rfl has)
  have here : waits.calls[i]? = some ⟨key, get, .waiting cell⟩ :=
    (calls_put (call_of_started machine key get) _ i).trans (if_pos rfl)
  have returned : waits.step? (.advance i) =
      some (waits.put i ⟨key, get, .waiting cell⟩ (.returned (.ok value))) :=
    step?_of_step (.shared here rfl holds)
  refine ⟨_, ?_, outcome?_put machine.cells here (.returned (.ok value)), ?_⟩
  · show ((machine.started key get).step? (.advance i)).bind (fun next =>
      (next.step? (.advance i)).bind some) = _
    rw [looked, Option.bind_some, returned]
    rfl
  · show (machine.asked ++ []) ++ [] = machine.asked
    rw [List.append_nil, List.append_nil]

/-- **A call returns at once exactly what is kept under its key.** -/
theorem answers_iff : machine.Answers key get value ↔ machine.cells.get? key = some value :=
  ⟨get?_of_answers, answers_of_get?⟩

/-! ### Runs that share one value -/

/-- The deliveries of a run for a key. -/
def deliveriesFor (start : Machine Key Ask Answer Value Error) (key : Key)
    (events : List (Event Key Ask Answer Value Error)) : List (Delivery Key Value) :=
  (start.deliveries events).filter fun delivery => delivery.key = key

theorem mem_deliveriesFor {delivery : Delivery Key Value} :
    delivery ∈ start.deliveriesFor key events ↔
      delivery ∈ start.deliveries events ∧ delivery.key = key :=
  List.mem_filter.trans (and_congr_right fun _ => decide_eq_true_iff)

/-- **A key has one value** along a run: at most one is delivered for it, and once a call has
returned a value, one that starts then can return the same at once, and those that start later
return no other and ask nothing. -/
structure SharesOne (start : Machine Key Ask Answer Value Error) (key : Key)
    (get : Task Ask Answer (Except Error Value))
    (events : List (Event Key Ask Answer Value Error)) : Prop where
  once : (start.deliveriesFor key events).length ≤ 1
  atOnce : ∀ before after machine (i : Nat) (call : Call Key Ask Answer Value Error) value,
    before ++ after = events → start.run? before = some machine → machine.calls[i]? = some call →
    call.key = key → call.phase = .returned (.ok value) → machine.Answers key get value
  later : ∀ before after machine next (i j : Nat) (call late : Call Key Ask Answer Value Error)
    value, before ++ after = events → start.run? before = some machine →
    machine.calls[i]? = some call → call.key = key → call.phase = .returned (.ok value) →
    machine.run? after = some next → machine.calls.length ≤ j → next.calls[j]? = some late →
    late.key = key → (∀ outcome, late.phase = .returned outcome → outcome = .ok value) ∧
      ∀ question, (j, question) ∉ next.asked

/-- At most one value was delivered for a key, and the key keeps it. -/
def KeepsOne (key : Key) (events : List (Event Key Ask Answer Value Error))
    (machine : Machine Key Ask Answer Value Error) : Prop :=
  (ofCells .empty).deliveriesFor key events = [] ∨
    ∃ delivery, (ofCells .empty).deliveriesFor key events = [delivery] ∧
      machine.cells.slot? key = some delivery.cell ∧
      machine.cells.value? delivery.cell = some delivery.value

theorem KeepsOne.step [Inhabited Key] (keeps : KeepsOne key events machine)
    (ran : (ofCells .empty).run? events = some machine) (taken : Step machine event next)
    (spares : event.spares key)
    (attached : ∀ delivery, machine.delivery? event = some delivery → delivery.key = key →
      delivery.attached = true) : KeepsOne key (events ++ [event]) next := by
  obtain ⟨owner, sound, -⟩ := history_of_run ran
  have grown : (ofCells .empty).deliveriesFor key (events ++ [event]) =
      (ofCells .empty).deliveriesFor key events ++
        (machine.delivery? event).toList.filter (fun delivery => delivery.key = key) := by
    unfold deliveriesFor deliveries
    rw [record_snoc delivery? ran event, List.filter_append]
  unfold KeepsOne
  rw [grown]
  by_cases mine : ∃ delivery, machine.delivery? event = some delivery ∧ delivery.key = key
  · obtain ⟨delivery, delivered, same⟩ := mine
    obtain ⟨rfl, call, here, -, phase, current⟩ := delivery?_eq_some delivered
    rw [attached delivery delivered same, same] at current
    have has := of_decide_eq_true current.symm
    have empty := sound.single.empty _ call delivery.cell here (by rw [phase]; rfl)
    rw [delivered, Option.toList_some, List.filter_cons, if_pos (decide_eq_true same),
      List.filter_nil]
    rcases keeps with none | ⟨first, -, hasFirst, holdsFirst⟩
    · have after := step_delivers taken here phase
      subst after
      refine Or.inr ⟨delivery, by rw [none, List.nil_append],
        (Cells.slot?_fill _ _ _ _).trans has, (Cells.value?_fill _ _ _ _).trans ?_⟩
      rw [if_pos rfl, empty, Option.getD_none]
    · -- The cell of the key is filled already, and nobody gets the value of a filled cell.
      rw [has] at hasFirst
      rw [← Option.some.inj hasFirst, empty] at holdsFirst
      cases holdsFirst
  · have other : (machine.delivery? event).toList.filter (fun delivery => delivery.key = key) =
        [] := by
      refine List.filter_eq_nil_iff.mpr fun delivery member same => mine ⟨delivery, ?_⟩
      exact ⟨Option.mem_toList.mp member, of_decide_eq_true same⟩
    rw [other, List.append_nil]
    rcases keeps with none | ⟨first, only, has, holds⟩
    · exact Or.inl none
    · exact Or.inr ⟨first, only, slot?_of_step taken spares has holds,
        value?_of_step sound.owned taken holds⟩

/-- **Values that a key has not lost are one value**, and the key keeps it. -/
theorem keepsOne_of_attached [Inhabited Key] (ran : (ofCells .empty).run? events = some machine)
    (spares : ∀ event ∈ events, event.spares key)
    (attached : ∀ delivery ∈ (ofCells .empty).deliveries events, delivery.key = key →
      delivery.attached = true) : KeepsOne key events machine := by
  revert attached
  refine run_invariant_of_all (motive := fun events machine =>
    (∀ delivery ∈ (ofCells .empty).deliveries events, delivery.key = key →
      delivery.attached = true) → KeepsOne key events machine) (fun _ => Or.inl rfl)
    (fun events machine event next ran _ before taken spares attached => ?_) ran spares
  have earlier := before fun delivery member =>
    attached delivery ((mem_deliveries_snoc ran event).mpr (Or.inl member))
  exact earlier.step ran taken spares fun delivery delivered =>
    attached delivery ((mem_deliveries_snoc ran event).mpr (Or.inr delivered))

theorem asksInside_of_run (ran : (ofCells .empty).run? events = some machine) :
    AsksInside machine :=
  run_invariant (motive := fun _ => AsksInside)
    (fun _ _ asked => absurd asked List.not_mem_nil)
    (fun _ _ _ _ _ inside taken => inside.step taken) ran

/-- A value that a call returned was delivered for its key, unless the key was given values. -/
theorem delivered_of_returned [Inhabited Key] {i : Nat} {call : Call Key Ask Answer Value Error}
    (ran : (ofCells .empty).run? events = some machine)
    (spares : ∀ event ∈ events, event.spares key) (here : machine.calls[i]? = some call)
    (same : call.key = key) (returned : call.phase = .returned (.ok value)) :
    ∃ delivery ∈ (ofCells .empty).deliveriesFor key events,
      machine.cells.value? delivery.cell = some value := by
  obtain ⟨owner, sound, told⟩ := history_of_run ran
  obtain ⟨cell, mine, holds⟩ := sound.backed i call value here returned
  rcases told.source cell value holds with ⟨delivery, member, owned, rfl, -⟩ | inserted
  · exact ⟨delivery, mem_deliveriesFor.mpr ⟨member, owned.trans (mine.trans same)⟩, holds⟩
  · exact absurd (mine.trans same) (spares _ inserted)

/-- **After a call has returned a value, the value is there for all who come later**, if no delivery
for the key was to a cell that the key had lost. -/
theorem late_of_returned [Inhabited Key] {i : Nat} {call : Call Key Ask Answer Value Error}
    (ran : (ofCells .empty).run? events = some machine)
    (spares : ∀ event ∈ events, event.spares key)
    (attached : ∀ delivery ∈ (ofCells .empty).deliveries events, delivery.key = key →
      delivery.attached = true)
    (here : machine.calls[i]? = some call) (same : call.key = key)
    (returned : call.phase = .returned (.ok value)) :
    ∃ cell, Late machine.calls.length key cell value machine := by
  obtain ⟨delivery, member, holds⟩ := delivered_of_returned ran spares here same returned
  have absent : ∀ (j : Nat) (late : Call Key Ask Answer Value Error), machine.calls.length ≤ j →
      machine.calls[j]? ≠ some late := fun j late later there =>
    Nat.not_lt.mpr later (List.getElem?_eq_some_iff.mp there).1
  rcases keepsOne_of_attached ran spares attached with none | ⟨only, one, has, -⟩
  · rw [none] at member
    cases member
  · rw [one, List.mem_singleton] at member
    subst member
    exact ⟨_, has, holds, asksInside_of_run ran,
      fun j late later there => absurd there (absent j late later),
      fun j late _ later there => absurd there (absent j late later)⟩

theorem deliveries_subset {before : List (Event Key Ask Answer Value Error)}
    (ran : start.run? before = some machine) (after : List (Event Key Ask Answer Value Error)) :
    start.deliveries before ⊆ start.deliveries (before ++ after) := by
  unfold deliveries
  rw [record_append delivery? ran after]
  exact List.subset_append_left _ _

/-- **A value delivered to a lost cell is not the only one**, if calls that start then return a
value at once: it is in another cell, and was delivered there. -/
theorem other_of_detached [Inhabited Key] {delivery : Delivery Key Value}
    (ran : (ofCells .empty).run? events = some machine)
    (spares : ∀ other ∈ events ++ [event], other.spares key)
    (taken : machine.step? event = some next) (delivered : machine.delivery? event = some delivery)
    (same : delivery.key = key) (detached : delivery.attached ≠ true)
    (kept : next.cells.get? key = some value) :
    ∃ other ∈ (ofCells .empty).deliveries (events ++ [event]), other.key = key ∧
      other ≠ delivery := by
  have ranNext : (ofCells .empty).run? (events ++ [event]) = some next := by
    rw [run?_snoc, ran, Option.bind_some, taken]
  obtain ⟨owner, sound, told⟩ := history_of_run ranNext
  obtain ⟨cell, has, holds⟩ := Cells.get?_eq_some_iff.mp kept
  have mine := (sound.owned.slot key cell has).2
  rcases told.source cell value holds with ⟨other, member, owned, rfl, -⟩ | inserted
  · refine ⟨other, member, owned.trans mine, ?_⟩
    rintro rfl
    obtain ⟨rfl, call, here, -, phase, current⟩ := delivery?_eq_some delivered
    have after := step_delivers (step_of_step? taken) here phase
    subst after
    refine detached (current.trans (decide_eq_true ?_))
    rw [same]
    exact (Cells.slot?_fill _ _ _ _).symm.trans has
  · exact absurd mine (spares _ inserted)

/-- **A run that shares one value delivers none to a cell that the key has lost.** -/
theorem attached_of_sharesOne [Inhabited Key] (ran : (ofCells .empty).run? events = some machine)
    (spares : ∀ event ∈ events, event.spares key)
    (shares : SharesOne (ofCells .empty) key get events) {delivery : Delivery Key Value}
    (member : delivery ∈ (ofCells .empty).deliveries events) (same : delivery.key = key) :
    delivery.attached = true := by
  by_contra detached
  obtain ⟨before, event, after, early, rfl, ranBefore, delivered⟩ := exists_of_mem_record member
  rw [run?_append, ranBefore, Option.bind_some] at ran
  obtain ⟨now, taken, -⟩ := Option.bind_eq_some_iff.mp ran
  have ranNow : (ofCells .empty).run? (before ++ [event]) = some now := by
    rw [run?_snoc, ranBefore, Option.bind_some, taken]
  have split : (before ++ [event]) ++ after = before ++ event :: after := (List.append_cons ..).symm
  -- Right after the delivery the call has returned its value, so a new call returns it too.
  have memberNow := (mem_deliveries_snoc ranBefore event).mpr (Or.inr delivered)
  obtain ⟨owner, sound, told⟩ := history_of_run ranNow
  obtain ⟨-, -, call, here, mine, returned⟩ := told.kept delivery memberNow
  have kept := answers_iff.mp (shares.atOnce (before ++ [event]) after now delivery.call call
    delivery.value split ranNow here (mine.trans same) returned)
  obtain ⟨other, memberOther, sameOther, differs⟩ := other_of_detached ranBefore
    (fun event' among => spares event' (split ▸ List.mem_append_left _ among)) taken delivered same
    detached kept
  -- Two deliveries for the key are one too many.
  have both := deliveries_subset ranNow after
  rw [split] at both
  have first := mem_deliveriesFor.mpr ⟨both memberNow, same⟩
  have second := mem_deliveriesFor.mpr ⟨both memberOther, sameOther⟩
  obtain ⟨only, one⟩ := List.length_eq_one_iff.mp
    (Nat.le_antisymm shares.once (List.length_pos_of_mem first))
  rw [one, List.mem_singleton] at first second
  exact differs (second.trans first.symm)

/-- **A run shares one value if it delivers none to a cell that the key has lost.** -/
theorem sharesOne_of_attached [Inhabited Key] (ran : (ofCells .empty).run? events = some machine)
    (spares : ∀ event ∈ events, event.spares key)
    (attached : ∀ delivery ∈ (ofCells .empty).deliveries events, delivery.key = key →
      delivery.attached = true) : SharesOne (ofCells .empty) key get events := by
  -- Of every earlier moment the same holds as of the whole run.
  have late : ∀ before after early (i : Nat) (call : Call Key Ask Answer Value Error) value,
      before ++ after = events → (ofCells .empty).run? before = some early →
      early.calls[i]? = some call → call.key = key → call.phase = .returned (.ok value) →
      ∃ cell, Late early.calls.length key cell value early := by
    rintro before after early i call value rfl ranBefore here same returned
    exact late_of_returned ranBefore
      (fun event among => spares event (List.mem_append_left _ among))
      (fun delivery among => attached delivery (deliveries_subset ranBefore after among)) here same
      returned
  refine ⟨?_, fun before after early i call value split ranBefore here same returned => ?_,
    fun before after early last i j call later value split ranBefore here same returned ranAfter
      starts there sameLater => ?_⟩
  · rcases keepsOne_of_attached ran spares attached with none | ⟨only, one, -⟩
    · rw [none]
      exact Nat.zero_le _
    · rw [one]
      exact Nat.le_refl _
  · obtain ⟨cell, kept⟩ := late before after early i call value split ranBefore here same returned
    exact answers_iff.mpr (Cells.get?_eq_some_iff.mpr ⟨cell, kept.slot, kept.holds⟩)
  · obtain ⟨cell, kept⟩ := late before after early i call value split ranBefore here same returned
    obtain ⟨owner, sound, -⟩ := history_of_run ranBefore
    have lateNow := kept.run sound
      (fun event among => spares event (split ▸ List.mem_append_right _ among)) ranAfter
    refine ⟨fun outcome ended => ?_, fun question => lateNow.silent j later question starts there
      sameLater⟩
    rcases lateNow.calls j later starts there sameLater with phase | phase | phase
    all_goals rw [ended] at phase; cases phase
    rfl

/-- **A run shares one value for a key exactly when no value is delivered to a cell that the key has
lost.** -/
theorem sharesOne_iff [Inhabited Key] (ran : (ofCells .empty).run? events = some machine)
    (spares : ∀ event ∈ events, event.spares key) :
    SharesOne (ofCells .empty) key get events ↔
      ∀ delivery ∈ (ofCells .empty).deliveries events, delivery.key = key →
        delivery.attached = true :=
  ⟨fun shares _ member same => attached_of_sharesOne ran spares shares member same,
    sharesOne_of_attached ran spares⟩

end TenantReports.Memo.Machine

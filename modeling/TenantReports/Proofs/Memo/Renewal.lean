import TenantReports.Proofs.Memo.Service

/-!
# What comes after a key has lost its cell

**A call that comes to its cell after the key has lost one returns only what is supplied after
that**, whatever becomes of the calls that were on their way. Cells tell the values of different
times apart: a call that was on its way still fills the cell it holds, and a call that comes later
comes to a cell that was made later.

* `Insertion`, `Receipt`, `beginnings`: which cell an insertion fills, from which cell a call returns
  its value, and which calls begin to get a value, along a run.
* `Supplied`: a cell holds what was inserted into it in a run, or what a call delivered to it that
  began in the run.
* `Renewed`: the cells that later calls come to were made later, and are supplied. Every step keeps
  this.
* `renews_of_lost`: so a value that a later call returns is supplied later.
-/

set_option linter.unusedSectionVars false

namespace TenantReports.Memo

variable {Key Value Error : Type} {Ask : Type} {Answer : Ask → Type}

/-- **A key is given a filled cell.** -/
structure Insertion (Key Value : Type) where
  key : Key
  cell : CellId
  value : Value
  deriving DecidableEq, Repr

/-- **A call returns the value of a cell.** -/
structure Receipt (Key Value : Type) where
  call : Nat
  key : Key
  cell : CellId
  value : Value
  deriving DecidableEq, Repr

namespace Machine

variable [DecidableEq Key]

/-- The insertion that a step is, if it is one. -/
def insertion? (machine : Machine Key Ask Answer Value Error) :
    Event Key Ask Answer Value Error → Option (Insertion Key Value)
  | .insert key value => some ⟨key, machine.cells.next, value⟩
  | _ => none

/-- The receipt that a step is, if it is one: a call finds the value of the cell that it waits at,
or fills the cell itself. -/
def receipt? (machine : Machine Key Ask Answer Value Error) :
    Event Key Ask Answer Value Error → Option (Receipt Key Value)
  | .advance i => machine.calls[i]?.bind fun call =>
    match call.phase with
    | .waiting cell => (machine.cells.value? cell).map fun value => ⟨i, call.key, cell, value⟩
    | .getting cell (.done (.ok value)) => some ⟨i, call.key, cell, value⟩
    | _ => none
  | _ => none

/-- The call that begins to get a value in a step, if one does. -/
def beginning? (machine : Machine Key Ask Answer Value Error) :
    Event Key Ask Answer Value Error → Option Nat
  | .advance i => machine.calls[i]?.bind fun call =>
    match call.phase with
    | .waiting cell =>
      if (machine.cells.value? cell).isNone && !machine.isBusy cell then some i else none
    | _ => none
  | _ => none

/-- The insertions of a run, in order. -/
def insertions (start : Machine Key Ask Answer Value Error)
    (events : List (Event Key Ask Answer Value Error)) : List (Insertion Key Value) :=
  start.record insertion? events

/-- The receipts of a run, in order. -/
def receipts (start : Machine Key Ask Answer Value Error)
    (events : List (Event Key Ask Answer Value Error)) : List (Receipt Key Value) :=
  start.record receipt? events

/-- The calls that begin to get a value in a run, in order. -/
def beginnings (start : Machine Key Ask Answer Value Error)
    (events : List (Event Key Ask Answer Value Error)) : List Nat :=
  start.record beginning? events

variable {start machine next : Machine Key Ask Answer Value Error}
  {event : Event Key Ask Answer Value Error} {events : List (Event Key Ask Answer Value Error)}
  {owner : CellId → Key} {key : Key} {cell : CellId} {value : Value} {i : Nat}

/-! ### What a step brings about -/

theorem next_le_of_step (taken : Step machine event next) :
    machine.cells.next ≤ next.cells.next := by
  cases taken with
  | made => exact Cells.next_le_hold _ _
  | filled => exact Nat.le_of_eq (Cells.next_fill _ _ _).symm
  | discarded => exact Nat.le_of_eq (Cells.next_discard _ _ _).symm
  | insert => exact Nat.le_succ _
  | _ => exact Nat.le_refl _

/-- **A call gets the value of a cell since it began to.** -/
theorem filling?_source {call : Call Key Ask Answer Value Error} (taken : Step machine event next)
    (there : next.calls[i]? = some call) (filling : call.phase.filling? = some cell) :
    (∃ before, machine.calls[i]? = some before ∧ before.phase.filling? = some cell) ∨
      machine.beginning? event = some i := by
  cases taken with
  | start key get =>
    rcases calls_start there with before | ⟨-, rfl⟩
    · exact Or.inl ⟨call, before, filling⟩
    · cases filling
  | evict | evictAll | insert => exact Or.inl ⟨call, there, filling⟩
  | found here | missed here | made here | shared here | filled here | failed here
  | discarded here =>
    replace there := (calls_put here _ i).symm.trans there
    split at there
    · cases there
      cases filling
    · exact Or.inl ⟨call, there, filling⟩
  | began here phase empty free =>
    replace there := (calls_put here _ i).symm.trans there
    split at there
    · next same =>
      subst same
      right
      show machine.calls[i]?.bind _ = _
      rw [here, Option.bind_some, phase]
      simp only [empty, free, Option.isNone_none, Bool.not_false, Bool.and_self, if_true]
    · exact Or.inl ⟨call, there, filling⟩
  | answered _ here phase =>
    replace there := (calls_put here _ i).symm.trans there
    split at there
    · next same =>
      subst same
      cases there
      cases filling
      exact Or.inl ⟨_, here, by rw [phase]; rfl⟩
    · exact Or.inl ⟨call, there, filling⟩

/-- **A call that has returned a value** had returned it, or returns it now from the cell it holds. -/
theorem returned_or_receipt {call : Call Key Ask Answer Value Error} (sound : Sound owner machine)
    (taken : Step machine event next) (there : next.calls[i]? = some call)
    (returned : call.phase = .returned (.ok value)) :
    machine.calls[i]? = some call ∨ ∃ receipt before, machine.receipt? event = some receipt ∧
      receipt.call = i ∧ receipt.value = value ∧ next.cells.value? receipt.cell = some value ∧
      machine.calls[i]? = some before ∧ before.key = call.key ∧
      before.phase.cell? = some receipt.cell := by
  by_cases own : event.isStepOf i = true
  · right
    obtain rfl := Event.eq_advance own
    have outcome : next.outcome? i = some (.ok value) := by
      unfold outcome?
      rw [there, Option.bind_some, returned]
      rfl
    obtain ⟨before, cell, here, source⟩ := returned_source taken outcome
    have same : before.key = call.key := by
      obtain ⟨old, here', keyOld⟩ := exists_key_of_advance taken there
      cases here.symm.trans here'
      exact keyOld
    have noted : machine.receipt? (.advance i) = some ⟨i, before.key, cell, value⟩ := by
      show machine.calls[i]?.bind _ = _
      rw [here, Option.bind_some]
      rcases source with ⟨phase, holds⟩ | phase
      · simp only [phase, holds, Option.map_some]
      · simp only [phase]
    refine ⟨_, before, noted, rfl, rfl, ?_, here, same, ?_⟩
    · rcases source with ⟨-, holds⟩ | phase
      · exact value?_of_step sound.owned taken holds
      · have empty := sound.single.empty i before cell here (by rw [phase]; rfl)
        obtain rfl := step_delivers taken here phase
        exact (Cells.value?_fill _ _ _ _).trans (by rw [if_pos rfl, empty, Option.getD_none])
    · rcases source with ⟨phase, -⟩ | phase <;> rw [phase] <;> rfl
  · left
    have unanswered : ∀ reply, event ≠ .answer i reply := by
      rintro reply rfl
      cases taken with
      | answered _ here =>
        obtain rfl : _ = call := Option.some.inj ((if_pos rfl).symm.trans
          ((calls_put here _ i).symm.trans there))
        cases returned
    rcases call_of_others taken (Bool.eq_false_iff.mpr own) unanswered there with
      before | ⟨-, looking⟩
    · exact before
    · rw [looking] at returned
      cases returned

/-! ### What is supplied in a run -/

/-- **A cell holds what was supplied in a run**: a value that was inserted into it, or that a call
delivered to it which began in the run. -/
inductive Supplied (start : Machine Key Ask Answer Value Error) (key : Key) (cell : CellId)
    (value : Value) (events : List (Event Key Ask Answer Value Error)) : Prop
  | inserted (member : ⟨key, cell, value⟩ ∈ start.insertions events)
  | got (delivery : Delivery Key Value) (member : delivery ∈ start.deliveries events)
    (mine : delivery.key = key) (there : delivery.cell = cell) (same : delivery.value = value)
    (begun : delivery.call ∈ start.beginnings events)

theorem Supplied.snoc (supplied : start.Supplied key cell value events)
    (ran : start.run? events = some machine) (event : Event Key Ask Answer Value Error) :
    start.Supplied key cell value (events ++ [event]) := by
  cases supplied with
  | inserted member => exact .inserted ((mem_record_snoc ran event).mpr (Or.inl member))
  | got delivery member mine there same begun =>
    exact .got delivery ((mem_record_snoc ran event).mpr (Or.inl member)) mine there same
      ((mem_record_snoc ran event).mpr (Or.inl begun))

/-- **Calls for a key that come to cells in a run come to those that are made in the run**, and a
cell that is made in the run is supplied in the run. -/
structure Renewed (start : Machine Key Ask Answer Value Error) (owner : CellId → Key) (key : Key)
    (events : List (Event Key Ask Answer Value Error))
    (machine : Machine Key Ask Answer Value Error) : Prop where
  grown : start.cells.next ≤ machine.cells.next
  slot : ∀ cell, machine.cells.slot? key = some cell → start.cells.next ≤ cell
  held : ∀ (i : Nat) (call : Call Key Ask Answer Value Error) cell, start.Unplaced i →
    machine.calls[i]? = some call → call.key = key → call.phase.cell? = some cell →
    start.cells.next ≤ cell
  begun : ∀ (i : Nat) (call : Call Key Ask Answer Value Error) cell,
    machine.calls[i]? = some call → call.phase.filling? = some cell → start.cells.next ≤ cell →
    i ∈ start.beginnings events
  supplied : ∀ cell value, start.cells.next ≤ cell → machine.cells.value? cell = some value →
    start.Supplied (owner cell) cell value events
  received : ∀ (i : Nat) (call : Call Key Ask Answer Value Error) value,
    start.Unplaced i → machine.calls[i]? = some call → call.key = key →
    call.phase = .returned (.ok value) → ∃ receipt ∈ start.receipts events,
      receipt.call = i ∧ receipt.value = value ∧ start.Supplied key receipt.cell value events

namespace Renewed

/-- When the key has just lost its cell, nothing was made or supplied yet. -/
theorem initial (sound : Sound owner start) (lost : start.cells.slot? key = none) :
    Renewed start owner key [] start where
  grown := Nat.le_refl _
  slot cell has := by
    rw [lost] at has
    cases has
  held i call cell unplaced here _ holds := by
    rcases unplaced call here with phase | phase <;> rw [phase] at holds <;> cases holds
  begun i call cell here filling later :=
    absurd (sound.owned.held i call cell here (cell?_of_filling? filling)).1 (Nat.not_lt.mpr later)
  supplied cell value later holds :=
    absurd (sound.owned.value cell value holds) (Nat.not_lt.mpr later)
  received i call value unplaced here _ returned := by
    rcases unplaced call here with phase | phase <;> rw [phase] at returned <;> cases returned

variable {owner' : CellId → Key}

/-- A value in a cell that was made in the run is supplied, also after a step. -/
theorem supplied_step (renewed : Renewed start owner key events machine)
    (ran : start.run? events = some machine) (sound : Sound owner machine)
    (agree : ∀ cell < machine.cells.next, owner' cell = owner cell) (sound' : Sound owner' next)
    (taken : Step machine event next) (later : start.cells.next ≤ cell)
    (holds : next.cells.value? cell = some value) :
    start.Supplied (owner' cell) cell value (events ++ [event]) := by
  rcases value?_source taken holds with before | ⟨i, call, rfl, here, phase⟩ | ⟨other, rfl, fresh⟩
  · rw [agree cell (sound.owned.value cell value before)]
    exact (renewed.supplied cell value later before).snoc ran event
  · have ⟨made, mine⟩ := sound.owned.held i call cell here (by rw [phase]; rfl)
    have begun := renewed.begun i call cell here (by rw [phase]; rfl) later
    exact .got _ ((mem_record_snoc ran _).mpr (Or.inr (delivery?_of_phase here phase)))
      ((agree cell made).trans mine).symm rfl rfl ((mem_record_snoc ran _).mpr (Or.inl begun))
  · cases taken
    have found : (machine.cells.insert other value).slot? other = some cell := by
      rw [Cells.slot?_insert, if_pos rfl, fresh]
    rw [(sound'.owned.slot other cell found).2, fresh]
    exact .inserted ((mem_record_snoc ran _).mpr (Or.inr rfl))

theorem slot_step (renewed : Renewed start owner key events machine)
    (taken : Step machine event next) (has : next.cells.slot? key = some cell) :
    start.cells.next ≤ cell := by
  rcases slot?_source taken has with before | ⟨rfl, -⟩
  · exact renewed.slot cell before
  · exact renewed.grown

/-- **Every step keeps later calls to what is supplied later.** -/
theorem step (renewed : Renewed start owner key events machine)
    (ran : start.run? events = some machine) (sound : Sound owner machine)
    (agree : ∀ cell < machine.cells.next, owner' cell = owner cell) (sound' : Sound owner' next)
    (taken : Step machine event next) : Renewed start owner' key (events ++ [event]) next where
  grown := Nat.le_trans renewed.grown (next_le_of_step taken)
  slot _ has := renewed.slot_step taken has
  held i call cell unplaced there same holds := by
    rcases cell?_of_step taken there holds with ⟨before, here, keyOld, held⟩ | now
    · exact renewed.held i before cell unplaced here (keyOld.trans same) held
    · exact renewed.slot_step taken (same ▸ now)
  begun i call cell there filling later := by
    rcases filling?_source taken there filling with ⟨before, here, filled⟩ | begins
    · exact (mem_record_snoc ran event).mpr (Or.inl (renewed.begun i before cell here filled later))
    · exact (mem_record_snoc ran event).mpr (Or.inr begins)
  supplied _ _ later holds := renewed.supplied_step ran sound agree sound' taken later holds
  received i call value unplaced there same returned := by
    rcases returned_or_receipt sound taken there returned with
      before | ⟨receipt, old, noted, atCall, same', holds, here, keyOld, held⟩
    · obtain ⟨receipt, member, atCall, same', supplied⟩ :=
        renewed.received i call value unplaced before same returned
      exact ⟨receipt, (mem_record_snoc ran event).mpr (Or.inl member), atCall, same',
        supplied.snoc ran event⟩
    · -- The call held the cell before, so the cell was made in the run, for the key.
      have mine := keyOld.trans same
      have made := renewed.held i old receipt.cell unplaced here mine held
      have ⟨old', owned⟩ := sound.owned.held i old receipt.cell here held
      have supplied := renewed.supplied_step ran sound agree sound' taken made holds
      rw [agree _ old', owned, mine] at supplied
      exact ⟨receipt, (mem_record_snoc ran event).mpr (Or.inr noted), atCall, same', supplied⟩

end Renewed

/-- **A call for a key that comes to its cell from now on returns only what is supplied from now
on**: the cell that it returns a value from was filled by an insertion, or by a call that began from
now on. -/
def Renews (start : Machine Key Ask Answer Value Error) (key : Key) : Prop :=
  ∀ events next (i : Nat) (call : Call Key Ask Answer Value Error) value, start.Unplaced i →
    start.run? events = some next → next.calls[i]? = some call → call.key = key →
    call.phase = .returned (.ok value) → ∃ receipt ∈ start.receipts events,
      receipt.call = i ∧ receipt.value = value ∧ start.Supplied key receipt.cell value events

/-- **A key that has lost its cell is supplied anew.** -/
theorem renews_of_lost (sound : Sound owner start) (lost : start.cells.slot? key = none) :
    start.Renews key := by
  intro events next i call value unplaced ran there same returned
  obtain ⟨owner', sound', renewed⟩ := run_invariant (motive := fun events machine =>
    ∃ owner, Sound owner machine ∧ Renewed start owner key events machine)
    ⟨owner, sound, .initial sound lost⟩ (fun events machine event next ran before taken => by
      obtain ⟨owner, sound, renewed⟩ := before
      obtain ⟨owner', agree, sound'⟩ := sound.step taken
      exact ⟨owner', sound', renewed.step ran sound agree sound' taken⟩) ran
  exact renewed.received i call value unplaced there same returned

end Machine

end TenantReports.Memo

import TenantReports.Proofs.Memo.Delivery

/-!
# How a key loses a cell

**A cell that is held and that its key has lost was taken away by a call that failed.** A
`Withdrawal` is the step in which a call that failed takes its empty cell away from the key, whether
or not another call holds the cell too.

* `held_or_withdrawn`: in a run that leaves the key to its lookups, each cell that a call for the
  key holds is the cell of the key, or was withdrawn.
* `withdrawn_of_detached`: so a value delivered to a cell that the key has lost is delivered to one
  that was withdrawn.
-/

set_option linter.unusedSectionVars false

namespace TenantReports.Memo

variable {Key Value Error : Type} {Ask : Type} {Answer : Ask → Type}

/-- **A call that failed takes the empty cell away** from its key. -/
structure Withdrawal (Key : Type) where
  call : Nat
  key : Key
  cell : CellId
  deriving DecidableEq, Repr

namespace Machine

variable [DecidableEq Key]

/-- The withdrawal that a step is, if it is one. -/
def withdrawal? (machine : Machine Key Ask Answer Value Error) :
    Event Key Ask Answer Value Error → Option (Withdrawal Key)
  | .advance i => machine.calls[i]?.bind fun call =>
    match call.phase with
    | .failing cell _ =>
      if machine.cells.slot? call.key = some cell ∧ (machine.cells.value? cell).isNone then
        some ⟨i, call.key, cell⟩
      else none
    | _ => none
  | _ => none

/-- The withdrawals of a run, in order. -/
def withdrawals (start : Machine Key Ask Answer Value Error)
    (events : List (Event Key Ask Answer Value Error)) : List (Withdrawal Key) :=
  start.record withdrawal? events

variable {start machine next : Machine Key Ask Answer Value Error}
  {event : Event Key Ask Answer Value Error} {events : List (Event Key Ask Answer Value Error)}
  {key : Key} {cell : CellId}

theorem withdrawal?_eq_some {withdrawal : Withdrawal Key}
    (withdrawn : machine.withdrawal? event = some withdrawal) :
    machine.cells.slot? withdrawal.key = some withdrawal.cell ∧
      machine.cells.value? withdrawal.cell = none := by
  cases event with
  | advance i =>
    obtain ⟨call, here, withdrawn⟩ := Option.bind_eq_some_iff.mp withdrawn
    split at withdrawn
    · split at withdrawn
      · next both =>
        cases withdrawn
        exact ⟨both.1, Option.isNone_iff_eq_none.mp both.2⟩
      · cases withdrawn
    · cases withdrawn
  | _ => cases withdrawn

/-- **A key loses a cell only to a withdrawal**, if it is left to its lookups. -/
theorem slot?_or_withdrawn (taken : Step machine event next) (spares : event.spares key)
    (has : machine.cells.slot? key = some cell) :
    next.cells.slot? key = some cell ∨
      ∃ withdrawal, machine.withdrawal? event = some withdrawal ∧ withdrawal.key = key ∧
        withdrawal.cell = cell := by
  cases taken with
  | @made i call =>
    refine Or.inl ((Cells.slot?_hold _ _ _).trans ?_)
    by_cases same : key = call.key
    · rw [if_pos same, Cells.hold_of_slot (same ▸ has)]
    · rw [if_neg same, has]
  | filled => exact Or.inl ((Cells.slot?_fill _ _ _ _).trans has)
  | @discarded i call lost error here phase =>
    by_cases gone : key = call.key ∧ machine.cells.slot? call.key = some lost ∧
        machine.cells.value? lost = none
    · obtain ⟨rfl, same, empty⟩ := gone
      rw [has] at same
      cases same
      refine Or.inr ⟨⟨i, call.key, cell⟩, ?_, rfl, rfl⟩
      show machine.calls[i]?.bind _ = _
      rw [here, Option.bind_some, phase]
      exact if_pos ⟨has, Option.isNone_iff_eq_none.mpr empty⟩
    · exact Or.inl ((Cells.slot?_discard _ _ _ _).trans ((if_neg gone).trans has))
  | evict other =>
    exact Or.inl ((Cells.slot?_erase _ _ _).trans ((if_neg (Ne.symm spares)).trans has))
  | evictAll kind =>
    refine Or.inl ((Cells.slot?_evictAll _ _ _).trans ((if_neg ?_).trans has))
    rw [show kind key = false from spares]
    exact Bool.false_ne_true
  | insert other =>
    exact Or.inl ((Cells.slot?_insert _ _ _ _).trans ((if_neg (Ne.symm spares)).trans has))
  | _ => exact Or.inl has

/-- **A key keeps a filled cell**, unless it is evicted or given another value. -/
theorem slot?_of_step {value : Value} (taken : Step machine event next) (spares : event.spares key)
    (has : machine.cells.slot? key = some cell) (holds : machine.cells.value? cell = some value) :
    next.cells.slot? key = some cell := by
  rcases slot?_or_withdrawn taken spares has with still | ⟨withdrawal, withdrawn, -, rfl⟩
  · exact still
  · rw [(withdrawal?_eq_some withdrawn).2] at holds
    cases holds

/-- **Where a held cell comes from**: the call held it before, or its key has it now. -/
theorem cell?_of_step {i : Nat} {call : Call Key Ask Answer Value Error}
    (taken : Step machine event next) (there : next.calls[i]? = some call)
    (holds : call.phase.cell? = some cell) :
    (∃ before, machine.calls[i]? = some before ∧ before.key = call.key ∧
        before.phase.cell? = some cell) ∨ next.cells.slot? call.key = some cell := by
  cases taken with
  | start key get =>
    rcases calls_start there with before | ⟨-, rfl⟩
    · exact Or.inl ⟨call, before, rfl, holds⟩
    · cases holds
  | evict | evictAll | insert => exact Or.inl ⟨call, there, rfl, holds⟩
  | @found j stepped found here phase has =>
    replace there := (calls_put here _ i).symm.trans there
    split at there
    · cases there
      cases holds
      exact Or.inr has
    · exact Or.inl ⟨call, there, rfl, holds⟩
  | @made j stepped here phase =>
    replace there := (calls_put here _ i).symm.trans there
    split at there
    · cases there
      cases holds
      exact Or.inr ((Cells.slot?_hold _ _ _).trans (if_pos rfl))
    · exact Or.inl ⟨call, there, rfl, holds⟩
  | missed here | shared here | filled here | discarded here =>
    replace there := (calls_put here _ i).symm.trans there
    split at there
    · cases there
      cases holds
    · exact Or.inl ⟨call, there, rfl, holds⟩
  | began here phase | failed here phase | answered _ here phase =>
    replace there := (calls_put here _ i).symm.trans there
    split at there
    · next same =>
      cases there
      cases holds
      rw [← same] at here
      exact Or.inl ⟨_, here, rfl, by rw [phase]; rfl⟩
    · exact Or.inl ⟨call, there, rfl, holds⟩

/-- The cells that the calls for a key hold are the key's, or were withdrawn. -/
def HeldOrWithdrawn (key : Key) (events : List (Event Key Ask Answer Value Error))
    (machine : Machine Key Ask Answer Value Error) : Prop :=
  ∀ (i : Nat) (call : Call Key Ask Answer Value Error) cell, machine.calls[i]? = some call →
    call.key = key → call.phase.cell? = some cell → machine.cells.slot? key = some cell ∨
      ∃ withdrawal ∈ (ofCells .empty).withdrawals events, withdrawal.key = key ∧
        withdrawal.cell = cell

theorem HeldOrWithdrawn.step (before : HeldOrWithdrawn key events machine)
    (ran : (ofCells .empty).run? events = some machine) (taken : Step machine event next)
    (spares : event.spares key) : HeldOrWithdrawn key (events ++ [event]) next := by
  intro i call cell there same holds
  have grown : (ofCells .empty).withdrawals (events ++ [event]) =
      (ofCells .empty).withdrawals events ++ (machine.withdrawal? event).toList :=
    record_snoc withdrawal? ran event
  rw [grown]
  rcases cell?_of_step taken there holds with ⟨old, here, keyOld, held⟩ | now
  · rcases before i old cell here (keyOld.trans same) held with has | ⟨withdrawal, member, facts⟩
    · rcases slot?_or_withdrawn taken spares has with still | ⟨withdrawal, noted, facts⟩
      · exact Or.inl still
      · exact Or.inr ⟨withdrawal, List.mem_append_right _ (Option.mem_toList.mpr noted), facts⟩
    · exact Or.inr ⟨withdrawal, List.mem_append_left _ member, facts⟩
  · exact Or.inl (same ▸ now)

/-- **A cell that is held is the key's, or was withdrawn.** -/
theorem held_or_withdrawn (ran : (ofCells .empty).run? events = some machine)
    (spares : ∀ event ∈ events, event.spares key) : HeldOrWithdrawn key events machine := by
  refine run_invariant_of_all (motive := HeldOrWithdrawn key) ?_
    (fun _ _ _ _ ran _ before taken spares => before.step ran taken spares) ran spares
  intro _ _ _ here
  cases here

/-- **A value delivered to a lost cell was delivered after a withdrawal of the cell.** -/
theorem withdrawn_of_detached {delivery : Delivery Key Value}
    (ran : (ofCells .empty).run? events = some machine)
    (spares : ∀ event ∈ events, event.spares key)
    (member : delivery ∈ (ofCells .empty).deliveries events) (same : delivery.key = key)
    (detached : delivery.attached ≠ true) :
    ∃ before after, events = before ++ .advance delivery.call :: after ∧
      ∃ withdrawal ∈ (ofCells .empty).withdrawals before, withdrawal.key = key ∧
        withdrawal.cell = delivery.cell := by
  obtain ⟨before, event, after, early, rfl, ranBefore, delivered⟩ := exists_of_mem_record member
  obtain ⟨rfl, call, here, mine, phase, current⟩ := delivery?_eq_some delivered
  refine ⟨before, after, rfl, ?_⟩
  rcases held_or_withdrawn ranBefore
    (fun other among => spares other (List.mem_append_left _ among))
    _ call delivery.cell here (mine.trans same) (by rw [phase]; rfl) with has | withdrawn
  · exact absurd (current.trans (decide_eq_true (same ▸ has))) detached
  · exact withdrawn

end Machine

end TenantReports.Memo

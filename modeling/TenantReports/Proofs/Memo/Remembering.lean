import TenantReports.Proofs.Memo.Service

/-!
# Values that are remembered

**When a value that a call has returned is served to all who come later, and when it is lost.** The
runs are those that start without cells and in which the key is neither evicted nor given a value.

* `Remembers`: from the moment on at which a call for the key has returned a value, the key serves
  that value.
* `Loses`: a call delivers a value, and the key does not keep that value then.
* `remembers_iff`: a run remembers exactly when it loses no value.
* `withdrawn_of_loses`: a value is lost only in a cell that a call which failed has taken away from
  the key, while the call that delivers the value held the cell.
-/

set_option linter.unusedSectionVars false

namespace TenantReports.Memo.Machine

variable {Key Value Error : Type} {Ask : Type} {Answer : Ask → Type} [DecidableEq Key]

variable {machine next : Machine Key Ask Answer Value Error}
  {event : Event Key Ask Answer Value Error}
  {events before : List (Event Key Ask Answer Value Error)}
  {key : Key} {value : Value} {delivery : Delivery Key Value}

/-- **A value that was returned is remembered**: once a call for the key has returned it, the key
serves it. -/
def Remembers (start : Machine Key Ask Answer Value Error) (key : Key)
    (events : List (Event Key Ask Answer Value Error)) : Prop :=
  ∀ before after machine (i : Nat) (call : Call Key Ask Answer Value Error) value,
    before ++ after = events → start.run? before = some machine → machine.calls[i]? = some call →
    call.key = key → call.phase = .returned (.ok value) → machine.Serves key value

/-- **A value is lost when it is delivered**: after the delivery, which follows the events `before`,
the key does not keep the value. -/
def Loses (start : Machine Key Ask Answer Value Error) (key : Key)
    (events before : List (Event Key Ask Answer Value Error)) (delivery : Delivery Key Value) :
    Prop :=
  ∃ event after machine next, events = before ++ event :: after ∧
    start.run? before = some machine ∧ machine.step? event = some next ∧
    machine.delivery? event = some delivery ∧ delivery.key = key ∧
    next.cells.get? key ≠ some delivery.value

theorem Loses.append {start : Machine Key Ask Answer Value Error}
    (loses : start.Loses key events before delivery)
    (more : List (Event Key Ask Answer Value Error)) :
    start.Loses key (events ++ more) before delivery := by
  obtain ⟨event, after, machine, next, rfl, facts⟩ := loses
  exact ⟨event, after ++ more, machine, next, List.append_assoc _ _ _, facts⟩

/-- A key keeps its value, unless it is evicted or given another one. -/
theorem get?_of_step {owner : CellId → Key} (owned : Owned owner machine)
    (taken : Step machine event next) (spares : event.spares key)
    (kept : machine.cells.get? key = some value) : next.cells.get? key = some value := by
  obtain ⟨cell, has, holds⟩ := Cells.get?_eq_some_iff.mp kept
  exact Cells.get?_eq_some_iff.mpr
    ⟨cell, slot?_of_step taken spares has holds, value?_of_step owned taken holds⟩

/-- **What a call has returned is kept under its key**, if no value was lost. -/
theorem get?_of_returned [Inhabited Key] (ran : (ofCells .empty).run? events = some machine)
    (spares : ∀ event ∈ events, event.spares key)
    (safe : ∀ before delivery, ¬(ofCells .empty).Loses key events before delivery) :
    ∀ (i : Nat) (call : Call Key Ask Answer Value Error) value, machine.calls[i]? = some call →
      call.key = key → call.phase = .returned (.ok value) →
      machine.cells.get? key = some value := by
  revert safe
  refine run_invariant_of_all (motive := fun events machine =>
    (∀ before delivery, ¬(ofCells .empty).Loses key events before delivery) →
    ∀ (i : Nat) (call : Call Key Ask Answer Value Error) value, machine.calls[i]? = some call →
      call.key = key → call.phase = .returned (.ok value) →
      machine.cells.get? key = some value) (by intro _ _ _ _ here; cases here)
    (fun events machine event next ran all kept taken sparesNow safe i call value there same
      returned => ?_) ran spares
  have ranNext : (ofCells .empty).run? (events ++ [event]) = some next := by
    rw [run?_snoc, ran, Option.bind_some, step?_of_step taken]
  have spares : ∀ other ∈ events ++ [event], other.spares key := by
    intro other member
    rcases List.mem_append.mp member with before | now
    · exact all other before
    · exact List.mem_singleton.mp now ▸ sparesNow
  -- The value was delivered for the key: before this step, or in it.
  obtain ⟨delivery, member, holds⟩ := delivered_of_returned ranNext spares there same returned
  obtain ⟨delivered, mine⟩ := mem_deliveriesFor.mp member
  obtain ⟨ownerNext, -, toldNext⟩ := history_of_run ranNext
  obtain rfl : delivery.value = value :=
    Option.some.inj ((toldNext.kept delivery delivered).2.1.symm.trans holds)
  rcases (mem_deliveries_snoc ran event).mp delivered with earlier | now
  · obtain ⟨owner, sound, told⟩ := history_of_run ran
    obtain ⟨-, -, deliverer, here, atKey, returnedThen⟩ := told.kept delivery earlier
    have keptBefore := kept (fun before delivery loses => safe before delivery (loses.append _))
      delivery.call deliverer delivery.value here (atKey.trans mine) returnedThen
    exact get?_of_step sound.owned taken sparesNow keptBefore
  · by_contra lost
    exact safe events delivery ⟨event, [], machine, next, rfl, ran, step?_of_step taken, now, mine,
      lost⟩

/-- **A run remembers the values that calls for a key returned exactly when it loses none.** -/
theorem remembers_iff [Inhabited Key] (ran : (ofCells .empty).run? events = some machine)
    (spares : ∀ event ∈ events, event.spares key) :
    (ofCells .empty).Remembers key events ↔
      ∀ before delivery, ¬(ofCells .empty).Loses key events before delivery := by
  constructor
  · rintro remembers before delivery
      ⟨event, after, machine, next, split, ran, taken, delivered, same, lost⟩
    have ranNext : (ofCells .empty).run? (before ++ [event]) = some next := by
      rw [run?_snoc, ran, Option.bind_some, taken]
    -- Right after the delivery the call has returned the value.
    have member := (mem_deliveries_snoc ran event).mpr (Or.inr delivered)
    obtain ⟨owner, sound, told⟩ := history_of_run ranNext
    obtain ⟨-, -, call, there, mine, returned⟩ := told.kept delivery member
    refine lost (get?_of_serves (remembers (before ++ [event]) after next delivery.call call
      delivery.value ?_ ranNext there (mine.trans same) returned))
    rw [split, List.append_assoc]
    rfl
  · rintro safe before after early i call value rfl ranEarly here same returned
    obtain ⟨owner, sound, -⟩ := history_of_run ranEarly
    refine serves_of_get? ranEarly sound (get?_of_returned ranEarly
      (fun event member => spares event (List.mem_append_left _ member))
      (fun before delivery loses => safe before delivery (loses.append after)) i call value here
      same returned)

/-- **A value is lost only in a cell that was withdrawn from the key**, while the call that delivers
it held the cell. -/
theorem withdrawn_of_loses [Inhabited Key] (spares : ∀ event ∈ events, event.spares key)
    (loses : (ofCells .empty).Loses key events before delivery) :
    ∃ withdrawal ∈ (ofCells .empty).withdrawals before, withdrawal.key = key ∧
      withdrawal.cell = delivery.cell := by
  obtain ⟨event, after, machine, next, rfl, ran, taken, delivered, same, lost⟩ := loses
  obtain ⟨rfl, call, here, mine, phase, -⟩ := delivery?_eq_some delivered
  obtain ⟨owner, sound, -⟩ := history_of_run ran
  rcases held_or_withdrawn ran (fun event member => spares event (List.mem_append_left _ member))
    _ call delivery.cell here (mine.trans same) (by rw [phase]; rfl) with has | withdrawn
  · have empty := sound.single.empty _ call delivery.cell here (by rw [phase]; rfl)
    obtain rfl := step_delivers (step_of_step? taken) here phase
    refine absurd (Cells.get?_eq_some_iff.mpr ⟨delivery.cell, ?_, ?_⟩) lost
    · exact (Cells.slot?_fill _ _ _ _).trans has
    · exact (Cells.value?_fill _ _ _ _).trans (by rw [if_pos rfl, empty, Option.getD_none])
  · exact withdrawn

end TenantReports.Memo.Machine

import TenantReports.Proofs.Memo.Ownership

/-!
# Where the values come from

**Every value in a cell was put there by a call that got it, or was inserted.**

A `Delivery` is the moment at which a call that got a value fills the cell it holds. Its key may
have lost the cell by then, to a call that failed or to an eviction; `attached` tells whether it has
not.

* `Told`: the values and the deliveries of a run belong together. A value comes from a delivery to
  its cell or from an insertion for the owner of its cell, and what was delivered stays in the cell
  and is what the call returned.
* `history_of_run`: this holds after every run that starts without cells.
-/

set_option linter.unusedSectionVars false

namespace TenantReports.Memo

variable {Key Value Error : Type} {Ask : Type} {Answer : Ask → Type}

/-- **A call fills the cell it holds** with the value that it got for its key. -/
structure Delivery (Key Value : Type) where
  call : Nat
  key : Key
  cell : CellId
  value : Value
  /-- Whether the key still has the cell. -/
  attached : Bool
  deriving DecidableEq, Repr

/-- The cell that a call is about to fill, and the value. -/
def Phase.delivers? : Phase Ask Answer Value Error → Option (CellId × Value)
  | .getting cell (.done (.ok value)) => some (cell, value)
  | _ => none

theorem Phase.delivers?_eq_some {phase : Phase Ask Answer Value Error} {cell : CellId}
    {value : Value} (delivers : phase.delivers? = some (cell, value)) :
    phase = .getting cell (.done (.ok value)) := by
  unfold Phase.delivers? at delivers
  split at delivers
  · cases delivers
    rfl
  · cases delivers

namespace Machine

variable [DecidableEq Key]

/-- The delivery that a step is, if it is one. -/
def delivery? (machine : Machine Key Ask Answer Value Error) :
    Event Key Ask Answer Value Error → Option (Delivery Key Value)
  | .advance i => machine.calls[i]?.bind fun call => call.phase.delivers?.map fun (cell, value) =>
    ⟨i, call.key, cell, value, machine.cells.slot? call.key = some cell⟩
  | _ => none

/-- The deliveries of a run, in order. -/
def deliveries (start : Machine Key Ask Answer Value Error)
    (events : List (Event Key Ask Answer Value Error)) : List (Delivery Key Value) :=
  start.record delivery? events

variable {start machine next : Machine Key Ask Answer Value Error}
  {event : Event Key Ask Answer Value Error} {events : List (Event Key Ask Answer Value Error)}
  {owner : CellId → Key}

theorem delivery?_eq_some {delivery : Delivery Key Value}
    (delivered : machine.delivery? event = some delivery) :
    event = .advance delivery.call ∧ ∃ call, machine.calls[delivery.call]? = some call ∧
      call.key = delivery.key ∧
      call.phase = .getting delivery.cell (.done (.ok delivery.value)) ∧
      delivery.attached = decide (machine.cells.slot? delivery.key = some delivery.cell) := by
  cases event with
  | advance i =>
    obtain ⟨call, here, delivered⟩ := Option.bind_eq_some_iff.mp delivered
    obtain ⟨⟨cell, value⟩, delivers, rfl⟩ := Option.map_eq_some_iff.mp delivered
    exact ⟨rfl, call, here, rfl, Phase.delivers?_eq_some delivers, rfl⟩
  | _ => cases delivered

theorem delivery?_of_phase {i : Nat} {call : Call Key Ask Answer Value Error} {cell : CellId}
    {value : Value} (here : machine.calls[i]? = some call)
    (phase : call.phase = .getting cell (.done (.ok value))) :
    machine.delivery? (.advance i) =
      some ⟨i, call.key, cell, value, machine.cells.slot? call.key = some cell⟩ := by
  show machine.calls[i]?.bind _ = _
  rw [here, Option.bind_some, phase]
  rfl

theorem mem_deliveries_snoc (ran : start.run? events = some machine)
    (event : Event Key Ask Answer Value Error) {delivery : Delivery Key Value} :
    delivery ∈ start.deliveries (events ++ [event]) ↔
      delivery ∈ start.deliveries events ∨ machine.delivery? event = some delivery :=
  mem_record_snoc ran event

/-- What the step of a call that got its value leads to. -/
theorem step_delivers {i : Nat} {call : Call Key Ask Answer Value Error} {cell : CellId}
    {value : Value} (taken : Step machine (.advance i) next) (here : machine.calls[i]? = some call)
    (phase : call.phase = .getting cell (.done (.ok value))) :
    next = { machine with cells := machine.cells.fill cell value }.put i call
      (.returned (.ok value)) := by
  cases taken with
  | filled there phase' =>
    rw [here] at there
    cases there
    rw [phase] at phase'
    cases phase'
    rfl
  | found there phase' | missed there phase' | made there phase' | shared there phase'
  | began there phase' | failed there phase' | discarded there phase' =>
    rw [here] at there
    cases there
    rw [phase] at phase'
    cases phase'

/-- A call that has returned steps no more. -/
theorem returned_of_step {i : Nat} {call : Call Key Ask Answer Value Error}
    {outcome : Except Error Value} (taken : Step machine event next)
    (here : machine.calls[i]? = some call) (returned : call.phase = .returned outcome) :
    next.calls[i]? = some call := by
  rcases stays_or_steps taken here with stays | rfl | ⟨reply, rfl⟩
  · exact stays
  · cases taken with
    | found there phase | missed there phase | made there phase | shared there phase
    | began there phase | filled there phase | failed there phase | discarded there phase =>
      cases here.symm.trans there
      cases returned.symm.trans phase
  · cases taken with
    | answered _ there phase =>
      cases here.symm.trans there
      cases returned.symm.trans phase

/-- **Where a value comes from**: it was there, a call delivered it, or it was inserted. -/
theorem value?_source {cell : CellId} {value : Value} (taken : Step machine event next)
    (holds : next.cells.value? cell = some value) :
    machine.cells.value? cell = some value ∨
      (∃ i call, event = .advance i ∧ machine.calls[i]? = some call ∧
        call.phase = .getting cell (.done (.ok value))) ∨
      ∃ key, event = .insert key value ∧ cell = machine.cells.next := by
  cases taken with
  | made => exact Or.inl ((Cells.value?_hold _ _ _).symm.trans holds)
  | @filled i call filled delivered here phase =>
    replace holds := (Cells.value?_fill _ _ _ _).symm.trans holds
    split at holds
    · next same =>
      subst same
      cases before : machine.cells.value? cell with
      | some kept =>
        rw [before, Option.getD_some] at holds
        exact Or.inl holds
      | none =>
        rw [before, Option.getD_none] at holds
        cases holds
        exact Or.inr (Or.inl ⟨i, call, rfl, here, phase⟩)
    · exact Or.inl holds
  | discarded => exact Or.inl ((Cells.value?_discard _ _ _ _).symm.trans holds)
  | insert key inserted =>
    replace holds := (Cells.value?_insert _ _ _ _).symm.trans holds
    split at holds
    · next same =>
      cases holds
      exact Or.inr (Or.inr ⟨key, rfl, same⟩)
    · exact Or.inl holds
  | _ => exact Or.inl holds

/-! ### The history of a run -/

/-- **The values and the deliveries of a run belong together.** -/
structure Told (start : Machine Key Ask Answer Value Error) (owner : CellId → Key)
    (events : List (Event Key Ask Answer Value Error))
    (machine : Machine Key Ask Answer Value Error) : Prop where
  source : ∀ cell value, machine.cells.value? cell = some value →
    (∃ delivery ∈ start.deliveries events, delivery.key = owner cell ∧ delivery.cell = cell ∧
      delivery.value = value) ∨ Event.insert (owner cell) value ∈ events
  kept : ∀ delivery ∈ start.deliveries events, owner delivery.cell = delivery.key ∧
    machine.cells.value? delivery.cell = some delivery.value ∧
    ∃ call, machine.calls[delivery.call]? = some call ∧ call.key = delivery.key ∧
      call.phase = .returned (.ok delivery.value)

theorem Told.step {owner' : CellId → Key} (told : Told start owner events machine)
    (ran : start.run? events = some machine) (sound : Sound owner machine)
    (agree : ∀ cell < machine.cells.next, owner' cell = owner cell) (sound' : Sound owner' next)
    (taken : Step machine event next) : Told start owner' (events ++ [event]) next where
  source cell value holds := by
    rcases value?_source taken holds with before | ⟨i, call, rfl, here, phase⟩ | ⟨key, rfl, fresh⟩
    · rw [agree cell (sound.owned.value cell value before)]
      rcases told.source cell value before with ⟨delivery, member, facts⟩ | inserted
      · exact Or.inl ⟨delivery, (mem_deliveries_snoc ran event).mpr (Or.inl member), facts⟩
      · exact Or.inr (List.mem_append_left _ inserted)
    · have ⟨made, mine⟩ := sound.owned.held i call cell here (by rw [phase]; rfl)
      exact Or.inl ⟨_, (mem_deliveries_snoc ran _).mpr (Or.inr (delivery?_of_phase here phase)),
        ((agree cell made).trans mine).symm, rfl, rfl⟩
    · cases taken
      have found : (machine.cells.insert key value).slot? key = some cell := by
        rw [Cells.slot?_insert, if_pos rfl, fresh]
      rw [(sound'.owned.slot key cell found).2]
      exact Or.inr (List.mem_append_right _ (List.mem_singleton.mpr rfl))
  kept delivery member := by
    rcases (mem_deliveries_snoc ran event).mp member with before | now
    · obtain ⟨mine, holds, call, here, facts, returned⟩ := told.kept delivery before
      exact ⟨(agree _ (sound.owned.value _ _ holds)).trans mine,
        value?_of_step sound.owned taken holds, call, returned_of_step taken here returned, facts,
        returned⟩
    · obtain ⟨rfl, call, here, same, phase, -⟩ := delivery?_eq_some now
      have ⟨made, mine⟩ := sound.owned.held _ call delivery.cell here (by rw [phase]; rfl)
      have empty := sound.single.empty _ call delivery.cell here (by rw [phase]; rfl)
      have after := step_delivers taken here phase
      subst after
      refine ⟨(agree _ made).trans (mine.trans same), ?_, _, (calls_put here _ _).trans
        (if_pos rfl), same, rfl⟩
      exact (Cells.value?_fill _ _ _ _).trans (by rw [if_pos rfl, empty, Option.getD_none])

/-- **What holds after every run that starts without cells.** -/
theorem history_of_run [Inhabited Key] (ran : (ofCells .empty).run? events = some machine) :
    ∃ owner, Sound owner machine ∧ Told (ofCells .empty) owner events machine := by
  refine run_invariant (motive := fun events machine =>
    ∃ owner, Sound owner machine ∧ Told (ofCells .empty) owner events machine)
    ⟨fun _ => default, ?_, ?_⟩ (fun events machine event next ran history taken => ?_) ran
  · exact ⟨⟨fun _ _ has => (nomatch has), fun _ _ _ here => (nomatch here),
      fun _ _ holds => (nomatch holds)⟩, ⟨fun _ _ _ here => (nomatch here),
      fun _ _ _ _ _ here => (nomatch here)⟩, fun _ _ _ here => (nomatch here)⟩
  · exact ⟨fun _ _ holds => (nomatch holds), fun _ member => (nomatch member)⟩
  · obtain ⟨owner, sound, told⟩ := history
    obtain ⟨owner', agree, sound'⟩ := sound.step taken
    exact ⟨owner', sound', told.step ran sound agree sound' taken⟩

end Machine

end TenantReports.Memo

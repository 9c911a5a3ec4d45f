import Mathlib.Logic.Function.Basic
import TenantReports.Proofs.Memo.Step

/-!
# Whose a cell is

**The invariants of concurrent lookups**, for any number of calls, keys and steps.

* `Owned owner`: every cell was made for one key, its owner. A key has only cells of its own, and a
  call holds only cells of its own key, also after the key has lost them.
* `Single`: at most one call at a time gets the value of a cell, and the cell is empty meanwhile.
* `Backed owner`: a value that a call returned is in a cell of its key, where it stays.

`Sound.step` keeps all three. A cell that is made later gets its owner then, so the owners after a
step agree with those before on all cells there were.
-/

set_option linter.unusedSectionVars false

namespace TenantReports.Memo.Machine

variable {Key Value Error : Type} {Ask : Type} {Answer : Ask → Type} [DecidableEq Key]

variable {machine next : Machine Key Ask Answer Value Error}
  {event : Event Key Ask Answer Value Error} {owner : CellId → Key}

/-! ### Cells and their keys -/

/-- **Cells have one owner.** A cell with an owner was made: its number is below the next one. -/
structure Owned (owner : CellId → Key) (machine : Machine Key Ask Answer Value Error) : Prop where
  slot : ∀ key cell, machine.cells.slot? key = some cell →
    cell < machine.cells.next ∧ owner cell = key
  held : ∀ (i : Nat) (call : Call Key Ask Answer Value Error) cell, machine.calls[i]? = some call →
    call.phase.cell? = some cell → cell < machine.cells.next ∧ owner cell = call.key
  value : ∀ cell value, machine.cells.value? cell = some value → cell < machine.cells.next

namespace Owned

/-- Only the owners of cells that were made matter. -/
theorem congr {owner' : CellId → Key} (owned : Owned owner machine)
    (agree : ∀ cell < machine.cells.next, owner' cell = owner cell) : Owned owner' machine where
  slot key cell has :=
    have ⟨made, mine⟩ := owned.slot key cell has
    ⟨made, (agree cell made).trans mine⟩
  held i call cell here holds :=
    have ⟨made, mine⟩ := owned.held i call cell here holds
    ⟨made, (agree cell made).trans mine⟩
  value := owned.value

theorem put {i : Nat} {call : Call Key Ask Answer Value Error} (owned : Owned owner machine)
    (here : machine.calls[i]? = some call) (phase : Phase Ask Answer Value Error)
    (mine : ∀ cell, phase.cell? = some cell →
      cell < machine.cells.next ∧ owner cell = call.key) :
    Owned owner (machine.put i call phase) where
  slot := owned.slot
  held j other cell there holds := by
    rw [calls_put here] at there
    split at there
    · cases there
      exact mine cell holds
    · exact owned.held j other cell there holds
  value := owned.value

theorem withCells {cells : Cells Key Value} (owned : Owned owner machine)
    (slot : ∀ key cell, cells.slot? key = some cell → cell < cells.next ∧ owner cell = key)
    (value : ∀ cell value, cells.value? cell = some value → cell < cells.next)
    (grows : machine.cells.next ≤ cells.next) : Owned owner { machine with cells } where
  slot := slot
  held i call cell here holds :=
    have ⟨made, mine⟩ := owned.held i call cell here holds
    ⟨Nat.lt_of_lt_of_le made grows, mine⟩
  value := value

/-- Taking cells away from keys leaves the owners as they are. -/
theorem remove {cells : Cells Key Value} (owned : Owned owner machine)
    (fewer : ∀ key cell, cells.slot? key = some cell → machine.cells.slot? key = some cell)
    (values : ∀ cell, cells.value? cell = machine.cells.value? cell)
    (count : cells.next = machine.cells.next) : Owned owner { machine with cells } :=
  owned.withCells (fun key cell has => count ▸ owned.slot key cell (fewer key cell has))
    (fun cell value holds => count ▸ owned.value cell value (values cell ▸ holds))
    (Nat.le_of_eq count.symm)

/-- A new cell belongs to the key that it is made for. -/
theorem hold (owned : Owned owner machine) (key : Key) :
    ∃ owner', (∀ cell < machine.cells.next, owner' cell = owner cell) ∧
      Owned owner' { machine with cells := (machine.cells.hold key).2 } ∧
      (machine.cells.hold key).1 < (machine.cells.hold key).2.next ∧
      owner' (machine.cells.hold key).1 = key := by
  cases has : machine.cells.slot? key with
  | some cell =>
    rw [Cells.hold_of_slot has]
    exact ⟨owner, fun _ _ => rfl, owned, owned.slot key cell has⟩
  | none =>
    have agree : ∀ cell < machine.cells.next,
        Function.update owner machine.cells.next key cell = owner cell :=
      fun cell made => Function.update_of_ne (Nat.ne_of_lt made) _ _
    have updated := owned.congr agree
    refine ⟨_, agree, updated.withCells (fun other cell found => ?_) (fun cell value holds => ?_)
      (Cells.next_le_hold _ _), ?_⟩
    · rw [Cells.slot?_hold] at found
      rw [Cells.hold_of_none has] at found ⊢
      split at found
      · next same =>
        cases found
        exact ⟨Nat.lt_succ_self _, by rw [Function.update_self, same]⟩
      · obtain ⟨made, mine⟩ := updated.slot other cell found
        exact ⟨Nat.lt_succ_of_lt made, mine⟩
    · rw [Cells.value?_hold] at holds
      exact Nat.lt_of_lt_of_le (owned.value cell value holds) (Cells.next_le_hold _ _)
    · rw [Cells.hold_of_none has]
      exact ⟨Nat.lt_succ_self _, Function.update_self _ _ _⟩

theorem insert (owned : Owned owner machine) (key : Key) (value : Value) :
    ∃ owner', (∀ cell < machine.cells.next, owner' cell = owner cell) ∧
      owner' machine.cells.next = key ∧
      Owned owner' { machine with cells := machine.cells.insert key value } := by
  have agree : ∀ cell < machine.cells.next,
      Function.update owner machine.cells.next key cell = owner cell :=
    fun cell made => Function.update_of_ne (Nat.ne_of_lt made) _ _
  have updated := owned.congr agree
  refine ⟨_, agree, Function.update_self _ _ _, updated.withCells (fun other cell found => ?_)
    (fun cell value holds => ?_) (Nat.le_succ _)⟩
  · rw [Cells.slot?_insert] at found
    split at found
    · next same =>
      cases found
      exact ⟨Nat.lt_succ_self _, by rw [Function.update_self, same]⟩
    · obtain ⟨made, mine⟩ := updated.slot other cell found
      exact ⟨Nat.lt_succ_of_lt made, mine⟩
  · rw [Cells.value?_insert] at holds
    split at holds
    · next same => exact same ▸ Nat.lt_succ_self _
    · exact Nat.lt_succ_of_lt (owned.value cell value holds)

/-- **A step keeps the owners**, but for a cell that it makes. -/
theorem step (owned : Owned owner machine) (taken : Step machine event next) :
    ∃ owner', (∀ cell < machine.cells.next, owner' cell = owner cell) ∧ Owned owner' next := by
  cases taken with
  | start key get =>
    refine ⟨owner, fun _ _ => rfl, owned.slot, fun i call cell here holds => ?_, owned.value⟩
    rcases calls_start here with before | ⟨-, rfl⟩
    · exact owned.held i call cell before holds
    · cases holds
  | found here _ has =>
    exact ⟨owner, fun _ _ => rfl, owned.put here _ fun _ same => by
      cases same
      exact owned.slot _ _ has⟩
  | missed here => exact ⟨owner, fun _ _ => rfl, owned.put here _ fun _ same => by cases same⟩
  | @made i call here =>
    obtain ⟨owner', agree, held, mine⟩ := owned.hold call.key
    exact ⟨owner', agree, held.put here _ fun _ same => by
      cases same
      exact mine⟩
  | shared here => exact ⟨owner, fun _ _ => rfl, owned.put here _ fun _ same => by cases same⟩
  | @began i call cell here phase =>
    exact ⟨owner, fun _ _ => rfl, owned.put here _ fun _ same => by
      cases same
      exact owned.held i call cell here (by rw [phase]; rfl)⟩
  | @filled i call cell value here phase =>
    have made := (owned.held i call cell here (by rw [phase]; rfl)).1
    have filled : Owned owner { machine with cells := machine.cells.fill cell value } := by
      refine owned.withCells (fun key other found => ?_) (fun other found holds => ?_) ?_
      · rw [Cells.slot?_fill] at found
        rw [Cells.next_fill]
        exact owned.slot key other found
      · rw [Cells.value?_fill] at holds
        rw [Cells.next_fill]
        split at holds
        · next same => exact same ▸ made
        · exact owned.value other found holds
      · exact Nat.le_of_eq (Cells.next_fill _ _ _).symm
    exact ⟨owner, fun _ _ => rfl, filled.put here _ fun _ same => by cases same⟩
  | @failed i call cell error here phase =>
    exact ⟨owner, fun _ _ => rfl, owned.put here _ fun _ same => by
      cases same
      exact owned.held i call cell here (by rw [phase]; rfl)⟩
  | @discarded i call cell error here phase =>
    have fewer : Owned owner { machine with cells := machine.cells.discard call.key cell } :=
      owned.remove (fun _ _ found => Cells.slot?_of_discard found)
        (fun _ => Cells.value?_discard _ _ _ _) (Cells.next_discard _ _ _)
    exact ⟨owner, fun _ _ => rfl, fewer.put here _ fun _ same => by cases same⟩
  | @answered i call cell _ _ _ here phase =>
    exact ⟨owner, fun _ _ => rfl, owned.put here _ fun _ same => by
      cases same
      exact owned.held i call cell here (by rw [phase]; rfl)⟩
  | evict key =>
    have fewer : Owned owner { machine with cells := machine.cells.erase key } :=
      owned.remove (fun _ _ found => Cells.slot?_of_erase found) (fun _ => rfl) rfl
    exact ⟨owner, fun _ _ => rfl, fewer⟩
  | evictAll kind =>
    have fewer : Owned owner { machine with cells := (machine.cells.evictAll kind).2 } :=
      owned.remove (fun _ _ found => Cells.slot?_of_evictAll found) (fun _ => rfl) rfl
    exact ⟨owner, fun _ _ => rfl, fewer⟩
  | insert key value =>
    obtain ⟨owner', agree, -, inserted⟩ := owned.insert key value
    exact ⟨owner', agree, inserted⟩

end Owned

/-! ### One call at a time gets a value -/

/-- **At most one call gets the value of a cell**, which is empty meanwhile. -/
structure Single (machine : Machine Key Ask Answer Value Error) : Prop where
  empty : ∀ (i : Nat) (call : Call Key Ask Answer Value Error) cell, machine.calls[i]? = some call →
    call.phase.filling? = some cell → machine.cells.value? cell = none
  alone : ∀ (i j : Nat) (call other : Call Key Ask Answer Value Error) cell,
    machine.calls[i]? = some call → machine.calls[j]? = some other →
    call.phase.filling? = some cell → other.phase.filling? = some cell → i = j

/-- A call that gets the value of a cell holds it. -/
theorem cell?_of_filling? {phase : Phase Ask Answer Value Error} {cell : CellId}
    (filling : phase.filling? = some cell) : phase.cell? = some cell := by
  cases phase <;> first | exact filling | cases filling

namespace Single

theorem put {i : Nat} {call : Call Key Ask Answer Value Error} (single : Single machine)
    (here : machine.calls[i]? = some call) (phase : Phase Ask Answer Value Error)
    (free : ∀ cell, phase.filling? = some cell → machine.cells.value? cell = none ∧
      ∀ (j : Nat) (other : Call Key Ask Answer Value Error), machine.calls[j]? = some other →
        other.phase.filling? = some cell → j = i) :
    Single (machine.put i call phase) where
  empty j other cell there filling := by
    rw [calls_put here] at there
    split at there
    · cases there
      exact (free cell filling).1
    · exact single.empty j other cell there filling
  alone j k first second cell hereFirst hereSecond fillingFirst fillingSecond := by
    rw [calls_put here] at hereFirst hereSecond
    split at hereFirst
    · next atFirst =>
      cases hereFirst
      split at hereSecond
      · next atSecond => exact atFirst.trans atSecond.symm
      · exact atFirst.trans ((free cell fillingFirst).2 k second hereSecond fillingSecond).symm
    · split at hereSecond
      · next atSecond =>
        cases hereSecond
        exact ((free cell fillingSecond).2 j first hereFirst fillingFirst).trans atSecond.symm
      · exact single.alone j k first second cell hereFirst hereSecond fillingFirst fillingSecond

theorem withCells {cells : Cells Key Value} (single : Single machine)
    (empty : ∀ (i : Nat) (call : Call Key Ask Answer Value Error) cell,
      machine.calls[i]? = some call → call.phase.filling? = some cell → cells.value? cell = none) :
    Single { machine with cells } where
  empty := empty
  alone := single.alone

/-- A phase in which no value is got. -/
theorem idle {i : Nat} {call : Call Key Ask Answer Value Error} (single : Single machine)
    (here : machine.calls[i]? = some call) (phase : Phase Ask Answer Value Error)
    (none : phase.filling? = none) : Single (machine.put i call phase) :=
  single.put here phase fun _ filling => by
    rw [none] at filling
    cases filling

theorem step (single : Single machine) (owned : Owned owner machine)
    (taken : Step machine event next) : Single next := by
  cases taken with
  | start key get =>
    refine ⟨fun i call cell here filling => ?_,
      fun i j call other cell here there filling fillingOther => ?_⟩
    · rcases calls_start here with before | ⟨-, rfl⟩
      · exact single.empty i call cell before filling
      · cases filling
    · rcases calls_start here with before | ⟨-, rfl⟩
      · rcases calls_start there with beforeOther | ⟨-, rfl⟩
        · exact single.alone i j call other cell before beforeOther filling fillingOther
        · cases fillingOther
      · cases filling
  | found here => exact single.idle here _ rfl
  | missed here => exact single.idle here _ rfl
  | @made i call here phase =>
    have held : Single { machine with cells := (machine.cells.hold call.key).2 } :=
      single.withCells fun j other cell there filling =>
        (Cells.value?_hold _ _ _).trans (single.empty j other cell there filling)
    exact held.idle here _ rfl
  | shared here => exact single.idle here _ rfl
  | @began i call cell here phase empty free =>
    refine single.put here _ fun _ same => ?_
    cases same
    refine ⟨empty, fun j other there filling => ?_⟩
    rw [isBusy_of_filling there filling] at free
    cases free
  | @filled i call cell value here phase =>
    -- The call is done with the cell before the cell is seen filled.
    have idle := single.idle here (.returned (.ok value)) rfl
    refine idle.withCells fun j other busy there filling => ?_
    rw [Cells.value?_fill]
    split
    · next same =>
      rw [calls_put here] at there
      split at there
      · cases there
        cases filling
      · next different =>
        subst same
        exact absurd (single.alone j i other call busy there here filling (by rw [phase]; rfl))
          different
    · exact idle.empty j other busy there filling
  | failed here => exact single.idle here _ rfl
  | @discarded i call cell error here phase =>
    have fewer : Single { machine with cells := machine.cells.discard call.key cell } :=
      single.withCells fun j other held there filling =>
        (Cells.value?_discard _ _ _ _).trans (single.empty j other held there filling)
    exact fewer.idle here _ rfl
  | @answered i call cell _ _ _ here phase =>
    refine single.put here _ fun _ same => ?_
    cases same
    have filling : call.phase.filling? = some cell := by rw [phase]; rfl
    exact ⟨single.empty i call cell here filling, fun j other there fillingOther =>
      single.alone j i other call cell there here fillingOther filling⟩
  | evict key => exact single.withCells single.empty
  | evictAll kind => exact single.withCells single.empty
  | insert key value =>
    refine single.withCells fun i call cell there filling => ?_
    have made := (owned.held i call cell there (cell?_of_filling? filling)).1
    rw [Cells.value?_insert, if_neg (Nat.ne_of_lt made)]
    exact single.empty i call cell there filling

end Single

/-! ### Returned values -/

/-- **A value stays in its cell.** -/
theorem value?_of_step {cell : CellId} {value : Value} (owned : Owned owner machine)
    (taken : Step machine event next) (holds : machine.cells.value? cell = some value) :
    next.cells.value? cell = some value := by
  cases taken with
  | made => exact (Cells.value?_hold _ _ _).trans holds
  | @filled i call filled found here phase =>
    refine (Cells.value?_fill _ _ _ _).trans ?_
    by_cases same : cell = filled
    · rw [if_pos same, ← same, holds, Option.getD_some]
    · rw [if_neg same, holds]
  | discarded => exact (Cells.value?_discard _ _ _ _).trans holds
  | insert key inserted =>
    refine (Cells.value?_insert _ _ _ _).trans ?_
    rw [if_neg (Nat.ne_of_lt (owned.value cell value holds)), holds]
  | _ => exact holds

/-- The value that a call returned is in a cell of its key. -/
def Backed (owner : CellId → Key) (machine : Machine Key Ask Answer Value Error) : Prop :=
  ∀ (i : Nat) (call : Call Key Ask Answer Value Error) value, machine.calls[i]? = some call →
    call.phase = .returned (.ok value) → ∃ cell, owner cell = call.key ∧
      machine.cells.value? cell = some value

/-- **What holds after every run**: cells have owners, one call at a time gets a value, and returned
values are kept. -/
structure Sound (owner : CellId → Key) (machine : Machine Key Ask Answer Value Error) : Prop where
  owned : Owned owner machine
  single : Single machine
  backed : Backed owner machine

/-- A call whose phase does not change what it returned, or that has just returned what is in a cell
of its key. -/
theorem Backed.put {i : Nat} {call : Call Key Ask Answer Value Error}
    (backed : Backed owner machine)
    (here : machine.calls[i]? = some call) (phase : Phase Ask Answer Value Error)
    (kept : ∀ value, phase = .returned (.ok value) →
      ∃ cell, owner cell = call.key ∧ machine.cells.value? cell = some value) :
    Backed owner (machine.put i call phase) := by
  intro j other value there returned
  rw [calls_put here] at there
  split at there
  · cases there
    exact kept value returned
  · exact backed j other value there returned

namespace Sound

/-- **A step keeps what holds after every run.** -/
theorem step (sound : Sound owner machine) (taken : Step machine event next) :
    ∃ owner', (∀ cell < machine.cells.next, owner' cell = owner cell) ∧ Sound owner' next := by
  obtain ⟨owner', agree, owned⟩ := sound.owned.step taken
  refine ⟨owner', agree, owned, sound.single.step sound.owned taken, ?_⟩
  -- The calls before the step, with the cells after it.
  have before : Backed owner' { machine with cells := next.cells } := by
    intro i call value here returned
    obtain ⟨cell, mine, holds⟩ := sound.backed i call value here returned
    have still : next.cells.value? cell = some value := value?_of_step sound.owned taken holds
    exact ⟨cell, (agree cell (sound.owned.value cell value holds)).trans mine, still⟩
  cases taken with
  | start key get =>
    intro i call value here returned
    rcases calls_start here with there | ⟨-, rfl⟩
    · exact before i call value there returned
    · cases returned
  | @shared i call cell value here phase holds =>
    refine before.put here (.returned (.ok value)) fun _ same => ?_
    cases same
    have ⟨made, mine⟩ := sound.owned.held i call cell here (by rw [phase]; rfl)
    exact ⟨cell, (agree cell made).trans mine, holds⟩
  | @filled i call cell value here phase =>
    refine before.put here (.returned (.ok value)) fun _ same => ?_
    cases same
    have ⟨made, mine⟩ := sound.owned.held i call cell here (by rw [phase]; rfl)
    refine ⟨cell, (agree cell made).trans mine, ?_⟩
    have empty := sound.single.empty i call cell here (by rw [phase]; rfl)
    exact (Cells.value?_fill _ _ _ _).trans (by rw [if_pos rfl, empty, Option.getD_none])
  | found here | missed here | began here | failed here | answered _ here =>
    exact before.put here _ fun _ same => by cases same
  | @made i call here =>
    exact before.put here (.waiting (machine.cells.hold call.key).1) fun _ same => by cases same
  | @discarded i call cell error here =>
    exact before.put here (.returned (.error error)) fun _ same => by cases same
  | evict | evictAll | insert => exact before

end Sound

end TenantReports.Memo.Machine

import TenantReports.Proofs.Memo.Delivery

/-!
# Empty cells are tended

**An empty cell that a key has is held by a call for that key**, which will fill the cell or take it
away. So no key keeps an empty cell once its calls have returned.

* `cell?_or_done`: a call lets go of its cell only when the cell is filled or is not its key's.
* `Tended.step`: every step keeps the empty cells tended; a cell that is made is held by the call
  that makes it.
* `Tidy`: what calls may leave behind, and what they leave behind when they have returned. It holds
  after every run that starts without cells (`tidy_of_run`).
-/

set_option linter.unusedSectionVars false

namespace TenantReports.Memo.Machine

variable {Key Value Error : Type} {Ask : Type} {Answer : Ask → Type} [DecidableEq Key]

variable {machine next : Machine Key Ask Answer Value Error}
  {event : Event Key Ask Answer Value Error} {events : List (Event Key Ask Answer Value Error)}
  {owner : CellId → Key} {key : Key} {cell : CellId} {i : Nat}

/-! ### The cells that calls hold -/

/-- **A call lets go of its cell only when the cell is filled or is not its key's.** -/
theorem cell?_or_done {call : Call Key Ask Answer Value Error} (taken : Step machine event next)
    (here : machine.calls[i]? = some call) (holds : call.phase.cell? = some cell) :
    (∃ after, next.calls[i]? = some after ∧ after.key = call.key ∧
      after.phase.cell? = some cell) ∨
    next.cells.value? cell ≠ none ∨ next.cells.slot? call.key ≠ some cell := by
  rcases stays_or_steps taken here with stays | rfl | ⟨reply, rfl⟩
  · exact Or.inl ⟨call, stays, rfl, holds⟩
  · cases taken with
    | found there phase | missed there phase | made there phase =>
      cases here.symm.trans there
      rw [phase] at holds
      cases holds
    | began there phase | failed there phase =>
      cases here.symm.trans there
      rw [phase] at holds
      cases holds
      exact Or.inl ⟨_, call_put here _, rfl, rfl⟩
    | shared there phase found =>
      cases here.symm.trans there
      rw [phase] at holds
      cases holds
      exact Or.inr (Or.inl (found.trans_ne (Option.some_ne_none _)))
    | @filled _ _ _ value there phase =>
      cases here.symm.trans there
      rw [phase] at holds
      cases holds
      have filled := (Cells.value?_fill machine.cells cell cell value).trans (if_pos rfl)
      exact Or.inr (Or.inl (filled.trans_ne (Option.some_ne_none _)))
    | discarded there phase =>
      cases here.symm.trans there
      rw [phase] at holds
      cases holds
      right
      by_cases empty : machine.cells.value? cell = none
      · refine Or.inr fun has => ?_
        replace has := (Cells.slot?_discard _ _ _ _).symm.trans has
        split at has
        · cases has
        · next kept => exact kept ⟨rfl, has, empty⟩
      · exact Or.inl ((Cells.value?_discard _ _ _ _).trans_ne empty)
  · cases taken with
    | answered _ there phase =>
      cases here.symm.trans there
      rw [phase] at holds
      cases holds
      exact Or.inl ⟨_, call_put here _, rfl, rfl⟩

/-! ### Empty cells -/

/-- **Empty cells are tended**: each one that a key has is held by a call for that key. -/
def Tended (machine : Machine Key Ask Answer Value Error) : Prop :=
  ∀ key cell, machine.cells.slot? key = some cell → machine.cells.value? cell = none →
    ∃ (i : Nat) (call : Call Key Ask Answer Value Error), machine.calls[i]? = some call ∧
      call.key = key ∧ call.phase.cell? = some cell

theorem Tended.step (tended : Tended machine) (owned : Owned owner machine)
    (taken : Step machine event next) : Tended next := by
  intro key cell has empty
  rcases slot?_source taken has with before | ⟨-, ⟨i, call, here, same, waits⟩ | filled⟩
  · have emptyBefore : machine.cells.value? cell = none := by
      by_contra filled
      obtain ⟨value, holds⟩ := Option.ne_none_iff_exists'.mp filled
      cases (value?_of_step owned taken holds).symm.trans empty
    obtain ⟨i, call, here, rfl, holds⟩ := tended key cell before emptyBefore
    rcases cell?_or_done taken here holds with ⟨after, there, same, still⟩ | filled | lost
    · exact ⟨i, after, there, same, still⟩
    · exact absurd empty filled
    · exact absurd has lost
  · exact ⟨i, call, here, same, by rw [waits]; rfl⟩
  · exact absurd empty filled

/-- Each key has one cell at most, also after a step. -/
theorem nodup_step (distinct : machine.cells.keys.Nodup) (taken : Step machine event next) :
    next.cells.keys.Nodup := by
  cases taken with
  | made => exact Cells.nodup_hold distinct _
  | filled => exact (Cells.keys_fill machine.cells _ _).symm ▸ distinct
  | discarded => exact Cells.nodup_discard distinct _ _
  | evict => exact Cells.nodup_erase distinct _
  | evictAll => exact Cells.nodup_evictAll distinct _
  | insert => exact Cells.nodup_insert distinct _ _
  | _ => exact distinct

/-! ### What is left behind -/

/-- **No call for a key is on its way**: all have returned. -/
def AtRest (machine : Machine Key Ask Answer Value Error) (key : Key) : Prop :=
  ∀ (i : Nat) (call : Call Key Ask Answer Value Error), machine.calls[i]? = some call →
    call.key = key → ∃ outcome, call.phase = .returned outcome

/-- **A machine leaves nothing behind** but values that were got or inserted. -/
structure Tidy (events : List (Event Key Ask Answer Value Error))
    (machine : Machine Key Ask Answer Value Error) : Prop where
  /-- Each key has one cell at most. -/
  distinct : machine.cells.keys.Nodup
  tended : machine.Tended
  /-- The cell of a key is filled when its calls have returned. -/
  filled : ∀ key ∈ machine.cells.keys, machine.AtRest key → (machine.cells.get? key).isSome
  /-- All keys that have cells count when all calls have returned. -/
  counted : (∀ key, machine.AtRest key) → machine.cells.size = machine.cells.keys.length
  /-- A key for which no call got a value, and none was inserted, has no cell when its calls have
  returned; these have returned errors. -/
  failed : ∀ key, machine.AtRest key →
    (∀ delivery ∈ (ofCells .empty).deliveries events, delivery.key ≠ key) →
    (∀ value, Event.insert key value ∉ events) → key ∉ machine.cells.keys ∧
      ∀ (i : Nat) (call : Call Key Ask Answer Value Error), machine.calls[i]? = some call →
        call.key = key → ∃ error, call.phase = .returned (.error error)

/-- A cell that is held is held by a call that has not returned. -/
theorem not_held_of_atRest {call : Call Key Ask Answer Value Error} (rest : machine.AtRest key)
    (here : machine.calls[i]? = some call) (same : call.key = key) : call.phase.cell? = none := by
  obtain ⟨outcome, returned⟩ := rest i call here same
  rw [returned]
  rfl

theorem Tended.filled (tended : Tended machine) (rest : machine.AtRest key)
    (has : key ∈ machine.cells.keys) : (machine.cells.get? key).isSome := by
  obtain ⟨cell, has⟩ := Option.isSome_iff_exists.mp (Cells.mem_keys.mp has)
  by_contra missing
  have empty : machine.cells.value? cell = none := by
    rw [Option.not_isSome_iff_eq_none, Cells.get?, has, Option.bind_some] at missing
    exact missing
  obtain ⟨i, call, here, same, holds⟩ := tended key cell has empty
  rw [not_held_of_atRest rest here same] at holds
  cases holds

/-- A cell whose owner got no value and was given none is empty. -/
theorem Told.empty {start : Machine Key Ask Answer Value Error}
    (told : Told start owner events machine)
    (none : ∀ delivery ∈ start.deliveries events, delivery.key ≠ owner cell)
    (spared : ∀ value, Event.insert (owner cell) value ∉ events) :
    machine.cells.value? cell = .none := by
  by_contra filled
  obtain ⟨value, holds⟩ := Option.ne_none_iff_exists'.mp filled
  rcases told.source cell value holds with ⟨delivery, member, mine, -⟩ | inserted
  · exact none delivery member mine
  · exact spared value inserted

/-- **Every run that starts without cells leaves nothing behind** but values that were got or
inserted. -/
theorem tidy_of_run [Inhabited Key] (ran : (ofCells .empty).run? events = some machine) :
    machine.Tidy events := by
  obtain ⟨distinct, tended⟩ : machine.cells.keys.Nodup ∧ machine.Tended := by
    refine run_invariant (motive := fun _ machine => machine.cells.keys.Nodup ∧ machine.Tended)
      ?_ (fun _ _ _ _ ran before taken => ?_) ran
    · exact ⟨List.nodup_nil, fun _ _ has => (nomatch has)⟩
    · obtain ⟨owner, sound, -⟩ := history_of_run ran
      exact ⟨nodup_step before.1 taken, before.2.step sound.owned taken⟩
  refine ⟨distinct, tended, fun key has rest => tended.filled rest has,
    fun rest => Cells.size_eq_length distinct fun key has => tended.filled (rest key) has,
    fun key rest none spared => ?_⟩
  obtain ⟨owner, sound, told⟩ := history_of_run ran
  refine ⟨fun has => ?_, fun i call here same => ?_⟩
  · obtain ⟨value, kept⟩ := Option.isSome_iff_exists.mp (tended.filled rest has)
    obtain ⟨cell, slot, holds⟩ := Cells.get?_eq_some_iff.mp kept
    obtain rfl := (sound.owned.slot key cell slot).2
    cases (told.empty none spared).symm.trans holds
  · obtain ⟨outcome, returned⟩ := rest i call here same
    cases outcome with
    | error error => exact ⟨error, returned⟩
    | ok value =>
      obtain ⟨cell, mine, holds⟩ := sound.backed i call value here returned
      obtain rfl := mine.trans same
      cases (told.empty none spared).symm.trans holds

end TenantReports.Memo.Machine

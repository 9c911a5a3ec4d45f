import TenantReports.Memo.Lookup
import TenantReports.Proofs.Questions

/-!
# One lookup after another

**What lookups come to that do not overlap**, where each question has one answer. Then only what is
kept under a key decides what a lookup of the key gives, and the lookup changes nothing under any
other key.

* `Cells.found?`: what a lookup finds, before it gets anything.
* `Cells.Settled`: no lookup is under way. Then a lookup finds what is kept.
* `outcome_lookup`: a lookup gives what is kept, or what it gets.
* `kept_lookup`: afterwards the key has what the lookup gave, and all other keys what they had.
-/

namespace TenantReports.Memo

universe u

variable {Key Value Error : Type} [DecidableEq Key] {Ask : Type u} {Answer : Ask → Type u}
  {cells : Cells Key Value} {key : Key}

/-! ### Cells between lookups -/

namespace Cells

/-- **What a lookup finds** in the cell of a key. -/
def found? (cells : Cells Key Value) (key : Key) : Option Value :=
  (cells.hold key).2.value? (cells.hold key).1

/-- **No lookup is under way**: the cells that keys have are filled. -/
structure Settled (cells : Cells Key Value) : Prop where
  filled : ∀ key cell, cells.slot? key = some cell → (cells.value? cell).isSome
  made : ∀ cell, (cells.value? cell).isSome → cell < cells.next

theorem settled_empty : (empty : Cells Key Value).Settled where
  filled key cell has := by cases has
  made cell holds := by cases holds

/-- The cell of a key was made before the next one. -/
theorem Settled.lt_next (settled : cells.Settled) {cell : CellId}
    (has : cells.slot? key = some cell) : cell < cells.next :=
  settled.made cell (settled.filled key cell has)

/-- A key under which nothing is kept has no cell. -/
theorem Settled.slot?_eq_none (settled : cells.Settled) (lacks : cells.get? key = none) :
    cells.slot? key = none := by
  cases has : cells.slot? key with
  | none => rfl
  | some cell =>
    obtain ⟨value, holds⟩ := Option.isSome_iff_exists.mp (settled.filled key cell has)
    rw [get?_eq_some_iff.mpr ⟨cell, has, holds⟩] at lacks
    cases lacks

theorem Settled.value?_next (settled : cells.Settled) : cells.value? cells.next = none := by
  cases holds : cells.value? cells.next with
  | none => rfl
  | some value =>
    exact absurd (settled.made cells.next (by rw [holds]; rfl)) (Nat.lt_irrefl _)

/-- **Between lookups, what is found is what is kept.** -/
theorem Settled.found?_eq_get? (settled : cells.Settled) : cells.found? key = cells.get? key := by
  unfold found? get?
  rw [value?_hold]
  cases has : cells.slot? key with
  | some cell => rw [hold_of_slot has, Option.bind_some]
  | none => rw [hold_of_none has, settled.value?_next, Option.bind_none]

/-- Only the cell of a key and what it holds decide what is kept under the key. -/
theorem get?_congr {others : Cells Key Value} (slot : others.slot? key = cells.slot? key)
    (values : ∀ cell, cells.slot? key = some cell → others.value? cell = cells.value? cell) :
    others.get? key = cells.get? key := by
  unfold get?
  rw [slot]
  cases has : cells.slot? key with
  | none => rfl
  | some cell => exact values cell has

end Cells

/-! ### A lookup that gets its value -/

section Settle

variable (settled : cells.Settled) (lacks : cells.slot? key = none)
include settled lacks

theorem kept_fill (value : Value) :
    ((cells.hold key).2.fill (cells.hold key).1 value).Settled ∧
      ∀ other, ((cells.hold key).2.fill (cells.hold key).1 value).get? other =
        if other = key then some value else cells.get? other := by
  have new : (cells.hold key).1 = cells.next := by rw [Cells.hold_of_none lacks]
  have grown : (cells.hold key).2.next = cells.next + 1 := by rw [Cells.hold_of_none lacks]
  have slot : ∀ other, ((cells.hold key).2.fill (cells.hold key).1 value).slot? other =
      if other = key then some cells.next else cells.slot? other := by
    intro other
    rw [Cells.slot?_fill, Cells.slot?_hold, new]
  have holds : ∀ cell, ((cells.hold key).2.fill (cells.hold key).1 value).value? cell =
      if cell = cells.next then some value else cells.value? cell := by
    intro cell
    rw [Cells.value?_fill, Cells.value?_hold, Cells.value?_hold, new, settled.value?_next]
    rfl
  -- The cell that is filled is none of those that keys had: they were made before it.
  have old : ∀ {other cell}, cells.slot? other = some cell → cell ≠ cells.next :=
    fun has => Nat.ne_of_lt (settled.lt_next has)
  refine ⟨⟨fun other cell has => ?_, fun cell filled => ?_⟩, fun other => ?_⟩
  · rw [slot] at has
    rw [holds]
    split at has
    · cases has
      rw [if_pos rfl]
      rfl
    · rw [if_neg (old has)]
      exact settled.filled other cell has
  · rw [Cells.next_fill, grown]
    rw [holds] at filled
    split at filled
    · next same => exact same ▸ Nat.lt_succ_self _
    · exact Nat.lt_succ_of_lt (settled.made cell filled)
  · by_cases same : other = key
    · rw [if_pos same]
      refine Cells.get?_eq_some_iff.mpr ⟨cells.next, ?_, ?_⟩
      · rw [slot, if_pos same]
      · rw [holds, if_pos rfl]
    · rw [if_neg same]
      refine Cells.get?_congr ((slot other).trans (if_neg same)) fun cell has => ?_
      rw [holds, if_neg (old has)]

theorem kept_discard :
    ((cells.hold key).2.discard key (cells.hold key).1).Settled ∧
      ∀ other, ((cells.hold key).2.discard key (cells.hold key).1).get? other =
        cells.get? other := by
  have new : (cells.hold key).1 = cells.next := by rw [Cells.hold_of_none lacks]
  have slot : ∀ other, ((cells.hold key).2.discard key (cells.hold key).1).slot? other =
      cells.slot? other := by
    intro other
    rw [Cells.slot?_discard, Cells.slot?_hold, Cells.slot?_hold, Cells.value?_hold, if_pos rfl, new,
      settled.value?_next]
    by_cases same : other = key
    · rw [if_pos ⟨same, rfl, rfl⟩, same, lacks]
    · rw [if_neg fun both => same both.1, if_neg same]
  have holds : ∀ cell, ((cells.hold key).2.discard key (cells.hold key).1).value? cell =
      cells.value? cell := by
    intro cell
    rw [Cells.value?_discard, Cells.value?_hold]
  refine ⟨⟨fun other cell has => ?_, fun cell filled => ?_⟩, fun other => ?_⟩
  · rw [slot] at has
    rw [holds]
    exact settled.filled other cell has
  · rw [holds] at filled
    rw [Cells.next_discard]
    exact Nat.lt_of_lt_of_le (settled.made cell filled) (Cells.next_le_hold _ _)
  · exact Cells.get?_congr (slot other) fun cell _ => holds cell

/-- A lookup that got its value keeps it, and nothing if it failed. -/
theorem kept_settle (outcome : Except Error Value) :
    (settle (cells.hold key).2 key (cells.hold key).1 outcome).2.Settled ∧
      ∀ other, (settle (cells.hold key).2 key (cells.hold key).1 outcome).2.get? other =
        if other = key then outcome.toOption else cells.get? other := by
  cases outcome with
  | ok value => exact kept_fill settled lacks value
  | error error =>
    obtain ⟨still, same⟩ := kept_discard settled lacks
    refine ⟨still, fun other => (same other).trans ?_⟩
    by_cases here : other = key
    · rw [if_pos here, here, Cells.get?, lacks]
      rfl
    · rw [if_neg here]

end Settle

/-! ### Lookups -/

variable {get : Key → Task Ask Answer (Except Error Value)} {reply : (q : Ask) → Answer q}

theorem lookup_of_found {value : Value} (found : cells.found? key = some value) :
    lookup get key cells = .done (.ok value, (cells.hold key).2) := by
  unfold Cells.found? at found
  simp only [lookup, found]

theorem lookup_of_new (new : cells.found? key = none) :
    lookup get key cells = (get key).bind fun outcome =>
      .done (settle (cells.hold key).2 key (cells.hold key).1 outcome) := by
  unfold Cells.found? at new
  simp only [lookup, new]

/-- A lookup of what is kept changes nothing. -/
theorem lookup_of_get? {value : Value} (kept : cells.get? key = some value) :
    lookup get key cells = .done (.ok value, cells) := by
  obtain ⟨cell, has, holds⟩ := Cells.get?_eq_some_iff.mp kept
  simp only [lookup, Cells.hold_of_slot has, holds]

theorem settle_fst (key : Key) (cell : CellId) (outcome : Except Error Value) :
    (settle cells key cell outcome).1 = outcome := by
  cases outcome <;> rfl

/-- **A lookup gives what is kept, or else what it gets.** -/
theorem outcome_lookup (settled : cells.Settled) :
    ((lookup get key cells).value reply).1 =
      (cells.get? key).elim ((get key).value reply) Except.ok := by
  cases kept : cells.get? key with
  | some value =>
    rw [lookup_of_get? kept]
    rfl
  | none =>
    rw [lookup_of_new (settled.found?_eq_get?.trans kept), Task.value_bind, Task.value_done, settle_fst]
    rfl

/-- **After a lookup** the key has what the lookup gave, and all other keys have what they had. -/
theorem kept_lookup (settled : cells.Settled) :
    ((lookup get key cells).value reply).2.Settled ∧
      ∀ other, ((lookup get key cells).value reply).2.get? other =
        if other = key then ((lookup get key cells).value reply).1.toOption
        else cells.get? other := by
  cases kept : cells.get? key with
  | some value =>
    rw [lookup_of_get? kept, Task.value_done]
    refine ⟨settled, fun other => ?_⟩
    by_cases same : other = key
    · rw [if_pos same, same, kept]
      rfl
    · rw [if_neg same]
  | none =>
    rw [lookup_of_new (settled.found?_eq_get?.trans kept), Task.value_bind, Task.value_done, settle_fst]
    exact kept_settle settled (settled.slot?_eq_none kept) _

/-- A lookup puts the questions of the one who gets the value. -/
theorem only_lookup {Kind : Ask → Prop} (only : (get key).Only Kind) :
    (lookup get key cells).Only Kind := by
  unfold lookup
  dsimp only
  split
  · exact .done _
  · exact only.bind fun outcome => .done _

end TenantReports.Memo

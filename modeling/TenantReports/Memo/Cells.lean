/-!
# Cells that are filled once

A value that takes time to get is kept in a cell, and the cells are found by key. A cell is filled
at most once. It may be taken away from its key while those who hold it still wait for its value;
what becomes of it then has no effect on its key.

* `Cells.hold`: finds the cell of a key, or makes an empty one.
* `Cells.fill`: fills a cell, whether or not a key still has it.
* `Cells.discard`: takes an empty cell away from its key, if that key still has it.
* `Cells.evict`, `Cells.insert`: take the cell away from a key, or give it one that is filled.

Of each operation the lemmas say what it does to the cell of a key (`slot?`), to what a cell holds
(`value?`), to the number of the next cell and to the keys that have cells; with them no other
module looks into the lists.
-/

set_option linter.unusedSectionVars false

namespace TenantReports.Memo

/-- A cell by its number. -/
abbrev CellId := Nat

/-- Cells by key, and what those hold that are filled. -/
structure Cells (Key Value : Type) where
  slots : List (Key × CellId)
  values : List (CellId × Value)
  /-- No cell has this number or a greater one. -/
  next : CellId

namespace Cells

variable {Key Value : Type} [DecidableEq Key]

/-- No cells. -/
def empty : Cells Key Value :=
  ⟨[], [], 0⟩

instance : Inhabited (Cells Key Value) := ⟨empty⟩

/-- The cell of a key. -/
def slot? (cells : Cells Key Value) (key : Key) : Option CellId :=
  (cells.slots.find? fun entry => entry.1 = key).map (·.2)

/-- What a cell holds. -/
def value? (cells : Cells Key Value) (cell : CellId) : Option Value :=
  (cells.values.find? fun entry => entry.1 = cell).map (·.2)

/-- What the cell of a key holds. -/
def get? (cells : Cells Key Value) (key : Key) : Option Value :=
  (cells.slot? key).bind cells.value?

/-- The cell of a key; an empty one is made if it has none. -/
def hold (cells : Cells Key Value) (key : Key) : CellId × Cells Key Value :=
  match cells.slot? key with
  | some cell => (cell, cells)
  | none =>
    (cells.next,
      { cells with slots := (key, cells.next) :: cells.slots, next := cells.next + 1 })

/-- Fills a cell, unless it is filled. -/
def fill (cells : Cells Key Value) (cell : CellId) (value : Value) : Cells Key Value :=
  match cells.value? cell with
  | some _ => cells
  | none => { cells with values := (cell, value) :: cells.values }

/-- The cells without that of a key. -/
def erase (cells : Cells Key Value) (key : Key) : Cells Key Value :=
  { cells with slots := cells.slots.filter fun entry => entry.1 ≠ key }

/-- Takes a cell away from a key if it has that cell and the cell is empty. -/
def discard (cells : Cells Key Value) (key : Key) (cell : CellId) : Cells Key Value :=
  if cells.slot? key = some cell ∧ (cells.value? cell).isNone then cells.erase key else cells

/-- Takes the cell away from a key; whether it had one. -/
def evict (cells : Cells Key Value) (key : Key) : Bool × Cells Key Value :=
  ((cells.slot? key).isSome, cells.erase key)

/-- Takes the cells away from all keys of a kind; how many there were. -/
def evictAll (cells : Cells Key Value) (kind : Key → Bool) : Nat × Cells Key Value :=
  ((cells.slots.filter fun entry => kind entry.1).length,
    { cells with slots := cells.slots.filter fun entry => !kind entry.1 })

/-- Gives a key a cell of its own that holds a value. -/
def insert (cells : Cells Key Value) (key : Key) (value : Value) : Cells Key Value :=
  { slots := (key, cells.next) :: (cells.erase key).slots
    values := (cells.next, value) :: cells.values
    next := cells.next + 1 }

/-- The keys that have a cell. -/
def keys (cells : Cells Key Value) : List Key :=
  cells.slots.map (·.1)

/-- The number of keys whose cell is filled. -/
def size (cells : Cells Key Value) : Nat :=
  (cells.slots.filter fun entry => (cells.value? entry.2).isSome).length

/-! ### What becomes of a key's cell -/

theorem hold_of_slot {cells : Cells Key Value} {key : Key} {cell : CellId}
    (has : cells.slot? key = some cell) : cells.hold key = (cell, cells) := by
  simp only [hold, has]

theorem hold_of_none {cells : Cells Key Value} {key : Key} (lacks : cells.slot? key = none) :
    cells.hold key = (cells.next,
      { cells with slots := (key, cells.next) :: cells.slots, next := cells.next + 1 }) := by
  simp only [hold, lacks]

/-- The first cell in the list is found under its own key. -/
theorem slot?_cons (slots : List (Key × CellId)) (values : List (CellId × Value))
    (next cell : CellId)
    (key other : Key) :
    (⟨(key, cell) :: slots, values, next⟩ : Cells Key Value).slot? other =
      if other = key then some cell else (⟨slots, values, next⟩ : Cells Key Value).slot? other := by
  unfold slot?
  by_cases same : other = key
  · simp [same]
  · simp [same, Ne.symm same]

theorem slot?_hold (cells : Cells Key Value) (key other : Key) :
    (cells.hold key).2.slot? other =
      if other = key then some (cells.hold key).1 else cells.slot? other := by
  cases has : cells.slot? key with
  | some cell =>
    rw [hold_of_slot has]
    by_cases same : other = key
    · rw [if_pos same, same, has]
    · rw [if_neg same]
  | none =>
    rw [hold_of_none has]
    exact slot?_cons _ _ _ _ _ _

@[simp] theorem slot?_fill (cells : Cells Key Value) (cell : CellId) (value : Value) (key : Key) :
    (cells.fill cell value).slot? key = cells.slot? key := by
  unfold fill
  split <;> rfl

theorem slot?_erase (cells : Cells Key Value) (key other : Key) :
    (cells.erase key).slot? other = if other = key then none else cells.slot? other := by
  unfold erase slot?
  rw [List.find?_filter]
  by_cases same : other = key
  · subst same
    simp
  · have agree : (fun entry : Key × CellId =>
        decide (decide (entry.1 ≠ key) = true ∧ decide (entry.1 = other) = true)) =
        fun entry => decide (entry.1 = other) := by
      funext entry
      by_cases here : entry.1 = other
      · simp [here, same]
      · simp [here]
    rw [if_neg same]
    simp only [agree]

/-- An empty cell is taken away from its key, and nothing else is. -/
theorem slot?_discard (cells : Cells Key Value) (key other : Key) (cell : CellId) :
    (cells.discard key cell).slot? other =
      if other = key ∧ cells.slot? key = some cell ∧ cells.value? cell = none then none
      else cells.slot? other := by
  unfold discard
  by_cases goes : cells.slot? key = some cell ∧ cells.value? cell = none
  · rw [if_pos ⟨goes.1, Option.isNone_iff_eq_none.mpr goes.2⟩, slot?_erase]
    simp only [goes, and_true]
  · rw [if_neg fun both => goes ⟨both.1, Option.isNone_iff_eq_none.mp both.2⟩]
    rw [if_neg fun both => goes both.2]

theorem slot?_evictAll (cells : Cells Key Value) (kind : Key → Bool) (key : Key) :
    (cells.evictAll kind).2.slot? key = if kind key then none else cells.slot? key := by
  unfold evictAll slot?
  simp only [List.find?_filter]
  by_cases gone : kind key
  · rw [if_pos gone, Option.map_eq_none_iff, List.find?_eq_none]
    intro entry _ both
    simp only [decide_eq_true_eq] at both
    rw [both.2, gone] at both
    cases both.1
  · have agree : (fun entry : Key × CellId =>
        decide ((!kind entry.1) = true ∧ decide (entry.1 = key) = true)) =
        fun entry => decide (entry.1 = key) := by
      funext entry
      by_cases here : entry.1 = key
      · simp [here, gone]
      · simp [here]
    rw [if_neg gone]
    simp only [agree]

section Fewer

variable {cells : Cells Key Value} {key other : Key} {cell lost : CellId}

/-- Keys only lose cells to these operations. -/
theorem slot?_of_erase (has : (cells.erase key).slot? other = some cell) :
    cells.slot? other = some cell := by
  rw [slot?_erase] at has
  split at has
  · cases has
  · exact has

theorem slot?_of_discard (has : (cells.discard key lost).slot? other = some cell) :
    cells.slot? other = some cell := by
  rw [slot?_discard] at has
  split at has
  · cases has
  · exact has

theorem slot?_of_evictAll {kind : Key → Bool}
    (has : (cells.evictAll kind).2.slot? other = some cell) : cells.slot? other = some cell := by
  rw [slot?_evictAll] at has
  split at has
  · cases has
  · exact has

end Fewer

theorem slot?_insert (cells : Cells Key Value) (key other : Key) (value : Value) :
    (cells.insert key value).slot? other =
      if other = key then some cells.next else cells.slot? other := by
  unfold insert
  rw [slot?_cons]
  by_cases same : other = key
  · rw [if_pos same, if_pos same]
  · rw [if_neg same, if_neg same]
    exact (slot?_erase cells key other).trans (if_neg same)

/-! ### What becomes of a cell's value -/

@[simp] theorem value?_hold (cells : Cells Key Value) (key : Key) (cell : CellId) :
    (cells.hold key).2.value? cell = cells.value? cell := by
  unfold hold
  split <;> rfl

/-- The first value in the list is found in its own cell. -/
theorem value?_cons (slots : List (Key × CellId)) (values : List (CellId × Value))
    (next cell other : CellId) (value : Value) :
    (⟨slots, (cell, value) :: values, next⟩ : Cells Key Value).value? other =
      if other = cell then some value
      else (⟨slots, values, next⟩ : Cells Key Value).value? other := by
  unfold value?
  by_cases same : other = cell
  · simp [same]
  · simp [same, Ne.symm same]

theorem value?_fill (cells : Cells Key Value) (cell other : CellId) (value : Value) :
    (cells.fill cell value).value? other =
      if other = cell then some ((cells.value? cell).getD value) else cells.value? other := by
  unfold fill
  cases held : cells.value? cell with
  | some before =>
    by_cases same : other = cell
    · rw [if_pos same, same, held, Option.getD_some]
    · rw [if_neg same]
  | none => exact value?_cons _ _ _ _ _ _

@[simp] theorem value?_discard (cells : Cells Key Value) (key : Key) (cell other : CellId) :
    (cells.discard key cell).value? other = cells.value? other := by
  unfold discard erase
  split <;> rfl

theorem value?_insert (cells : Cells Key Value) (key : Key) (cell : CellId) (value : Value) :
    (cells.insert key value).value? cell =
      if cell = cells.next then some value else cells.value? cell :=
  value?_cons _ _ _ _ _ _

/-! ### The number of the next cell -/

theorem next_le_hold (cells : Cells Key Value) (key : Key) :
    cells.next ≤ (cells.hold key).2.next := by
  unfold hold
  split
  · exact Nat.le_refl _
  · exact Nat.le_succ _

@[simp] theorem next_fill (cells : Cells Key Value) (cell : CellId) (value : Value) :
    (cells.fill cell value).next = cells.next := by
  unfold fill
  split <;> rfl

@[simp] theorem next_discard (cells : Cells Key Value) (key : Key) (cell : CellId) :
    (cells.discard key cell).next = cells.next := by
  unfold discard erase
  split <;> rfl

/-! ### What is found under a key -/

/-- What is found under a key is in the cell that the key has. -/
theorem get?_eq_some_iff {cells : Cells Key Value} {key : Key} {value : Value} :
    cells.get? key = some value ↔
      ∃ cell, cells.slot? key = some cell ∧ cells.value? cell = some value :=
  Option.bind_eq_some_iff

/-! ### The keys that have cells -/

theorem mem_keys {cells : Cells Key Value} {key : Key} :
    key ∈ cells.keys ↔ (cells.slot? key).isSome := by
  unfold keys slot?
  simp only [List.mem_map, Option.isSome_map, List.find?_isSome, decide_eq_true_eq]

@[simp] theorem keys_fill (cells : Cells Key Value) (cell : CellId) (value : Value) :
    (cells.fill cell value).keys = cells.keys := by
  unfold fill
  split <;> rfl

theorem keys_hold (cells : Cells Key Value) (key : Key) :
    (cells.hold key).2.keys = if key ∈ cells.keys then cells.keys else key :: cells.keys := by
  cases has : cells.slot? key with
  | some cell => rw [hold_of_slot has, if_pos (mem_keys.mpr (has ▸ rfl))]
  | none =>
    have lacks : key ∉ cells.keys := fun member => by
      rw [mem_keys, has] at member
      cases member
    rw [hold_of_none has, if_neg lacks]
    rfl

theorem keys_erase (cells : Cells Key Value) (key : Key) :
    (cells.erase key).keys = cells.keys.filter fun other => other ≠ key := by
  unfold keys erase
  rw [List.filter_map]
  rfl

theorem keys_evictAll (cells : Cells Key Value) (kind : Key → Bool) :
    (cells.evictAll kind).2.keys = cells.keys.filter fun key => !kind key := by
  unfold keys evictAll
  rw [List.filter_map]
  rfl

theorem keys_insert (cells : Cells Key Value) (key : Key) (value : Value) :
    (cells.insert key value).keys = key :: (cells.erase key).keys :=
  rfl

section Distinct

variable {cells : Cells Key Value} (distinct : cells.keys.Nodup)
include distinct

theorem nodup_hold (key : Key) : (cells.hold key).2.keys.Nodup := by
  rw [keys_hold]
  split
  · exact distinct
  · next lacks => exact List.nodup_cons.mpr ⟨lacks, distinct⟩

theorem nodup_erase (key : Key) : (cells.erase key).keys.Nodup := by
  rw [keys_erase]
  exact distinct.filter _

theorem nodup_discard (key : Key) (cell : CellId) : (cells.discard key cell).keys.Nodup := by
  unfold discard
  split
  · exact nodup_erase distinct key
  · exact distinct

theorem nodup_evictAll (kind : Key → Bool) : (cells.evictAll kind).2.keys.Nodup := by
  rw [keys_evictAll]
  exact distinct.filter _

theorem nodup_insert (key : Key) (value : Value) : (cells.insert key value).keys.Nodup := by
  rw [keys_insert]
  refine List.nodup_cons.mpr ⟨fun member => ?_, nodup_erase distinct key⟩
  rw [mem_keys, slot?_erase, if_pos rfl] at member
  cases member

/-- **Each key has one cell at most**, which is the one that is found. -/
theorem slot?_of_mem {key : Key} {cell : CellId} (member : (key, cell) ∈ cells.slots) :
    cells.slot? key = some cell := by
  obtain ⟨slots, values, next⟩ := cells
  induction slots with
  | nil => cases member
  | cons entry rest ih =>
    obtain ⟨absent, distinct⟩ := List.nodup_cons.mp distinct
    rw [slot?_cons]
    rcases List.mem_cons.mp member with rfl | later
    · exact if_pos rfl
    · rw [if_neg, ih distinct later]
      rintro rfl
      exact absent (List.mem_map.mpr ⟨_, later, rfl⟩)

/-- **All keys that have cells count** if these are filled. -/
theorem size_eq_length (filled : ∀ key ∈ cells.keys, (cells.get? key).isSome) :
    cells.size = cells.keys.length := by
  have all : ∀ entry ∈ cells.slots, (cells.value? entry.2).isSome := by
    intro entry member
    have full := filled entry.1 (List.mem_map.mpr ⟨entry, member, rfl⟩)
    rwa [get?, slot?_of_mem distinct member, Option.bind_some] at full
  unfold size keys
  rw [List.filter_eq_self.mpr all, List.length_map]

end Distinct

end Cells

end TenantReports.Memo

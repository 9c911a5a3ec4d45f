import Mathlib.Data.Finmap
import TenantReports.Proofs.Dialogue
import TenantReports.Proofs.Memo.Lookup

/-!
# Cells as a map

**Between lookups the cells are a finite map**, in which the value under a key is what the cell of
the key holds. That a value takes time to get, and that a cell is there before its value is, cannot
be noticed then.

* `Cells.Keeps`: the cells keep a map.
* `Keeps.erase`, `Keeps.evictAll`, `Keeps.insert`, `Keeps.size`: what is done to the cells is done to
  the map.
* `Looks`: a lookup in a map, which gets a value that is not there.
* `Keeps.looks_of_leads`, `Keeps.leads_of_looks`: a lookup in the cells is a lookup in the map.
-/

namespace TenantReports.Memo

universe u

variable {Key Value Error : Type} [DecidableEq Key] {Ask : Type u} {Answer : Ask → Type u}
  {cells : Cells Key Value} {map : Finmap fun _ : Key => Value} {key : Key}

namespace Cells

/-! ### Cells between lookups -/

theorem Settled.erase (settled : cells.Settled) (key : Key) : (cells.erase key).Settled where
  filled other cell has := settled.filled other cell (slot?_of_erase has)
  made := settled.made

theorem Settled.evictAll (settled : cells.Settled) (kind : Key → Bool) :
    (cells.evictAll kind).2.Settled where
  filled other cell has := settled.filled other cell (slot?_of_evictAll has)
  made := settled.made

theorem Settled.insert (settled : cells.Settled) (key : Key) (value : Value) :
    (cells.insert key value).Settled where
  filled other cell has := by
    rw [slot?_insert] at has
    rw [value?_insert]
    split at has
    · cases has
      rw [if_pos rfl]
      rfl
    · rw [if_neg (Nat.ne_of_lt (settled.lt_next has))]
      exact settled.filled other cell has
  made cell filled := by
    rw [value?_insert] at filled
    split at filled
    · next same => exact same ▸ Nat.lt_succ_self _
    · exact Nat.lt_succ_of_lt (settled.made cell filled)

theorem get?_erase (cells : Cells Key Value) (key other : Key) :
    (cells.erase key).get? other = if other = key then none else cells.get? other := by
  have slot := slot?_erase cells key other
  by_cases same : other = key
  · rw [if_pos same] at slot
    rw [if_pos same, get?, slot, Option.bind_none]
  · rw [if_neg same] at slot
    rw [if_neg same]
    exact get?_congr slot fun _ _ => rfl

theorem get?_evictAll (cells : Cells Key Value) (kind : Key → Bool) (key : Key) :
    (cells.evictAll kind).2.get? key = if kind key then none else cells.get? key := by
  have slot := slot?_evictAll cells kind key
  by_cases gone : kind key
  · rw [if_pos gone] at slot
    rw [if_pos gone, get?, slot, Option.bind_none]
  · rw [if_neg gone] at slot
    rw [if_neg gone]
    exact get?_congr slot fun _ _ => rfl

theorem Settled.get?_insert (settled : cells.Settled) (key other : Key) (value : Value) :
    (cells.insert key value).get? other =
      if other = key then some value else cells.get? other := by
  have slot := slot?_insert cells key other value
  by_cases same : other = key
  · rw [if_pos same] at slot
    rw [if_pos same, get?, slot, Option.bind_some, value?_insert, if_pos rfl]
  · rw [if_neg same] at slot
    rw [if_neg same]
    refine get?_congr slot fun cell has => ?_
    rw [value?_insert, if_neg (Nat.ne_of_lt (settled.lt_next has))]

/-- Between lookups a key has a cell if something is kept under it. -/
theorem Settled.isSome_slot? (settled : cells.Settled) (key : Key) :
    (cells.slot? key).isSome = (cells.get? key).isSome := by
  cases has : cells.slot? key with
  | none =>
    rw [get?, has]
    rfl
  | some cell =>
    rw [get?, has, Option.bind_some, settled.filled key cell has]
    rfl

/-! ### The map that cells keep -/

/-- **A map without the keys of a kind**; all other keys have what they had. -/
def without (map : Finmap fun _ : Key => Value) (kind : Key → Bool) : Finmap fun _ : Key => Value :=
  Finmap.keysLookupEquiv.symm
    ⟨(map.keys.filter fun key => !kind key, fun key => if kind key then none else map.lookup key), by
      intro key
      rw [Finset.mem_filter, Finmap.mem_keys, ← Finmap.lookup_isSome]
      cases gone : kind key <;> simp [gone]⟩

theorem lookup_without (map : Finmap fun _ : Key => Value) (kind : Key → Bool) (key : Key) :
    (without map kind).lookup key = if kind key then none else map.lookup key :=
  Finmap.keysLookupEquiv_symm_apply_lookup _ _

/-- **Cells keep a map**: no lookup is under way, each key has one cell at most, and under each key
is what is in the map. -/
structure Keeps (cells : Cells Key Value) (map : Finmap fun _ : Key => Value) : Prop where
  settled : cells.Settled
  distinct : cells.keys.Nodup
  view : ∀ key, cells.get? key = map.lookup key

theorem keeps_empty : (empty : Cells Key Value).Keeps ∅ where
  settled := settled_empty
  distinct := List.nodup_nil
  view key := by
    rw [Finmap.lookup_empty]
    rfl

namespace Keeps

theorem isSome_slot? (keeps : cells.Keeps map) (key : Key) :
    (cells.slot? key).isSome = (map.lookup key).isSome := by
  rw [keeps.settled.isSome_slot?, keeps.view]

/-- The keys that have cells are those of the map. -/
theorem toFinset_keys (keeps : cells.Keeps map) : cells.keys.toFinset = map.keys := by
  ext key
  rw [List.mem_toFinset, mem_keys, keeps.isSome_slot?, Finmap.mem_keys, Finmap.lookup_isSome]

/-- **The cells that are filled are as many as the keys of the map.** -/
theorem size (keeps : cells.Keeps map) : cells.size = map.keys.card := by
  have filled : ∀ key ∈ cells.keys, (cells.get? key).isSome := by
    intro key member
    rwa [mem_keys, keeps.settled.isSome_slot?] at member
  rw [size_eq_length keeps.distinct filled, ← keeps.toFinset_keys,
    List.toFinset_card_of_nodup keeps.distinct]

theorem erase (keeps : cells.Keeps map) (key : Key) : (cells.erase key).Keeps (map.erase key) where
  settled := keeps.settled.erase key
  distinct := nodup_erase keeps.distinct key
  view other := by
    rw [get?_erase]
    by_cases same : other = key
    · rw [if_pos same, same, Finmap.lookup_erase]
    · rw [if_neg same, Finmap.lookup_erase_ne same, keeps.view]

theorem evictAll (keeps : cells.Keeps map) (kind : Key → Bool) :
    (cells.evictAll kind).2.Keeps (without map kind) where
  settled := keeps.settled.evictAll kind
  distinct := nodup_evictAll keeps.distinct kind
  view key := by rw [get?_evictAll, lookup_without, keeps.view]

/-- **As many cells are taken away as the map has keys of the kind.** -/
theorem fst_evictAll (keeps : cells.Keeps map) (kind : Key → Bool) :
    (cells.evictAll kind).1 = (map.keys.filter fun key => kind key).card := by
  have counted : (cells.evictAll kind).1 = (cells.keys.filter kind).length := by
    unfold Cells.evictAll keys
    rw [List.filter_map, List.length_map]
    rfl
  rw [counted, ← keeps.toFinset_keys, ← List.toFinset_filter,
    List.toFinset_card_of_nodup (keeps.distinct.filter _)]

theorem insert (keeps : cells.Keeps map) (key : Key) (value : Value) :
    (cells.insert key value).Keeps (map.insert key value) where
  settled := keeps.settled.insert key value
  distinct := nodup_insert keeps.distinct key value
  view other := by
    rw [keeps.settled.get?_insert]
    by_cases same : other = key
    · rw [if_pos same, same, Finmap.lookup_insert]
    · rw [if_neg same, Finmap.lookup_insert_of_ne _ same, keeps.view]

/-! ### A lookup that gets its value -/

variable (keeps : cells.Keeps map) (lacks : map.lookup key = none)
include keeps lacks

theorem slot?_eq_none : cells.slot? key = none :=
  keeps.settled.slot?_eq_none ((keeps.view key).trans lacks)

theorem fill (value : Value) :
    ((cells.hold key).2.fill (cells.hold key).1 value).Keeps (map.insert key value) := by
  obtain ⟨settled, view⟩ := kept_fill keeps.settled (keeps.slot?_eq_none lacks) value
  refine ⟨settled, ?_, fun other => ?_⟩
  · rw [keys_fill]
    exact nodup_hold keeps.distinct key
  · refine (view other).trans ?_
    by_cases same : other = key
    · rw [if_pos same, same, Finmap.lookup_insert]
    · rw [if_neg same, Finmap.lookup_insert_of_ne _ same, keeps.view]

theorem discard : ((cells.hold key).2.discard key (cells.hold key).1).Keeps map := by
  obtain ⟨settled, view⟩ := kept_discard keeps.settled (keeps.slot?_eq_none lacks)
  exact ⟨settled, nodup_discard (nodup_hold keeps.distinct key) _ _,
    fun other => (view other).trans (keeps.view other)⟩

end Keeps

end Cells

/-! ### Lookups in a map -/

/-- **A lookup in a map.** What is there is given without a question. What is not there is got, and
is in the map from then on unless that fails. -/
inductive Looks (get : Key → Task Ask Answer (Except Error Value))
    (map : Finmap fun _ : Key => Value) (key : Key) :
    List (Exchange Answer) → Except Error Value → (Finmap fun _ : Key => Value) → Prop
  | kept {value : Value} (has : map.lookup key = some value) : Looks get map key [] (.ok value) map
  | got {value : Value} {log : List (Exchange Answer)} (lacks : map.lookup key = none)
    (leads : (get key).Leads log (.done (.ok value))) :
    Looks get map key log (.ok value) (map.insert key value)
  | failed {error : Error} {log : List (Exchange Answer)} (lacks : map.lookup key = none)
    (leads : (get key).Leads log (.done (.error error))) : Looks get map key log (.error error) map

namespace Cells.Keeps

variable {get : Key → Task Ask Answer (Except Error Value)} {log : List (Exchange Answer)}
  {outcome : Except Error Value}

/-- In cells that keep a map, what is not in the map is got. -/
theorem lookup_eq (keeps : cells.Keeps map) (lacks : map.lookup key = none) :
    lookup get key cells = (get key).bind fun outcome =>
      .done (settle (cells.hold key).2 key (cells.hold key).1 outcome) := by
  refine lookup_of_new (keeps.settled.found?_eq_get?.trans ?_)
  rw [keeps.view, lacks]

/-- **A lookup in the cells is one in the map**, and leaves the cells with what is in the map then.
-/
theorem looks_of_leads (keeps : cells.Keeps map) {after : Cells Key Value}
    (leads : (lookup get key cells).Leads log (.done (outcome, after))) :
    ∃ next, Looks get map key log outcome next ∧ after.Keeps next := by
  cases has : map.lookup key with
  | some value =>
    rw [lookup_of_get? ((keeps.view key).trans has)] at leads
    obtain ⟨rfl, same⟩ := leads.of_done_finished
    cases same
    exact ⟨map, .kept has, keeps⟩
  | none =>
    rw [keeps.lookup_eq has] at leads
    obtain ⟨got, same, gets⟩ := leads.of_map_finished
    cases got with
    | ok value =>
      obtain ⟨rfl, rfl⟩ := Prod.mk.inj same
      exact ⟨_, .got has gets, keeps.fill has value⟩
    | error error =>
      obtain ⟨rfl, rfl⟩ := Prod.mk.inj same
      exact ⟨_, .failed has gets, keeps.discard has⟩

/-- **Every lookup in the map is one in the cells.** -/
theorem leads_of_looks (keeps : cells.Keeps map) {next : Finmap fun _ : Key => Value}
    (looks : Looks get map key log outcome next) :
    ∃ after, (lookup get key cells).Leads log (.done (outcome, after)) ∧ after.Keeps next := by
  cases looks with
  | kept has =>
    rw [lookup_of_get? ((keeps.view key).trans has)]
    exact ⟨cells, .refl _, keeps⟩
  | got lacks gets =>
    rw [keeps.lookup_eq lacks]
    exact ⟨_, gets.map, keeps.fill lacks _⟩
  | failed lacks gets =>
    rw [keeps.lookup_eq lacks]
    exact ⟨_, gets.map, keeps.discard lacks⟩

end Cells.Keeps

end TenantReports.Memo

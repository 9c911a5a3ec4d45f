import Mathlib.Data.List.Induction
import Mathlib.Data.List.Sort
import TenantReports.Keyed

/-!
# The last value of a name

**What entries say of each name is all that entries in the order of their keys keep of them.**

* `LastNamed`: an entry that no later one of its name follows.
* `find?_reverse_eq_some_iff`: the first entry of a name from the end is the last one.
* `lastNamed_iff_getElem?`: it is the last one by its position, too.
* `Keyed.get?_ofList_eq_some_iff`: sorted entries give the last value of each name.
* `Keyed.ext_of_get?`: sorted entries are told from what they give.
* `Keyed.ofList_eq_iff`: so lists come to the same when the last values of all names are the same.
* `Keyed.get?_erase`: without a name, all others are as before.
-/

namespace TenantReports

variable {α : Type} {entries others : List (String × α)} {name : String} {value : α}

/-- **The last entry of a name**: no later entry has that name. -/
def LastNamed (entries : List (String × α)) (name : String) (value : α) : Prop :=
  ∃ before after, entries = before ++ (name, value) :: after ∧
    ∀ later ∈ after, later.1 ≠ name

/-- The first entry of a name from the end is the last one of that name. -/
theorem find?_reverse_eq_some_iff :
    (entries.reverse.find? fun entry => entry.1 == name).map (·.2) = some value ↔
      LastNamed entries name value := by
  rw [Option.map_eq_some_iff]
  constructor
  · rintro ⟨⟨key, value⟩, found, rfl⟩
    obtain ⟨named, after, before, split, others⟩ := List.find?_eq_some_iff_append.mp found
    obtain rfl : key = name := eq_of_beq named
    refine ⟨before.reverse, after.reverse, ?_, fun later member => ?_⟩
    · rw [← List.reverse_inj, split, List.reverse_append, List.reverse_cons, List.reverse_reverse,
        List.reverse_reverse, List.append_assoc, List.singleton_append]
    · exact bne_iff_ne.mp (others later (List.mem_reverse.mp member))
  · rintro ⟨before, after, rfl, others⟩
    refine ⟨(name, value), List.find?_eq_some_iff_append.mpr
      ⟨beq_self_eq_true name, after.reverse, before.reverse, ?_, fun later member => ?_⟩, rfl⟩
    · rw [List.reverse_append, List.reverse_cons, List.append_assoc, List.singleton_append]
    · exact bne_iff_ne.mpr (others later (List.mem_reverse.mp member))

/-- The last entry of a name by its position. -/
theorem lastNamed_iff_getElem? :
    LastNamed entries name value ↔ ∃ j : Nat, entries[j]? = some (name, value) ∧
      ∀ k : Nat, j < k → ∀ other, entries[k]? ≠ some (name, other) := by
  constructor
  · rintro ⟨before, after, rfl, others⟩
    refine ⟨before.length, ?_, fun k later other found => ?_⟩
    · rw [List.getElem?_append_right (Nat.le_refl _), Nat.sub_self, List.getElem?_cons_zero]
    · rw [List.getElem?_append_right (Nat.le_of_lt later)] at found
      obtain ⟨m, more⟩ := Nat.exists_eq_add_of_lt (Nat.sub_pos_of_lt later)
      rw [more, List.getElem?_cons_succ] at found
      exact others _ (List.mem_of_getElem? found) rfl
  · rintro ⟨j, found, others⟩
    obtain ⟨inside, here⟩ := List.getElem?_eq_some_iff.mp found
    refine ⟨entries.take j, entries.drop (j + 1), ?_, fun later member named => ?_⟩
    · rw [← here, ← List.drop_eq_getElem_cons inside, List.take_append_drop]
    · obtain ⟨m, place⟩ := List.mem_iff_getElem?.mp member
      rw [List.getElem?_drop] at place
      exact others (j + 1 + m) (by omega) later.2 (named ▸ place)

/-- A name has a last value exactly when an entry has that name. -/
theorem exists_lastNamed_iff :
    (∃ value, LastNamed entries name value) ↔ name ∈ entries.map (·.1) := by
  simp only [← find?_reverse_eq_some_iff, ← Option.isSome_iff_exists, Option.isSome_map,
    List.find?_isSome, List.mem_reverse, beq_iff_eq, List.mem_map]

namespace Keyed

/-- One more entry is inserted after all others. -/
theorem ofList_snoc (entries : List (String × α)) (entry : String × α) :
    ofList (entries ++ [entry]) = (ofList entries).insert entry.1 entry.2 := by
  unfold ofList
  rw [List.foldl_append]
  rfl

/-- **Sorted entries give the last value of each name.** -/
theorem get?_ofList (entries : List (String × α)) (name : String) :
    (ofList entries).get? name =
      (entries.reverse.find? fun entry => entry.1 == name).map (·.2) := by
  induction entries using List.reverseRecOn with
  | nil => rfl
  | append_singleton entries entry ih =>
    rw [ofList_snoc, get?_insert, ih, List.reverse_append, List.reverse_singleton,
      List.singleton_append, List.find?_cons]
    by_cases named : entry.1 = name
    · rw [if_pos named.symm, beq_iff_eq.mpr named]
      rfl
    · rw [if_neg (Ne.symm named), beq_eq_false_iff_ne.mpr named]

theorem get?_ofList_eq_some_iff :
    (ofList entries).get? name = some value ↔ LastNamed entries name value := by
  rw [get?_ofList, find?_reverse_eq_some_iff]

/-- An entry is found under its key, since no other has that key. -/
theorem get?_eq_some_iff {m : Keyed α} : m.get? name = some value ↔ (name, value) ∈ m.entries := by
  constructor
  · intro found
    obtain ⟨⟨key, _⟩, first, rfl⟩ := Option.map_eq_some_iff.mp found
    have named := List.find?_some first
    obtain rfl : key = name := eq_of_beq named
    exact List.mem_of_find?_eq_some first
  · intro member
    obtain ⟨before, after, split⟩ := List.append_of_mem member
    have smaller : ∀ earlier ∈ before, earlier.1 < name := fun earlier among =>
      (List.pairwise_append.mp (split ▸ m.increasing)).2.2 earlier among _ List.mem_cons_self
    have found : (m.entries.find? fun entry => entry.1 == name) = some (name, value) :=
      List.find?_eq_some_iff_append.mpr ⟨beq_self_eq_true name, before, after, split,
        fun earlier among => bne_iff_ne.mpr (Std.ne_of_lt (smaller earlier among))⟩
    unfold get?
    rw [found]
    rfl

theorem isSome_get?_iff {m : Keyed α} :
    (m.get? name).isSome = true ↔ name ∈ m.entries.map (·.1) := by
  simp only [Option.isSome_iff_exists, get?_eq_some_iff, List.mem_map, Prod.exists,
    exists_eq_right, exists_comm]

theorem eq_of_entries {m m' : Keyed α} (same : m.entries = m'.entries) : m = m' := by
  cases m
  cases m'
  cases same
  rfl

/-- **Sorted entries are told from what they give** under each key. -/
theorem ext_of_get? {m m' : Keyed α} (same : ∀ name, m.get? name = m'.get? name) : m = m' := by
  have irrefl : Std.Irrefl fun a b : String × α => a.1 < b.1 := ⟨fun _ => String.lt_irrefl _⟩
  have antisymm : Std.Antisymm fun a b : String × α => a.1 < b.1 :=
    ⟨fun _ _ less greater => absurd greater (String.lt_asymm less)⟩
  exact eq_of_entries <| m.increasing.eq_of_mem_iff m'.increasing fun entry => by
    rw [← get?_eq_some_iff, ← get?_eq_some_iff, same]

/-- **Lists come to the same sorted entries exactly when the last values of all names are the
same**, whatever their order and whatever entries come before those. -/
theorem ofList_eq_iff : ofList entries = ofList others ↔
    ∀ name value, LastNamed entries name value ↔ LastNamed others name value := by
  constructor
  · intro same name value
    rw [← get?_ofList_eq_some_iff, same, get?_ofList_eq_some_iff]
  · intro same
    refine ext_of_get? fun name => Option.ext fun value => ?_
    rw [get?_ofList_eq_some_iff, get?_ofList_eq_some_iff]
    exact same name value

/-- The entries but for that of a name. -/
def erase (m : Keyed α) (name : String) : Keyed α :=
  ⟨m.entries.filter fun entry => entry.1 != name, m.increasing.filter _⟩

/-- **Without a name, all others are as before.** -/
theorem get?_erase (m : Keyed α) (name other : String) :
    (m.erase name).get? other = if other = name then none else m.get? other := by
  refine Option.ext fun value => ?_
  rw [get?_eq_some_iff, erase, List.mem_filter, ← get?_eq_some_iff, bne_iff_ne]
  split
  next same => simp [same]
  next differ => simp [differ]

end Keyed

end TenantReports

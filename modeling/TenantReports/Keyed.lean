/-!
# Entries in the order of their keys

`insertEntry` keeps a list of entries sorted by key, with one entry for each key, the one inserted
last. The order of keys is that of their characters' numbers, which is also the order of their
UTF-8 octets. `Keyed` is such a list together with that fact.

* `insertEntry_increasing`: the keys stay strictly increasing.
* `ofList_entries`: entries that are sorted stay as they are.
* `get?_insert`: what was inserted is found, and all else is as before.
-/

namespace TenantReports

variable {α : Type}

/-- The entries with `value` under `key`, in place of what was there. -/
def insertEntry (key : String) (value : α) : List (String × α) → List (String × α)
  | [] => [(key, value)]
  | (k, v) :: rest =>
    if key < k then (key, value) :: (k, v) :: rest
    else if key = k then (key, value) :: rest
    else (k, v) :: insertEntry key value rest

/-- Keys that strictly increase. -/
def Increasing (entries : List (String × α)) : Prop :=
  entries.Pairwise fun a b => a.1 < b.1

theorem mem_insertEntry {key : String} {value : α} {entries : List (String × α)}
    {entry : String × α} (h : entry ∈ insertEntry key value entries) :
    entry = (key, value) ∨ entry ∈ entries := by
  induction entries with
  | nil => simpa [insertEntry] using h
  | cons first rest ih =>
    simp only [insertEntry] at h
    split at h
    · simpa using h
    · split at h
      · simp only [List.mem_cons] at h ⊢
        rcases h with h | h
        · exact .inl h
        · exact .inr (.inr h)
      · simp only [List.mem_cons] at h ⊢
        rcases h with h | h
        · exact .inr (.inl h)
        · rcases ih h with h | h
          · exact .inl h
          · exact .inr (.inr h)

theorem insertEntry_increasing (key : String) (value : α) (entries : List (String × α))
    (h : Increasing entries) : Increasing (insertEntry key value entries) := by
  induction entries with
  | nil => simp [insertEntry, Increasing]
  | cons first rest ih =>
    have hrest : Increasing rest := (List.pairwise_cons.1 h).2
    have hfirst := (List.pairwise_cons.1 h).1
    simp only [insertEntry]
    split
    · rename_i hlt
      refine List.pairwise_cons.2 ⟨fun entry hentry => ?_, h⟩
      rcases List.mem_cons.1 hentry with rfl | hentry
      · exact hlt
      · exact String.lt_trans hlt (hfirst entry hentry)
    · split
      · rename_i heq
        refine List.pairwise_cons.2 ⟨fun entry hentry => ?_, hrest⟩
        exact heq ▸ hfirst entry hentry
      · rename_i hnlt hne
        refine List.pairwise_cons.2 ⟨fun entry hentry => ?_, ih hrest⟩
        rcases mem_insertEntry hentry with rfl | hentry
        · exact Std.lt_of_le_of_ne (String.not_lt.1 hnlt) (Ne.symm hne)
        · exact hfirst entry hentry

/-- Entries sorted by key, one for each key. -/
structure Keyed (α : Type) where
  entries : List (String × α)
  increasing : Increasing entries

namespace Keyed

/-- No entries. -/
def empty : Keyed α :=
  ⟨[], List.Pairwise.nil⟩

instance : Inhabited (Keyed α) := ⟨empty⟩

/-- Puts a value under a key, in place of what was there. -/
def insert (key : String) (value : α) (m : Keyed α) : Keyed α :=
  ⟨insertEntry key value m.entries, insertEntry_increasing key value m.entries m.increasing⟩

/-- The entries of a list; the last value of a repeated key counts. -/
def ofList (entries : List (String × α)) : Keyed α :=
  entries.foldl (fun m entry => m.insert entry.1 entry.2) empty

/-- The value under a key. -/
def get? (m : Keyed α) (key : String) : Option α :=
  (m.entries.find? fun entry => entry.1 == key).map (·.2)

end Keyed

/-- An entry whose key is greater than all others comes last. -/
theorem insertEntry_of_greatest {key : String} {entries : List (String × α)}
    (greatest : ∀ entry ∈ entries, entry.1 < key) (value : α) :
    insertEntry key value entries = entries ++ [(key, value)] := by
  induction entries with
  | nil => rfl
  | cons first rest ih =>
    obtain ⟨less, others⟩ := List.forall_mem_cons.mp greatest
    rw [insertEntry, if_neg (String.lt_asymm less), if_neg (Std.ne_of_lt less).symm, ih others,
      List.cons_append]

theorem Keyed.entries_foldl_insert (entries : List (String × α)) (m : Keyed α)
    (increasing : Increasing (m.entries ++ entries)) :
    (entries.foldl (fun m entry => m.insert entry.1 entry.2) m).entries =
      m.entries ++ entries := by
  induction entries generalizing m with
  | nil => exact (List.append_nil _).symm
  | cons entry entries ih =>
    have greatest : ∀ other ∈ m.entries, other.1 < entry.1 := fun other member =>
      (List.pairwise_append.mp increasing).2.2 other member entry List.mem_cons_self
    have inserted : (m.insert entry.1 entry.2).entries = m.entries ++ [entry] :=
      insertEntry_of_greatest greatest entry.2
    rw [List.append_cons, ← inserted] at increasing ⊢
    exact ih _ increasing

/-- **Entries that are sorted stay as they are.** -/
theorem Keyed.ofList_entries (m : Keyed α) : ofList m.entries = m := by
  have same : (ofList m.entries).entries = m.entries :=
    Keyed.entries_foldl_insert m.entries empty m.increasing
  cases h : ofList m.entries with
  | mk entries increasing =>
    rw [h] at same
    cases m
    cases same
    rfl

theorem find?_insertEntry (key : String) (value : α) (entries : List (String × α)) (k : String) :
    (insertEntry key value entries).find? (fun entry => entry.1 == k) =
      if k = key then some (key, value) else entries.find? (fun entry => entry.1 == k) := by
  induction entries with
  | nil =>
    by_cases h : k = key
    · simp [insertEntry, h]
    · simp [insertEntry, h, Ne.symm h]
  | cons first rest ih =>
    obtain ⟨fk, fv⟩ := first
    simp only [insertEntry]
    split
    · by_cases h : k = key
      · simp [h]
      · simp [h, Ne.symm h]
    · split
      · rename_i heq
        subst heq
        by_cases h : k = key
        · simp [h]
        · simp [h, Ne.symm h]
      · rename_i hne
        simp only [List.find?_cons, ih]
        by_cases h : k = key
        · subst h
          have : (fk == k) = false := by simpa using fun hk => hne hk.symm
          simp [this]
        · simp [h]

theorem Keyed.get?_insert (m : Keyed α) (key k : String) (value : α) :
    (m.insert key value).get? k = if k = key then some value else m.get? k := by
  unfold Keyed.get? Keyed.insert
  rw [find?_insertEntry]
  split <;> rfl

end TenantReports

import Mathlib.Data.List.Forall2

/-!
# Computations that may fail

**What is put together of computations that may fail succeeds exactly if all of its parts do.**

* `bind_eq_ok_iff`: a sequence succeeds when both parts do.
* `mapM_eq_pure_iff`: items succeed when each of them does, for every way to fail of which the same
  holds.
* `mapM_eq_some_iff`, `mapM_eq_ok_iff`: the two ways to fail that there are here.
-/

namespace TenantReports

/-- A sequence succeeds when its first part does and the rest of it does then. -/
theorem bind_eq_ok_iff {ε α β : Type} {first : Except ε α} {rest : α → Except ε β} {b : β} :
    first >>= rest = .ok b ↔ ∃ a, first = .ok a ∧ rest a = .ok b := by
  cases first with
  | error error => exact iff_of_false nofun nofun
  | ok a => exact ⟨fun done => ⟨a, rfl, done⟩, fun ⟨_, rfl, done⟩ => done⟩

section Items

variable {α β : Type} {items : List α} {results : List β}

/-- **Items succeed if each of them does**, and then with what each of them gives. -/
theorem mapM_eq_pure_iff {m : Type → Type} [Monad m] [LawfulMonad m] {read : α → m β}
    (injective : ∀ {γ : Type} {c d : γ}, (pure c : m γ) = pure d ↔ c = d)
    (sequence : ∀ {γ δ : Type} {first : m γ} {rest : γ → m δ} {d : δ},
      first >>= rest = pure d ↔ ∃ c, first = pure c ∧ rest c = pure d) :
    items.mapM read = pure results ↔
      List.Forall₂ (fun item result => read item = pure result) items results := by
  induction items generalizing results with
  | nil => rw [List.mapM_nil, List.forall₂_nil_left_iff, injective, eq_comm]
  | cons item items ih =>
    rw [List.mapM_cons, List.forall₂_cons_left_iff]
    simp only [sequence, injective, ih]
    constructor
    · rintro ⟨first, here, others, there, rfl⟩
      exact ⟨first, others, here, there, rfl⟩
    · rintro ⟨first, others, here, there, rfl⟩
      exact ⟨first, here, others, there, rfl⟩

theorem mapM_eq_some_iff {read : α → Option β} :
    items.mapM read = some results ↔
      List.Forall₂ (fun item result => read item = some result) items results :=
  mapM_eq_pure_iff Option.some_inj Option.bind_eq_some_iff

theorem mapM_eq_ok_iff {ε : Type} {read : α → Except ε β} :
    items.mapM read = .ok results ↔
      List.Forall₂ (fun item result => read item = .ok result) items results :=
  mapM_eq_pure_iff ⟨Except.ok.inj, congrArg _⟩ bind_eq_ok_iff

/-- Items succeed at all if each of them does. -/
theorem exists_mapM_eq_ok_iff {ε : Type} {read : α → Except ε β} :
    (∃ results, items.mapM read = .ok results) ↔
      ∀ item ∈ items, ∃ result, read item = .ok result := by
  simp only [mapM_eq_ok_iff]
  induction items with
  | nil => simp
  | cons item items ih =>
    rw [List.forall_mem_cons, ← ih]
    simp only [List.forall₂_cons_left_iff]
    constructor
    · rintro ⟨_, first, others, here, there, rfl⟩
      exact ⟨⟨first, here⟩, others, there⟩
    · rintro ⟨⟨first, here⟩, others, there⟩
      exact ⟨_, first, others, here, there, rfl⟩

/-- Items of which it is known what each of them gives. -/
theorem mapM_eq_some_map {read : α → Option β} {f : α → β}
    (reads : ∀ item ∈ items, read item = some (f item)) : items.mapM read = some (items.map f) := by
  rw [mapM_eq_some_iff, List.forall₂_map_right_iff, List.forall₂_same]
  exact reads

end Items

end TenantReports

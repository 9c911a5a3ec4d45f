import Mathlib.Data.List.Basic
import TenantReports.Query

/-!
# Placeholders and the values they stand for

**Which placeholder a filter gets, and which value is bound to it.**

* `conditions_eq_ok_iff`: what the conditions of a query come to, and when they do.
* `compile_eq_ok_iff`: so too for the whole statement.
* `FullyBound`: every clause has the placeholder of its own value, and every value is used once.
* `fullyBound_iff`: this is so exactly when no filter without a key comes before one with a key,
  since a placeholder has the number of its filter and a filter without a key uses up its number.
* `compile_fullyBound_iff`: so too for compiled queries.
-/

namespace TenantReports

variable {columns : List ColumnDescriptor} {filters : List QueryFilter} {query : TableQuery}

/-! ### What the conditions come to -/

/-- The filters that have a key, each with its number; the first filter has the given one. -/
def numberedFrom (number : Nat) (filters : List QueryFilter) : List (QueryFilter × Nat) :=
  (filters.zipIdx number).filter fun entry => !entry.1.key.isEmpty

/-- The filters of a table that have a key, each with the number of its placeholder. -/
def QueryTable.numbered (table : QueryTable) : List (QueryFilter × Nat) :=
  numberedFrom 1 table.filters

theorem numberedFrom_cons (number : Nat) (filter : QueryFilter) (filters : List QueryFilter) :
    numberedFrom number (filter :: filters) =
      if filter.key.isEmpty then numberedFrom (number + 1) filters
      else (filter, number) :: numberedFrom (number + 1) filters := by
  unfold numberedFrom
  rw [List.zipIdx_cons, List.filter_cons]
  cases filter.key.isEmpty <;> rfl

/-- **A filter's number is its place among all filters**, those without a key included. -/
theorem mem_numberedFrom {start number : Nat} {filter : QueryFilter} :
    (filter, number) ∈ numberedFrom start filters ↔
      start ≤ number ∧ filters[number - start]? = some filter ∧ filter.key ≠ "" := by
  unfold numberedFrom
  rw [List.mem_filter, List.mk_mem_zipIdx_iff_le_and_getElem?_sub, Bool.not_eq_true',
    Bool.eq_false_iff, Ne, String.isEmpty_iff, and_assoc]

/-- A filter without a key has no fault that counts. -/
def QueryFilter.passes (columns : List ColumnDescriptor) (filter : QueryFilter) : Prop :=
  filter.key ≠ "" → filter.fault? columns = none

/-- **What the conditions come to**: clauses and values of the filters with a key, if each of them
passes. -/
theorem conditions_eq_ok_iff {number : Nat} {result : List String × List String} :
    conditions columns number filters = .ok result ↔
      (∀ filter ∈ filters, filter.passes columns) ∧
        result = ((numberedFrom number filters).map fun entry => entry.1.clause entry.2,
          (numberedFrom number filters).map fun entry => entry.1.value) := by
  induction filters generalizing number result with
  | nil =>
    refine ⟨fun same => ⟨fun filter member => absurd member List.not_mem_nil, ?_⟩, fun same => ?_⟩
    · exact (Except.ok.inj same).symm
    · exact congrArg _ same.2.symm
  | cons filter filters ih =>
    rw [numberedFrom_cons, conditions, List.forall_mem_cons]
    by_cases keyless : filter.key.isEmpty
    · have passes : filter.passes columns := fun keyed =>
        absurd (String.isEmpty_iff.mp keyless) keyed
      rw [if_pos keyless, if_pos keyless, ih]
      exact and_congr_left fun _ => (and_iff_right passes).symm
    · have keyed : filter.key ≠ "" := fun empty => keyless (String.isEmpty_iff.mpr empty)
      rw [if_neg keyless, if_neg keyless]
      cases fault : filter.fault? columns with
      | some failure =>
        refine ⟨fun failed => (nomatch failed), fun both => ?_⟩
        have none := both.1.1 keyed
        rw [fault] at none
        cases none
      | none =>
        have passes : filter.passes columns := fun _ => fault
        rw [and_iff_right passes]
        cases rest : conditions columns (number + 1) filters with
        | error failure =>
          refine ⟨fun failed => (nomatch failed), fun both => ?_⟩
          have done : conditions columns (number + 1) filters = .ok _ := ih.mpr ⟨both.1, rfl⟩
          rw [rest] at done
          cases done
        | ok inner =>
          obtain ⟨all, rfl⟩ := ih.mp rest
          exact ⟨fun same => ⟨all, (Except.ok.inj same).symm⟩, fun both => congrArg _ both.2.symm⟩

theorem tables_of_single {table : QueryTable} (single : query.single? = .ok table) :
    query.tables = [table] := by
  unfold TableQuery.single? at single
  split at single
  · next only =>
    cases single
    exact only
  · cases single

theorem compile_of_single {table : QueryTable} (only : query.tables = [table]) :
    compile query columns = match conditions columns 1 table.filters with
      | .ok (clauses, params) => .ok ⟨table.statement clauses, params⟩
      | .error failure => .error (failure.within "could not construct condition") := by
  unfold compile TableQuery.single?
  rw [only]
  rfl

/-- **What a query compiles to**, and that it does. -/
theorem compile_eq_ok_iff {compiled : CompiledQuery} :
    compile query columns = .ok compiled ↔
      ∃ table, query.tables = [table] ∧ (∀ filter ∈ table.filters, filter.passes columns) ∧
        compiled.sql = table.statement (table.numbered.map fun entry => entry.1.clause entry.2) ∧
        compiled.params = table.numbered.map fun entry => entry.1.value := by
  constructor
  · intro done
    cases single : query.single? with
    | error failure =>
      unfold compile at done
      rw [single] at done
      cases done
    | ok table =>
      have only := tables_of_single single
      rw [compile_of_single only] at done
      cases result : conditions columns 1 table.filters with
      | error failure =>
        rw [result] at done
        cases done
      | ok inner =>
        obtain ⟨passes, rfl⟩ := conditions_eq_ok_iff.mp result
        rw [result] at done
        cases done
        exact ⟨table, only, passes, rfl, rfl⟩
  · rintro ⟨table, only, passes, sql, params⟩
    rw [compile_of_single only, conditions_eq_ok_iff.mpr ⟨passes, rfl⟩]
    cases compiled
    cases sql
    cases params
    rfl

/-! ### When every placeholder is bound -/

/-- **Clauses and values belong together**: each clause has the placeholder of its own value, and
each value is used by exactly one clause. -/
structure FullyBound (numbered : List (QueryFilter × Nat)) (params : List String) : Prop where
  bound : ∀ filter number, (filter, number) ∈ numbered →
    1 ≤ number ∧ number ≤ params.length ∧ params[number - 1]? = some filter.value
  once : ∀ number, 1 ≤ number → number ≤ params.length →
    (numbered.map fun entry => entry.2).count number = 1

/-- No filter without a key comes before one with a key. -/
def Gapless (filters : List QueryFilter) : Prop :=
  filters.Pairwise fun earlier later => earlier.key = "" → later.key = ""

/-- Without gaps the filters with a key are numbered one after another. -/
theorem numberedFrom_of_gapless (gapless : Gapless filters) (number : Nat) :
    numberedFrom number filters =
      (filters.filter fun filter => !filter.key.isEmpty).zipIdx number := by
  induction filters generalizing number with
  | nil => rfl
  | cons filter filters ih =>
    obtain ⟨first, rest⟩ := List.pairwise_cons.mp gapless
    rw [numberedFrom_cons, List.filter_cons]
    by_cases keyless : filter.key.isEmpty
    · -- No filter that follows has a key.
      have none : (filters.filter fun filter => !filter.key.isEmpty) = [] := by
        refine List.filter_eq_nil_iff.mpr fun later member => ?_
        rw [first later member (String.isEmpty_iff.mp keyless)]
        decide
      rw [if_pos keyless, if_neg (by rw [keyless]; decide), ih rest, none]
      rfl
    · rw [if_neg keyless, if_pos (by rw [Bool.eq_false_iff.mpr keyless]; rfl), ih rest,
        List.zipIdx_cons]

/-- Values that are numbered one after another are all used, and once. -/
theorem fullyBound_zipIdx (filters : List QueryFilter) :
    FullyBound (filters.zipIdx 1) ((filters.zipIdx 1).map fun entry => entry.1.value) where
  bound filter number member := by
    obtain ⟨positive, found⟩ := List.mk_mem_zipIdx_iff_le_and_getElem?_sub.mp member
    have inside := (List.getElem?_eq_some_iff.mp found).1
    refine ⟨positive, ?_, ?_⟩
    · rw [List.length_map, List.length_zipIdx]
      omega
    · rw [List.getElem?_map, List.getElem?_zipIdx, found]
      rfl
  once number positive inside := by
    rw [List.length_map, List.length_zipIdx] at inside
    rw [List.zipIdx_map_snd, List.count_range']
    exact if_pos ⟨number - 1, by omega, by omega⟩

/-- **The filters are fully bound exactly when there are no gaps among their numbers.** -/
theorem fullyBound_iff :
    FullyBound (numberedFrom 1 filters) ((numberedFrom 1 filters).map fun entry => entry.1.value) ↔
      Gapless filters := by
  constructor
  · intro fully
    refine List.pairwise_iff_getElem.mpr fun i j inI inJ before keyless => ?_
    by_contra keyed
    -- The later filter has a number, so there are as many values, and the earlier number is used.
    have later : (filters[j], j + 1) ∈ numberedFrom 1 filters := mem_numberedFrom.mpr
      ⟨Nat.le_add_left 1 j, List.getElem?_eq_getElem inJ, keyed⟩
    obtain ⟨-, enough, -⟩ := fully.bound _ _ later
    have used := fully.once (i + 1) (Nat.le_add_left 1 i) (by omega)
    obtain ⟨⟨filter, number⟩, member, rfl⟩ :=
      List.mem_map.mp (List.count_pos_iff.mp (used ▸ Nat.one_pos))
    obtain ⟨-, found, keyedToo⟩ := mem_numberedFrom.mp member
    rw [Nat.add_sub_cancel, List.getElem?_eq_getElem inI] at found
    cases found
    exact keyedToo keyless
  · intro gapless
    rw [numberedFrom_of_gapless gapless]
    exact fullyBound_zipIdx _

/-! ### Compiled queries -/

/-- Two columns. -/
def someColumns : List ColumnDescriptor :=
  [⟨"barcode", "text", "folio_users", "users", "1"⟩,
    ⟨"active", "boolean", "folio_users", "users", "2"⟩]

/-- A query whose filter without a key comes last. -/
def gaplessTable : QueryTable :=
  ⟨"folio_users", "users",
    [⟨"barcode", "", "a"⟩, ⟨"active", "<>", "true"⟩, ⟨"", "", "ignored"⟩], [],
    [], 0⟩

/-- A query whose filter without a key comes between two others. -/
def gapTable : QueryTable :=
  ⟨"folio_users", "users",
    [⟨"barcode", "", "a"⟩, ⟨"", "", "ignored"⟩, ⟨"active", "<>", "true"⟩], [],
    [], 0⟩

/-- **What a compiled query binds**: the clause of each filter with a key has as placeholder the
place of the filter among all filters of the table, and the parameters are the values of these
filters in order. So each placeholder has its own value, and each value is used once, exactly when
no filter without a key comes before one with a key. -/
theorem compile_fullyBound_iff {compiled : CompiledQuery}
    (done : compile query columns = .ok compiled) :
    ∃ table, query.tables = [table] ∧
      compiled.sql = table.statement (table.numbered.map fun entry => entry.1.clause entry.2) ∧
      compiled.params = table.numbered.map (fun entry => entry.1.value) ∧
      (∀ filter number, (filter, number) ∈ table.numbered ↔
        1 ≤ number ∧ table.filters[number - 1]? = some filter ∧ filter.key ≠ "") ∧
      (FullyBound table.numbered compiled.params ↔ Gapless table.filters) := by
  obtain ⟨table, only, -, sql, params⟩ := compile_eq_ok_iff.mp done
  refine ⟨table, only, sql, params, fun filter number => mem_numberedFrom, ?_⟩
  rw [params]
  exact fullyBound_iff

theorem compile_fullyBound_iff_gapless :
    ∃ compiled, compile ⟨[gaplessTable]⟩ someColumns = .ok compiled ∧
      ∃ table, [gaplessTable] = [table] ∧
        compiled.sql = table.statement (table.numbered.map fun entry => entry.1.clause entry.2) ∧
        compiled.params = table.numbered.map (fun entry => entry.1.value) ∧
        (∀ filter number, (filter, number) ∈ table.numbered ↔
          1 ≤ number ∧ table.filters[number - 1]? = some filter ∧ filter.key ≠ "") ∧
        (FullyBound table.numbered compiled.params ↔ Gapless table.filters) := by
  have done : compile ⟨[gaplessTable]⟩ someColumns = .ok
      ⟨"SELECT * FROM \"folio_users\".\"users\" WHERE barcode = $1 AND active <> $2",
        ["a", "true"]⟩ := by decide +kernel
  exact ⟨_, done, compile_fullyBound_iff done⟩

/-- **A query need not be fully bound**: a filter without a key between two others leaves the last
placeholder without a value, and the last value without a placeholder. -/
theorem not_fullyBound_gap :
    compile ⟨[gapTable]⟩ someColumns = .ok
      ⟨"SELECT * FROM \"folio_users\".\"users\" WHERE barcode = $1 AND active <> $3",
        ["a", "true"]⟩ ∧ ¬FullyBound gapTable.numbered ["a", "true"] := by
  refine ⟨by decide +kernel, fun fully => ?_⟩
  have third : (⟨"active", "<>", "true"⟩, 3) ∈ gapTable.numbered := by decide +kernel
  exact absurd (fully.bound _ _ third).2.1 (by decide)

end TenantReports

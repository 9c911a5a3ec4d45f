import Mathlib.Data.List.Basic
import TenantReports.Proofs.Query.Binding

/-!
# Which queries are accepted

**A query is accepted exactly when it names one table and each of its filters fits the columns**; if
not, the first reason in the order of the filters is given.

* `Uuid.isCanonical_iff`: the values that are identifiers, by the form of their text.
* `QueryFilter.Fits`, `QueryFilter.Offends`: filters that fit columns, and why others do not.
* `offence?_eq_some_iff`: what is found wrong with a filter.
* `conditions_eq_error_iff`: conditions fail by the first filter that does not fit.
* `TableQuery.Refused`: why a query is refused, and `compile_eq_error_iff`: that it is.
* `accepts_iff`: all of these, and what has no part in them.
-/

namespace TenantReports

variable {columns : List ColumnDescriptor} {filters : List QueryFilter} {filter : QueryFilter}
  {query : TableQuery} {failure : Failure}

/-! ### Identifiers -/

namespace Uuid

/-- A hexadecimal digit in either case. -/
def IsHexadecimal (c : Char) : Prop :=
  ('0' ≤ c ∧ c ≤ '9') ∨ ('a' ≤ c ∧ c ≤ 'f') ∨ ('A' ≤ c ∧ c ≤ 'F')

theorem isDigit_iff (c : Char) : Text.Hex.isDigit c = true ↔ IsHexadecimal c := by
  unfold Text.Hex.isDigit Text.Hex.value? IsHexadecimal
  split_ifs with decimal small great
  · exact iff_of_true rfl (.inl decimal)
  · exact iff_of_true rfl (.inr (.inl small))
  · exact iff_of_true rfl (.inr (.inr great))
  · exact iff_of_false nofun (not_or.mpr ⟨decimal, not_or.mpr ⟨small, great⟩⟩)

/-- Groups of hexadecimal digits of the given sizes, with a hyphen between them. -/
def Grouped (sizes : List Nat) (s : List Char) : Prop :=
  ∃ groups : List (List Char), groups.map List.length = sizes ∧
    (∀ group ∈ groups, ∀ c ∈ group, IsHexadecimal c) ∧ s = ['-'].intercalate groups

/-- **The canonical form**: groups of 8, 4, 4, 4 and 12 digits. -/
def Canonical (s : String) : Prop :=
  Grouped [8, 4, 4, 4, 12] s.toList

theorem grouped_nil_iff {s : List Char} : Grouped [] s ↔ s = [] := by
  constructor
  · rintro ⟨groups, none, -, rfl⟩
    rw [List.map_eq_nil_iff.mp none]
    rfl
  · rintro rfl
    exact ⟨[], rfl, fun group member => absurd member List.not_mem_nil, rfl⟩

theorem grouped_singleton_iff {n : Nat} {s : List Char} :
    Grouped [n] s ↔ s.length = n ∧ ∀ c ∈ s, IsHexadecimal c := by
  constructor
  · rintro ⟨groups, single, digits, rfl⟩
    obtain ⟨group, rfl, rfl⟩ := List.map_eq_singleton_iff.mp single
    rw [List.intercalate_singleton]
    exact ⟨rfl, digits group (List.mem_singleton.mpr rfl)⟩
  · rintro ⟨rfl, digits⟩
    refine ⟨[s], rfl, fun group member => ?_, List.intercalate_singleton.symm⟩
    rwa [List.mem_singleton.mp member]

/-- The first group of several is followed by a hyphen and the others. -/
theorem grouped_cons_iff {n : Nat} {sizes : List Nat} {s : List Char} (more : sizes ≠ []) :
    Grouped (n :: sizes) s ↔ ((s.take n).length = n ∧ ∀ c ∈ s.take n, IsHexadecimal c) ∧
      ∃ rest, s.drop n = '-' :: rest ∧ Grouped sizes rest := by
  constructor
  · rintro ⟨groups, all, digits, rfl⟩
    obtain ⟨first, others, rfl, rfl, rest⟩ := List.map_eq_cons_iff.mp all
    obtain ⟨here, there⟩ := List.forall_mem_cons.mp digits
    cases others with
    | nil => exact absurd rest.symm more
    | cons second others =>
      have text : ['-'].intercalate (first :: second :: others) =
          first ++ '-' :: ['-'].intercalate (second :: others) := by
        rw [List.intercalate_cons_cons, List.append_assoc]
        rfl
      rw [text, List.take_left, List.drop_left]
      exact ⟨⟨rfl, here⟩, _, rfl, _, rest, there, rfl⟩
  · rintro ⟨⟨size, here⟩, rest, follows, groups, all, there, rfl⟩
    refine ⟨s.take n :: groups, congrArg₂ _ size all, List.forall_mem_cons.mpr ⟨here, there⟩, ?_⟩
    cases groups with
    | nil => exact absurd all.symm more
    | cons second others =>
      rw [List.intercalate_cons_cons, List.append_assoc, List.singleton_append, ← follows,
        List.take_append_drop]

/-- **Groups are read exactly when they are there.** -/
theorem groups?_isSome_iff (sizes : List Nat) (s : List Char) :
    (groups? sizes s).isSome = true ↔ Grouped sizes s := by
  have digits : ∀ t : List Char, t.all Text.Hex.isDigit = true ↔ ∀ c ∈ t, IsHexadecimal c :=
    fun t => List.all_eq_true.trans (forall₂_congr fun c _ => isDigit_iff c)
  fun_induction groups? sizes s with
  | case1 s empty => exact iff_of_true rfl (grouped_nil_iff.mpr (List.isEmpty_iff.mp empty))
  | case2 s more =>
    exact iff_of_false nofun fun grouped =>
      more (List.isEmpty_iff.mpr (grouped_nil_iff.mp grouped))
  | case3 n s group =>
    rw [digits] at group
    exact iff_of_true rfl (grouped_singleton_iff.mpr group)
  | case4 n s other =>
    rw [digits] at other
    exact iff_of_false nofun fun grouped => other (grouped_singleton_iff.mp grouped)
  | case5 n sizes s more group rest follows ih =>
    rw [digits] at group
    rw [Option.isSome_map, grouped_cons_iff more]
    refine ih.trans ⟨fun grouped => ⟨group, rest, follows, grouped⟩, ?_⟩
    rintro ⟨-, rest', follows', grouped⟩
    obtain ⟨-, rfl⟩ := List.cons.inj (follows.symm.trans follows')
    exact grouped
  | case6 n sizes s more group other =>
    rw [grouped_cons_iff more]
    exact iff_of_false nofun fun ⟨_, rest, follows, _⟩ => other rest follows
  | case7 n sizes s more other =>
    rw [digits] at other
    rw [grouped_cons_iff more]
    exact iff_of_false nofun fun grouped => other grouped.1

/-- **A value is accepted as an identifier exactly in the canonical form.** -/
theorem isCanonical_iff (s : String) : isCanonical s = true ↔ Canonical s :=
  groups?_isSome_iff _ _

instance (s : String) : Decidable (Canonical s) :=
  decidable_of_iff _ (isCanonical_iff s)

end Uuid

/-! ### Filters -/

/-- The first column of a name. -/
def FirstNamed (columns : List ColumnDescriptor) (name : String) (column : ColumnDescriptor) :
    Prop :=
  ∃ before after, columns = before ++ column :: after ∧ column.name = name ∧
    ∀ other ∈ before, other.name ≠ name

theorem find?_eq_some_iff {name : String} {column : ColumnDescriptor} :
    (columns.find? fun column => column.name == name) = some column ↔
      FirstNamed columns name column := by
  rw [List.find?_eq_some_iff_append]
  constructor
  · rintro ⟨named, before, after, split, others⟩
    exact ⟨before, after, split, eq_of_beq named, fun other member =>
      bne_iff_ne.mp (others other member)⟩
  · rintro ⟨before, after, split, named, others⟩
    exact ⟨beq_iff_eq.mpr named, before, after, split, fun other member =>
      bne_iff_ne.mpr (others other member)⟩

theorem FirstNamed.mem {name : String} {column : ColumnDescriptor}
    (first : FirstNamed columns name column) : column ∈ columns ∧ column.name = name := by
  obtain ⟨before, after, rfl, named, -⟩ := first
  exact ⟨List.mem_append_right _ List.mem_cons_self, named⟩

/-- **A filter that fits columns**: it has no key, or its key names a column, and if the first of
that name holds identifiers, its value is one. -/
def QueryFilter.Fits (columns : List ColumnDescriptor) (filter : QueryFilter) : Prop :=
  filter.key ≠ "" → ∃ column, FirstNamed columns filter.key column ∧
    (column.dataType = "uuid" → Uuid.Canonical filter.value)

/-- **Why a filter does not fit.** -/
inductive QueryFilter.Offends (columns : List ColumnDescriptor) (filter : QueryFilter) :
    Failure → Prop
  /-- Its key names no column. -/
  | unlisted (keyed : filter.key ≠ "") (unlisted : ∀ column ∈ columns, column.name ≠ filter.key) :
    Offends columns filter ⟨.unknownColumn, "filter on invalid column " ++ filter.key⟩
  /-- The first column that it names holds identifiers, and its value is none. -/
  | malformed {column : ColumnDescriptor} (keyed : filter.key ≠ "")
    (first : FirstNamed columns filter.key column) (holds : column.dataType = "uuid")
    (malformed : ¬Uuid.Canonical filter.value) :
    Offends columns filter ⟨.invalidValue, "invalid value for field " ++ filter.key ++ " (" ++
      filter.value ++ "): invalid UUID " ++ filter.value⟩

/-- What is wrong with a filter, if it has a key. -/
def QueryFilter.offence? (columns : List ColumnDescriptor) (filter : QueryFilter) :
    Option Failure :=
  if filter.key.isEmpty then none else filter.fault? columns

theorem offence?_of_keyless (keyless : filter.key = "") : filter.offence? columns = none :=
  if_pos (String.isEmpty_iff.mpr keyless)

theorem offence?_of_keyed (keyed : filter.key ≠ "") :
    filter.offence? columns = filter.fault? columns :=
  if_neg (mt String.isEmpty_iff.mp keyed)

theorem fault?_of_unlisted
    (none : (columns.find? fun column => column.name == filter.key) = none) :
    filter.fault? columns =
      some ⟨.unknownColumn, "filter on invalid column " ++ filter.key⟩ := by
  unfold QueryFilter.fault?
  rw [none]

theorem fault?_of_first {column : ColumnDescriptor}
    (found : (columns.find? fun column => column.name == filter.key) = some column) :
    filter.fault? columns = if column.dataType = "uuid" ∧ ¬Uuid.Canonical filter.value then
        some ⟨.invalidValue, "invalid value for field " ++ filter.key ++ " (" ++ filter.value ++
          "): invalid UUID " ++ filter.value⟩
      else none := by
  have malformed : (!Uuid.isCanonical filter.value) = true ↔ ¬Uuid.Canonical filter.value := by
    rw [Bool.not_eq_true', Bool.eq_false_iff, Ne, Uuid.isCanonical_iff]
  unfold QueryFilter.fault?
  rw [found]
  exact if_congr (and_congr_right fun _ => malformed) rfl rfl

/-- **What is found wrong with a filter** is why it does not fit. -/
theorem offence?_eq_some_iff :
    filter.offence? columns = some failure ↔ filter.Offends columns failure := by
  by_cases keyed : filter.key = ""
  · rw [offence?_of_keyless keyed]
    refine iff_of_false nofun fun offends => ?_
    cases offends with
    | unlisted keyed' => exact keyed' keyed
    | malformed keyed' => exact keyed' keyed
  rw [offence?_of_keyed keyed]
  cases found : columns.find? fun column => column.name == filter.key with
  | none =>
    rw [fault?_of_unlisted found]
    have unlisted : ∀ column ∈ columns, column.name ≠ filter.key := fun column member same =>
      List.find?_eq_none.mp found column member (beq_iff_eq.mpr same)
    constructor
    · intro same
      cases same
      exact .unlisted keyed unlisted
    · intro offends
      cases offends with
      | unlisted => rfl
      | malformed keyed first => cases found.symm.trans (find?_eq_some_iff.mpr first)
  | some column =>
    rw [fault?_of_first found]
    have first := find?_eq_some_iff.mp found
    constructor
    · intro same
      split at same
      · next bad =>
        cases same
        exact .malformed keyed first bad.1 bad.2
      · cases same
    · intro offends
      cases offends with
      | unlisted keyed unlisted =>
        exact absurd first.mem.2 (unlisted column first.mem.1)
      | malformed keyed first' holds malformed =>
        cases found.symm.trans (find?_eq_some_iff.mpr first')
        exact if_pos ⟨holds, malformed⟩

/-- Nothing is found wrong with a filter exactly when it fits. -/
theorem offence?_eq_none_iff : filter.offence? columns = none ↔ filter.Fits columns := by
  by_cases keyed : filter.key = ""
  · exact iff_of_true (offence?_of_keyless keyed) fun keyed' => absurd keyed keyed'
  rw [offence?_of_keyed keyed]
  cases found : columns.find? fun column => column.name == filter.key with
  | none =>
    rw [fault?_of_unlisted found]
    refine iff_of_false nofun fun fits => ?_
    obtain ⟨column, first, -⟩ := fits keyed
    cases found.symm.trans (find?_eq_some_iff.mpr first)
  | some column =>
    rw [fault?_of_first found, ite_eq_right_iff]
    constructor
    · intro none keyed
      refine ⟨column, find?_eq_some_iff.mp found, fun holds => ?_⟩
      by_contra malformed
      cases none ⟨holds, malformed⟩
    · rintro fits ⟨holds, malformed⟩
      obtain ⟨column', first, canonical⟩ := fits keyed
      cases found.symm.trans (find?_eq_some_iff.mpr first)
      exact absurd (canonical holds) malformed

/-! ### Queries -/

/-- **Conditions fail by the first filter that does not fit.** -/
theorem conditions_eq_error_iff {number : Nat} :
    conditions columns number filters = .error failure ↔
      filters.findSome? (QueryFilter.offence? columns) = some failure := by
  induction filters generalizing number with
  | nil => constructor <;> intro same <;> cases same
  | cons filter filters ih =>
    rw [conditions, List.findSome?_cons]
    unfold QueryFilter.offence?
    by_cases keyless : filter.key.isEmpty
    · rw [if_pos keyless, if_pos keyless]
      exact ih
    · rw [if_neg keyless, if_neg keyless]
      cases filter.fault? columns with
      | some cause => exact ⟨fun same => congrArg some (Except.error.inj same),
          fun same => congrArg Except.error (Option.some.inj same)⟩
      | none =>
        dsimp only
        refine Iff.trans ?_ (@ih (number + 1))
        cases conditions columns (number + 1) filters with
        | ok inner => constructor <;> intro same <;> cases same
        | error cause => exact Iff.rfl

/-- **Why a query is refused.** -/
inductive TableQuery.Refused (query : TableQuery) (columns : List ColumnDescriptor) :
    Failure → Prop
  /-- It does not name exactly one table. -/
  | shape (many : ∀ table, query.tables ≠ [table]) :
    Refused query columns ⟨.invalidQuery, "query must have exactly one table"⟩
  /-- One of its filters does not fit, and all before that one do. -/
  | filter {table : QueryTable} {before after : List QueryFilter} {filter : QueryFilter}
    {cause : Failure} (only : query.tables = [table])
    (split : table.filters = before ++ filter :: after)
    (fit : ∀ earlier ∈ before, earlier.Fits columns) (offends : filter.Offends columns cause) :
    Refused query columns (cause.within "could not construct condition")

theorem compile_of_shapeless (many : ∀ table, query.tables ≠ [table]) :
    compile query columns = .error ⟨.invalidQuery, "query must have exactly one table"⟩ := by
  unfold compile TableQuery.single?
  split
  · next table only => exact absurd only (many table)
  · rfl

/-- A query on one table fails by the first of its filters that does not fit. -/
theorem compile_eq_error_of_single {table : QueryTable} (only : query.tables = [table]) :
    compile query columns = .error failure ↔
      ∃ cause, table.filters.findSome? (QueryFilter.offence? columns) = some cause ∧
        cause.within "could not construct condition" = failure := by
  rw [compile_of_single only]
  constructor
  · intro failed
    cases result : conditions columns 1 table.filters with
    | ok inner =>
      rw [result] at failed
      cases failed
    | error cause =>
      rw [result] at failed
      exact ⟨cause, conditions_eq_error_iff.mp result, Except.error.inj failed⟩
  · rintro ⟨cause, first, rfl⟩
    rw [conditions_eq_error_iff.mpr first]

/-- **A query is refused exactly for the reasons there are.** -/
theorem compile_eq_error_iff :
    compile query columns = .error failure ↔ query.Refused columns failure := by
  by_cases many : ∀ table, query.tables ≠ [table]
  · rw [compile_of_shapeless many]
    constructor
    · intro same
      cases same
      exact .shape many
    · intro refused
      cases refused with
      | shape => rfl
      | filter only => exact absurd only (many _)
  · obtain ⟨table, only⟩ := not_forall_not.mp many
    rw [compile_eq_error_of_single only]
    constructor
    · rintro ⟨cause, first, rfl⟩
      obtain ⟨before, filter, after, split, offends, fit⟩ := List.findSome?_eq_some_iff.mp first
      exact .filter only split (fun earlier member => offence?_eq_none_iff.mp (fit earlier member))
        (offence?_eq_some_iff.mp offends)
    · intro refused
      cases refused with
      | shape many' => exact absurd many' many
      | @filter table' before after filter cause only' split fit offends =>
        obtain rfl := List.singleton_inj.mp (only.symm.trans only')
        exact ⟨cause, List.findSome?_eq_some_iff.mpr ⟨before, filter, after, split,
          offence?_eq_some_iff.mpr offends, fun earlier member =>
            offence?_eq_none_iff.mpr (fit earlier member)⟩, rfl⟩

/-! ### What has no part in it -/

/-- **What decides about a table's query**: the keys and values of the filters that have a key. -/
def QueryTable.constraints (table : QueryTable) : List (String × String) :=
  (table.filters.filter fun filter => !filter.key.isEmpty).map fun filter =>
    (filter.key, filter.value)

/-- The first fault is the first among the filters that have a key, and operators have no part in
it. -/
theorem findSome?_offence? (columns : List ColumnDescriptor) (table : QueryTable) :
    table.filters.findSome? (QueryFilter.offence? columns) =
      table.constraints.findSome? fun constraint =>
        QueryFilter.fault? ⟨constraint.1, "", constraint.2⟩ columns := by
  unfold QueryTable.constraints
  induction table.filters with
  | nil => rfl
  | cons filter filters ih =>
    rw [List.findSome?_cons, List.filter_cons, ih]
    unfold QueryFilter.offence?
    cases filter.key.isEmpty <;> rfl

/-- **Queries with the same constraints on as many tables** are refused alike. -/
theorem compile_eq_error_congr {other : TableQuery}
    (same : query.tables.map QueryTable.constraints = other.tables.map QueryTable.constraints) :
    compile query columns = .error failure ↔ compile other columns = .error failure := by
  by_cases many : ∀ table, query.tables ≠ [table]
  · have many' : ∀ table, other.tables ≠ [table] := by
      intro table only
      rw [only] at same
      obtain ⟨table', only', -⟩ := List.map_eq_singleton_iff.mp same
      exact many table' only'
    rw [compile_of_shapeless many, compile_of_shapeless many']
  · obtain ⟨table, only⟩ := not_forall_not.mp many
    rw [only] at same
    obtain ⟨table', only', constraints⟩ := List.map_eq_singleton_iff.mp same.symm
    rw [compile_eq_error_of_single only, compile_eq_error_of_single only', findSome?_offence?,
      findSome?_offence?, constraints]

/-- A filter passes exactly when it fits. -/
theorem passes_iff_fits : filter.passes columns ↔ filter.Fits columns := by
  rw [← offence?_eq_none_iff]
  by_cases keyed : filter.key = ""
  · exact iff_of_true (fun keyed' => absurd keyed keyed') (offence?_of_keyless keyed)
  · rw [offence?_of_keyed keyed]
    exact ⟨fun passes => passes keyed, fun none _ => none⟩

/-- **A query is accepted exactly when it names one table and its filters fit.** -/
theorem exists_compile_eq_ok_iff :
    (∃ compiled, compile query columns = .ok compiled) ↔
      ∃ table, query.tables = [table] ∧ ∀ filter ∈ table.filters, filter.Fits columns := by
  constructor
  · rintro ⟨compiled, done⟩
    obtain ⟨table, only, passes, -⟩ := compile_eq_ok_iff.mp done
    exact ⟨table, only, fun filter member => passes_iff_fits.mp (passes filter member)⟩
  · rintro ⟨table, only, fit⟩
    exact ⟨⟨_, _⟩, compile_eq_ok_iff.mpr
      ⟨table, only, fun filter member => passes_iff_fits.mpr (fit filter member), rfl, rfl⟩⟩

/-- What is not refused is accepted. -/
theorem exists_compile_eq_ok_iff_not_error :
    (∃ compiled, compile query columns = .ok compiled) ↔
      ∀ failure, compile query columns ≠ .error failure := by
  cases compile query columns with
  | ok compiled => exact iff_of_true ⟨compiled, rfl⟩ nofun
  | error failure => exact iff_of_false nofun fun accepted => accepted failure rfl

/-- **Exactly the valid queries are accepted**: those that name one table and whose filters all fit
the columns. Every other query is refused for its shape or for the first filter that does not fit.
Nothing else in a query has a part in this: if another one has as many tables with the same
constraints, both are accepted, or both are refused for the same reason. -/
theorem accepts_iff (query : TableQuery) (columns : List ColumnDescriptor) :
    ((∃ compiled, compile query columns = .ok compiled) ↔
      ∃ table, query.tables = [table] ∧ ∀ filter ∈ table.filters, filter.Fits columns) ∧
    (∀ failure, compile query columns = .error failure ↔ query.Refused columns failure) ∧
    ∀ other : TableQuery,
      query.tables.map QueryTable.constraints = other.tables.map QueryTable.constraints →
      ((∃ compiled, compile query columns = .ok compiled) ↔
        ∃ compiled, compile other columns = .ok compiled) ∧
      ∀ failure, compile query columns = .error failure ↔
        compile other columns = .error failure := by
  refine ⟨exists_compile_eq_ok_iff, fun failure => compile_eq_error_iff,
    fun other same => ⟨?_, fun failure => compile_eq_error_congr same⟩⟩
  rw [exists_compile_eq_ok_iff_not_error, exists_compile_eq_ok_iff_not_error]
  exact forall_congr' fun failure => not_congr (compile_eq_error_congr same)

/-- Columns two of which have one name. -/
def repeatedColumns : List ColumnDescriptor :=
  [⟨"id", "uuid", "inventory", "items", "1"⟩, ⟨"id", "text", "inventory", "items", "2"⟩]

/-- A query for a value that is no identifier. -/
def plainly : TableQuery :=
  ⟨[⟨"inventory", "items", [⟨"id", "", "7"⟩], [], [], 0⟩]⟩

/-- Another query for that value, which says more about everything else. -/
def elaborately : TableQuery :=
  ⟨[⟨"circulation", "loans", [⟨"", "", "1"⟩, ⟨"id", "<>", "7"⟩], ["due"],
    [⟨"due", "desc", ""⟩], 5⟩]⟩

theorem accepts_iff_elaborately :
    plainly.tables.map QueryTable.constraints = elaborately.tables.map QueryTable.constraints ∧
      compile elaborately repeatedColumns = .error ⟨.invalidValue,
        "could not construct condition: invalid value for field id (7): invalid UUID 7"⟩ ∧
      ¬∃ compiled, compile elaborately repeatedColumns = .ok compiled := by
  have same : plainly.tables.map QueryTable.constraints =
      elaborately.tables.map QueryTable.constraints := by
    decide +kernel
  have first : FirstNamed repeatedColumns "id" ⟨"id", "uuid", "inventory", "items", "1"⟩ :=
    ⟨[], _, rfl, rfl, fun other member => absurd member List.not_mem_nil⟩
  have offends : QueryFilter.Offends repeatedColumns ⟨"id", "", "7"⟩ _ :=
    .malformed (by decide) first rfl (by decide +kernel)
  have refused : plainly.Refused repeatedColumns _ := .filter rfl rfl
    (fun earlier member => absurd member List.not_mem_nil) offends
  obtain ⟨-, refuses, others⟩ := accepts_iff plainly repeatedColumns
  obtain ⟨accepted, alike⟩ := others elaborately same
  have failed := (refuses _).mpr refused
  refine ⟨same, (alike _).mp failed, fun done => ?_⟩
  obtain ⟨compiled, done⟩ := accepted.mpr done
  cases failed.symm.trans done

/-- Of two columns of one name the first decides. -/
example : compile plainly repeatedColumns.reverse =
    .ok ⟨"SELECT * FROM \"inventory\".\"items\" WHERE id = $1", ["7"]⟩ := by
  decide +kernel

end TenantReports

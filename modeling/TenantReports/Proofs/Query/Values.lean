import Mathlib.Data.List.Forall2
import Mathlib.Data.List.Sort
import TenantReports.Postgres.Transaction
import TenantReports.Proofs.Query.Binding
import TenantReports.Report.Prepared

/-!
# Values stay out of statements

**Two descriptions that differ in values alone come to the same text**, up to what the server is
sent in the end. The check of a value can refuse one of them, but a statement that passes it shows
nothing of the value.

* `TableQuery.Alike`: queries that differ at most in the values of their conditions.
* `CompiledQuery.SameText`: statements of one text, before and after their placeholders are cast.
* `params_differ`: parameters of alike tables differ only where the values of a condition do.
* `compile_alike`: alike queries that compile have one text, and parameters that differ only so.
* `prepare_alike`: reports with arguments of the same names are prepared alike, or not at all.
* `values_apart`: both of these laws.
-/

namespace TenantReports

variable {columns : List ColumnDescriptor} {compiled other : CompiledQuery}

/-! ### What the server is sent -/

namespace Postgres

/-- The text of what a server is sent; parameters are sent beside it. -/
def ServerAsk.text : ServerAsk → String
  | .simple sql | .prepare sql | .execute sql _ => sql

/-- **The texts that a server is sent** for a statement, when it answers in the given way. -/
def sentTexts (limit : Nat) (answer : (q : ServerAsk) → q.Answer) (compiled : CompiledQuery) :
    List String :=
  ((fetch limit compiled.sql compiled.params).trace (fun _ => answer) []).2.map ServerAsk.text

theorem sentTexts_of_isEmpty (limit : Nat) (answer : (q : ServerAsk) → q.Answer)
    (unbound : compiled.params.isEmpty) : sentTexts limit answer compiled = [compiled.sql] := by
  unfold sentTexts fetch
  rw [if_pos unbound]
  rfl

/-- A statement with parameters is prepared, and sent again with casts to the types of these. -/
theorem sentTexts_of_not_isEmpty (limit : Nat) (answer : (q : ServerAsk) → q.Answer)
    (bound : ¬compiled.params.isEmpty) :
    sentTexts limit answer compiled =
      match answered limit (answer (.prepare compiled.sql)) with
      | .error _ => [compiled.sql]
      | .ok inferred => [compiled.sql, castPlaceholders compiled.sql inferred] := by
  unfold sentTexts fetch
  rw [if_neg bound, Task.trace]
  cases answered limit (answer (.prepare compiled.sql)) <;> rfl

end Postgres

open Postgres

/-- **Statements of one text**, also when the server has them cast to types that it inferred. -/
structure CompiledQuery.SameText (compiled other : CompiledQuery) : Prop where
  sql : compiled.sql = other.sql
  length : compiled.params.length = other.params.length
  cast : ∀ inferred, castPlaceholders compiled.sql inferred = castPlaceholders other.sql inferred
  /-- Two servers that infer the same types are sent the same. -/
  sent : ∀ limit (answer answer' : (q : ServerAsk) → q.Answer),
    (∀ sql, answer (.prepare sql) = answer' (.prepare sql)) →
      sentTexts limit answer compiled = sentTexts limit answer' other

/-- Only the text and the number of parameters decide what is sent. -/
theorem CompiledQuery.SameText.of_sql (sql : compiled.sql = other.sql)
    (length : compiled.params.length = other.params.length) : compiled.SameText other where
  sql := sql
  length := length
  cast inferred := by rw [sql]
  sent limit answer answer' agree := by
    have empty : compiled.params.isEmpty ↔ other.params.isEmpty := by
      rw [List.isEmpty_iff_length_eq_zero, List.isEmpty_iff_length_eq_zero, length]
    by_cases unbound : compiled.params.isEmpty
    · rw [sentTexts_of_isEmpty limit answer unbound,
        sentTexts_of_isEmpty limit answer' (empty.mp unbound), sql]
    · rw [sentTexts_of_not_isEmpty limit answer unbound,
        sentTexts_of_not_isEmpty limit answer' (unbound ∘ empty.mpr), sql, agree]

/-! ### Alike queries -/

/-- Conditions that differ at most in their values. -/
structure QueryFilter.Alike (filter other : QueryFilter) : Prop where
  key : filter.key = other.key
  op : filter.op = other.op

/-- Queries on a table that differ at most in the values of their conditions. -/
structure QueryTable.Alike (table other : QueryTable) : Prop where
  schema : table.schema = other.schema
  name : table.name = other.name
  filters : List.Forall₂ QueryFilter.Alike table.filters other.filters
  columns : table.columns = other.columns
  order : table.order = other.order
  limit : table.limit = other.limit

/-- **Queries that differ at most in the values of their conditions.** -/
def TableQuery.Alike (query other : TableQuery) : Prop :=
  List.Forall₂ QueryTable.Alike query.tables other.tables

/-- Conditions of one number that differ at most in their values. -/
structure NumberedAlike (entry other : QueryFilter × Nat) : Prop where
  filter : entry.1.Alike other.1
  number : entry.2 = other.2

theorem NumberedAlike.clause {entry other : QueryFilter × Nat} (alike : NumberedAlike entry other) :
    entry.1.clause entry.2 = other.1.clause other.2 := by
  unfold QueryFilter.clause QueryFilter.operator
  rw [alike.filter.key, alike.filter.op, alike.number]

/-- Alike conditions get the same numbers. -/
theorem numberedFrom_alike {filters others : List QueryFilter}
    (alike : List.Forall₂ QueryFilter.Alike filters others) (number : Nat) :
    List.Forall₂ NumberedAlike (numberedFrom number filters) (numberedFrom number others) := by
  induction alike generalizing number with
  | nil => exact .nil
  | cons first rest ih =>
    rw [numberedFrom_cons, numberedFrom_cons, first.key]
    split
    · exact ih (number + 1)
    · exact .cons ⟨first, rfl⟩ (ih (number + 1))

section Tables

variable {table table' : QueryTable}

theorem clauses_alike (alike : table.Alike table') :
    (table.numbered.map fun entry => entry.1.clause entry.2) =
      table'.numbered.map fun entry => entry.1.clause entry.2 := by
  have clauses : List.Forall₂ Eq (table.numbered.map fun entry => entry.1.clause entry.2)
      (table'.numbered.map fun entry => entry.1.clause entry.2) := by
    rw [List.forall₂_map_left_iff, List.forall₂_map_right_iff]
    exact (numberedFrom_alike alike.filters 1).imp fun _ _ same => same.clause
  rwa [List.forall₂_eq_eq_eq] at clauses

theorem statement_alike (alike : table.Alike table') (clauses : List String) :
    table.statement clauses = table'.statement clauses := by
  unfold QueryTable.statement
  rw [alike.schema, alike.name, alike.columns, alike.order, alike.limit]

/-- **Parameters differ only where the values of a condition do**, and it is the same condition in
both tables. -/
theorem params_differ (alike : table.Alike table') {i : Nat}
    (differ : (table.numbered.map fun entry => entry.1.value)[i]? ≠
      (table'.numbered.map fun entry => entry.1.value)[i]?) :
    ∃ number filter filter', table.numbered[i]? = some (filter, number) ∧
      table'.numbered[i]? = some (filter', number) ∧
      table.filters[number - 1]? = some filter ∧ table'.filters[number - 1]? = some filter' ∧
      filter.value ≠ filter'.value := by
  have numbered := numberedFrom_alike alike.filters 1
  rw [List.getElem?_map, List.getElem?_map] at differ
  cases here : table.numbered[i]? with
  | none =>
    -- There are as many parameters on the other side, so both have ended.
    have ended : table'.numbered[i]? = none :=
      List.getElem?_eq_none (numbered.length_eq ▸ List.getElem?_eq_none_iff.mp here)
    exact absurd (by rw [here, ended]) differ
  | some entry =>
    obtain ⟨inside, rfl⟩ := List.getElem?_eq_some_iff.mp here
    have inside' : i < table'.numbered.length := numbered.length_eq ▸ inside
    have there := List.getElem?_eq_getElem inside'
    have same : NumberedAlike table.numbered[i] table'.numbered[i] :=
      numbered.get inside inside'
    rw [here, there] at differ
    have first : table.filters[table.numbered[i].2 - 1]? = some table.numbered[i].1 :=
      (mem_numberedFrom.mp (List.mem_of_getElem? here)).2.1
    have second : table'.filters[table'.numbered[i].2 - 1]? = some table'.numbered[i].1 :=
      (mem_numberedFrom.mp (List.mem_of_getElem? there)).2.1
    rw [← same.number] at second
    refine ⟨table.numbered[i].2, table.numbered[i].1, table'.numbered[i].1, rfl, ?_, first, second,
      fun values => differ (congrArg some values)⟩
    rw [there, same.number]

end Tables

/-- **Alike queries that compile have one text**, and parameters that differ only where the values
of a condition do. -/
theorem compile_alike {query query' : TableQuery} (alike : query.Alike query')
    (done : compile query columns = .ok compiled) (done' : compile query' columns = .ok other) :
    compiled.SameText other ∧
    ∃ table table', query.tables = [table] ∧ query'.tables = [table'] ∧
      ∀ i : Nat, compiled.params[i]? ≠ other.params[i]? →
        ∃ number filter filter', table.numbered[i]? = some (filter, number) ∧
          table'.numbered[i]? = some (filter', number) ∧
          table.filters[number - 1]? = some filter ∧ table'.filters[number - 1]? = some filter' ∧
          filter.value ≠ filter'.value := by
  obtain ⟨table, only, -, sql, params⟩ := compile_eq_ok_iff.mp done
  obtain ⟨table', only', -, sql', params'⟩ := compile_eq_ok_iff.mp done'
  unfold TableQuery.Alike at alike
  rw [only, only', List.forall₂_cons] at alike
  have tables : table.Alike table' := alike.1
  refine ⟨.of_sql ?_ ?_, table, table', only, only', fun i differ => ?_⟩
  · rw [sql, sql', clauses_alike tables, statement_alike tables]
  · rw [params, params', List.length_map, List.length_map]
    exact (numberedFrom_alike tables.filters 1).length_eq
  · rw [params, params'] at differ
    exact params_differ tables differ

/-! ### Reports -/

/-- The keys of entries. -/
def Keyed.names {α : Type} (entries : Keyed α) : List String :=
  entries.entries.map (·.1)

/-- **Entries with the same keys have them in the same order.** -/
theorem Keyed.names_eq_of_mem_iff {α : Type} {entries others : Keyed α}
    (same : ∀ name, name ∈ entries.names ↔ name ∈ others.names) : entries.names = others.names :=
  List.Pairwise.eq_of_mem_iff (List.pairwise_map.mpr entries.increasing)
    (List.pairwise_map.mpr others.increasing) same

/-- Reports whose scripts are the same and whose functions are called by the same text. -/
structure PreparedReport.SameText (report other : PreparedReport) : Prop where
  marker : report.marker = other.marker
  script : report.script = other.script
  invocation : report.invocation.SameText other.invocation

section Reports

variable {params others : Keyed String}

theorem invocation_sameText (same : params.names = others.names) (function : String)
    (limit : UInt64) :
    (invocation function params limit).SameText (invocation function others limit) := by
  refine .of_sql ?_ ?_
  · unfold invocation
    dsimp only
    rw [show params.entries.map (·.1) = others.entries.map (·.1) from same]
  · have lengths := congrArg List.length same
    unfold Keyed.names at lengths
    rw [List.length_map, List.length_map] at lengths
    show (params.entries.map (·.2)).length = (others.entries.map (·.2)).length
    rw [List.length_map, List.length_map, lengths]

/-- **Reports with arguments of the same names are prepared alike**, or fail alike. -/
theorem prepare_alike (same : ∀ name, name ∈ params.names ↔ name ∈ others.names) (script : String)
    (dialect : Dialect) (limit : UInt64) :
    (∃ failure, prepare script dialect params limit = .error failure ∧
      prepare script dialect others limit = .error failure) ∨
    ∃ report report', prepare script dialect params limit = .ok report ∧
      prepare script dialect others limit = .ok report' ∧ report.SameText report' := by
  cases found : Marker.ofScript script with
  | error failure =>
    exact Or.inl ⟨failure, prepare_of_unmarked found dialect params limit,
      prepare_of_unmarked found dialect others limit⟩
  | ok marker =>
    rw [prepare_of_marker found, prepare_of_marker found]
    by_cases fits : marker.dialect = dialect
    · rw [if_pos fits, if_pos fits]
      exact Or.inr ⟨_, _, rfl, rfl, rfl, rfl,
        invocation_sameText (Keyed.names_eq_of_mem_iff same) marker.function limit⟩
    · rw [if_neg fits, if_neg fits]
      exact Or.inl ⟨_, rfl, rfl⟩

end Reports

/-- **Values never reach the text of a statement.** Two queries that differ at most in the values of
their conditions, if both compile, are sent as the same texts with as many parameters, which differ
only where the values of a condition do. Two calls of a report with arguments of the same names are
prepared with the same script and called by the same texts, or neither is prepared. -/
theorem values_apart :
    (∀ {query query' : TableQuery} {columns : List ColumnDescriptor} {compiled other},
      query.Alike query' → compile query columns = .ok compiled →
      compile query' columns = .ok other →
      compiled.SameText other ∧
      ∃ table table', query.tables = [table] ∧ query'.tables = [table'] ∧
        ∀ i : Nat, compiled.params[i]? ≠ other.params[i]? →
          ∃ number filter filter', table.numbered[i]? = some (filter, number) ∧
            table'.numbered[i]? = some (filter', number) ∧
            table.filters[number - 1]? = some filter ∧
            table'.filters[number - 1]? = some filter' ∧ filter.value ≠ filter'.value) ∧
    ∀ {params others : Keyed String}, (∀ name, name ∈ params.names ↔ name ∈ others.names) →
      ∀ script dialect limit,
        (∃ failure, prepare script dialect params limit = .error failure ∧
          prepare script dialect others limit = .error failure) ∨
        ∃ report report', prepare script dialect params limit = .ok report ∧
          prepare script dialect others limit = .ok report' ∧ report.SameText report' :=
  ⟨compile_alike, prepare_alike⟩

/-- The columns of a table whose rows have identifiers. -/
def itemColumns : List ColumnDescriptor :=
  [⟨"id", "uuid", "inventory", "items", "1"⟩, ⟨"barcode", "text", "inventory", "items", "2"⟩]

/-- A query for an item and a barcode, with a condition without a key between them. -/
def itemQuery (id ignored barcode : String) : TableQuery :=
  ⟨[⟨"inventory", "items", [⟨"id", "", id⟩, ⟨"", "", ignored⟩, ⟨"barcode", "<>", barcode⟩], [],
    [⟨"barcode", "asc", "first"⟩], 10⟩]⟩

/-- The same item, and barcodes that look like a placeholder and like the end of a literal. -/
theorem values_apart_items :
    ∃ query query' : TableQuery, query.Alike query' ∧ query ≠ query' ∧
      ∃ compiled other, compile query itemColumns = .ok compiled ∧
        compile query' itemColumns = .ok other ∧ compiled.params ≠ other.params ∧
        ∃ params others : Keyed String, (∀ name, name ∈ params.names ↔ name ∈ others.names) ∧
          params.entries ≠ others.entries ∧ compiled.SameText other ∧
          ∀ script dialect limit,
            (∃ failure, prepare script dialect params limit = .error failure ∧
              prepare script dialect others limit = .error failure) ∨
            ∃ report report', prepare script dialect params limit = .ok report ∧
              prepare script dialect others limit = .ok report' ∧ report.SameText report' := by
  have alike : (itemQuery "6f1c2a9e-0b1d-4c7e-9a55-0123456789ab" "" "$1").Alike
      (itemQuery "6f1c2a9e-0b1d-4c7e-9a55-0123456789ab" "b" "' OR 1 = 1") :=
    .cons ⟨rfl, rfl, .cons ⟨rfl, rfl⟩ (.cons ⟨rfl, rfl⟩ (.cons ⟨rfl, rfl⟩ .nil)), rfl, rfl, rfl⟩ .nil
  have sql : compile (itemQuery "6f1c2a9e-0b1d-4c7e-9a55-0123456789ab" "" "$1") itemColumns =
      .ok ⟨"SELECT * FROM \"inventory\".\"items\" WHERE id = $1 AND barcode <> $3 ORDER BY " ++
        "barcode asc NULLS FIRST LIMIT 10", ["6f1c2a9e-0b1d-4c7e-9a55-0123456789ab", "$1"]⟩ := by
    decide +kernel
  have sql' : compile (itemQuery "6f1c2a9e-0b1d-4c7e-9a55-0123456789ab" "b" "' OR 1 = 1")
      itemColumns =
      .ok ⟨"SELECT * FROM \"inventory\".\"items\" WHERE id = $1 AND barcode <> $3 ORDER BY " ++
        "barcode asc NULLS FIRST LIMIT 10",
        ["6f1c2a9e-0b1d-4c7e-9a55-0123456789ab", "' OR 1 = 1"]⟩ := by
    decide +kernel
  have same : ∀ name, name ∈ (Keyed.empty.insert "day" "1").names ↔
      name ∈ (Keyed.empty.insert "day" "now()").names := fun _ => Iff.rfl
  obtain ⟨queries, reports⟩ := values_apart
  exact ⟨_, _, alike, by decide +kernel, _, _, sql, sql', by decide, _, _, same, by decide,
    (queries alike sql sql').1, reports same⟩

end TenantReports

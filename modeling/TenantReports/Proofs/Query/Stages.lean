import TenantReports.Gateway.Operation
import TenantReports.Proofs.Columns.Fetching
import TenantReports.Proofs.Memo.Lookup
import TenantReports.Proofs.Query.Binding

/-!
# The stages of a table query

**What is exchanged to answer a table query**, what comes of it, and what the cache of columns has
then: the columns of the table are found or asked for, the query is compiled against them, and the
statement runs. The first stage that fails is the last.

* `Obtained`: what is exchanged until the columns are there, one query at most.
* `Queried`: what is exchanged for a query. Nothing is asked for one that does not name exactly one
  table.
* `queried_of_leads`: a query is answered so.
* `TableStages`: the columns are asked for exactly when there are none, and the statement is sent
  exactly when it compiles against them.
* `FailedStage`: a failure has the kind of the first stage that fails.
* `StagedTableQuery`: so it is with every query, and the cache has what it had and the columns that
  were fetched.
-/

namespace TenantReports

open Memo

variable {session : Session} {schema name : String} {cache after : ColumnCache}
  {request : TableQuery} {table : QueryTable} {log : List (Exchange Ask.Answer)}
  {found : Except Failure (List ColumnDescriptor)} {outcome : Except Failure (List OrderedRow)}

/-! ### Columns -/

/-- **What is exchanged until the columns of a table are there**, what comes of it, and the cache
then. -/
inductive Obtained (session : Session) (schema name : String) (cache : ColumnCache) :
    List (Exchange Ask.Answer) → Except Failure (List ColumnDescriptor) → ColumnCache → Prop
  | kept {columns : List ColumnDescriptor}
    (found : cache.found? ⟨session.key, schema, name⟩ = some columns) :
    Obtained session schema name cache [] (.ok columns) (cache.hold ⟨session.key, schema, name⟩).2
  | fetched (new : cache.found? ⟨session.key, schema, name⟩ = none)
    (answer : Except DbError RawRows) :
    Obtained session schema name cache [columnsExchange session schema name answer]
      (fetchedColumns schema name answer)
      (settle (cache.hold ⟨session.key, schema, name⟩).2 ⟨session.key, schema, name⟩
        (cache.hold ⟨session.key, schema, name⟩).1 (fetchedColumns schema name answer)).2

theorem obtained_of_leads
    (leads : (cache.get session schema name).Leads log (.done (found, after))) :
    Obtained session schema name cache log found after := by
  unfold ColumnCache.get at leads
  cases kept : cache.found? ⟨session.key, schema, name⟩ with
  | some columns =>
    rw [lookup_of_found kept] at leads
    obtain ⟨rfl, same⟩ := leads.of_done_finished
    cases same
    exact .kept kept
  | none =>
    rw [lookup_of_new kept] at leads
    obtain ⟨outcome, same, fetches⟩ := leads.of_map_finished
    obtain ⟨answer, rfl, rfl⟩ := leads_fetchColumns_iff.mp fetches
    obtain rfl : found = fetchedColumns schema name answer :=
      (congrArg Prod.fst same).trans (settle_fst _ _ _)
    obtain rfl := congrArg Prod.snd same
    exact .fetched kept answer

/-- **Between lookups**, the cache has the columns that were fetched, and else what it had. -/
theorem Obtained.get? (obtained : Obtained session schema name cache log found after)
    (settled : cache.Settled) :
    after.Settled ∧ ∀ key, after.get? key =
      if key = ⟨session.key, schema, name⟩ then found.toOption else cache.get? key := by
  cases obtained with
  | @kept columns found =>
    have has : cache.get? ⟨session.key, schema, name⟩ = some columns :=
      settled.found?_eq_get?.symm.trans found
    obtain ⟨cell, slot, -⟩ := Cells.get?_eq_some_iff.mp has
    rw [Cells.hold_of_slot slot]
    refine ⟨settled, fun key => ?_⟩
    split
    · next same => exact same ▸ has
    · rfl
  | fetched new answer =>
    exact kept_settle settled (settled.slot?_eq_none (settled.found?_eq_get?.symm.trans new)) _

/-! ### Queries -/

/-- **The statement of a query**, run by the database of a session, and its answer. -/
def statementExchange (session : Session) (compiled : CompiledQuery)
    (answer : Except DbError RawRows) : Exchange Ask.Answer :=
  ⟨.database session.database (.query compiled.sql compiled.params), answer⟩

/-- What comes of the answer to a statement. -/
def fetchedRows (answer : Except DbError RawRows) : Except Failure (List OrderedRow) :=
  (orFail .execution "could not execute SQL" answer).map RawRows.ordered

/-- **What is exchanged for a table query**, what comes of it, and the cache then. -/
inductive Queried (session : Session) (request : TableQuery) (cache : ColumnCache) :
    List (Exchange Ask.Answer) → Except Failure (List OrderedRow) → ColumnCache → Prop
  /-- The query does not name exactly one table. -/
  | shapeless {failure : Failure} (refused : request.single? = .error failure) :
    Queried session request cache [] (.error failure) cache
  /-- The columns of its table cannot be asked for. -/
  | uncolumned {table : QueryTable} {log : List (Exchange Ask.Answer)} {failure : Failure}
    {after : ColumnCache} (single : request.single? = .ok table)
    (obtained : Obtained session table.schema table.name cache log (.error failure) after) :
    Queried session request cache log (.error (failure.within
      ("could not obtain columns for " ++ table.schema ++ "." ++ table.name))) after
  /-- It does not fit the columns. -/
  | uncompiled {table : QueryTable} {log : List (Exchange Ask.Answer)} {failure : Failure}
    {columns : List ColumnDescriptor} {after : ColumnCache} (single : request.single? = .ok table)
    (obtained : Obtained session table.schema table.name cache log (.ok columns) after)
    (refused : compile request columns = .error failure) :
    Queried session request cache log (.error failure) after
  | sent {table : QueryTable} {log : List (Exchange Ask.Answer)} {columns : List ColumnDescriptor}
    {compiled : CompiledQuery} {after : ColumnCache} (single : request.single? = .ok table)
    (obtained : Obtained session table.schema table.name cache log (.ok columns) after)
    (compiles : compile request columns = .ok compiled) (answer : Except DbError RawRows) :
    Queried session request cache (log ++ [statementExchange session compiled answer])
      (fetchedRows answer) after

theorem runOnColumns_of_refused {columns : List ColumnDescriptor} {failure : Failure}
    (refused : compile request columns = .error failure) :
    runOnColumns session request (.ok columns) = .done (.error failure) := by
  simp only [runOnColumns, refused]

theorem runOnColumns_of_compiled {columns : List ColumnDescriptor} {compiled : CompiledQuery}
    (compiles : compile request columns = .ok compiled) :
    runOnColumns session request (.ok columns) = runCompiled session compiled := by
  simp only [runOnColumns, compiles]

/-- **A table query is answered so.** -/
theorem queried_of_leads
    (leads : (runQuery session request cache).Leads log (.done (outcome, after))) :
    Queried session request cache log outcome after := by
  unfold runQuery at leads
  cases single : request.single? with
  | error failure =>
    rw [single] at leads
    obtain ⟨rfl, same⟩ := leads.of_done_finished
    cases same
    exact .shapeless single
  | ok table =>
    rw [single] at leads
    obtain ⟨⟨found, kept⟩, looking, rest, rfl, gets, goesOn⟩ := leads.of_bind_finished
    obtain ⟨result, same, runs⟩ := goesOn.of_map_finished
    obtain ⟨rfl, rfl⟩ := Prod.mk.inj same
    have obtained := obtained_of_leads gets
    cases found with
    | error failure =>
      obtain ⟨rfl, rfl⟩ := runs.of_done_finished
      rw [List.append_nil]
      exact .uncolumned single obtained
    | ok columns =>
      change (runOnColumns session request (.ok columns)).Leads _ _ at runs
      cases compiles : compile request columns with
      | error failure =>
        rw [runOnColumns_of_refused compiles] at runs
        obtain ⟨rfl, rfl⟩ := runs.of_done_finished
        rw [List.append_nil]
        exact .uncompiled single obtained compiles
      | ok compiled =>
        rw [runOnColumns_of_compiled compiles] at runs
        obtain ⟨answer, rest, rfl, ends⟩ := runs.of_ask_finished
        obtain ⟨rfl, rfl⟩ := ends.of_done_finished
        exact .sent single obtained compiles answer

/-! ### What the stages do -/

/-- A query names exactly one table, or it is refused for its shape. -/
theorem single?_eq_ok_iff : request.single? = .ok table ↔ request.tables = [table] := by
  refine ⟨tables_of_single, fun only => ?_⟩
  unfold TableQuery.single?
  rw [only]

/-- **The stages of a query on one table**, where first its columns are looked for and then the
statement is run. -/
structure TableStages (session : Session) (request : TableQuery) (table : QueryTable)
    (cache : ColumnCache) (looking running : List (Exchange Ask.Answer))
    (found : Except Failure (List ColumnDescriptor)) (after : ColumnCache) : Prop where
  obtained : Obtained session table.schema table.name cache looking found after
  /-- There is one query for columns at most. -/
  asked : ∀ exchange ∈ looking, ∃ answer,
    looking = [exchange] ∧ exchange = columnsExchange session table.schema table.name answer
  /-- It is put exactly when the cache has no columns. -/
  missing : looking ≠ [] ↔ cache.found? ⟨session.key, table.schema, table.name⟩ = none
  /-- There is one statement at most, and it is the compiled one. -/
  carried : ∀ exchange ∈ running, ∃ columns compiled answer, found = .ok columns ∧
    compile request columns = .ok compiled ∧ running = [exchange] ∧
    exchange = statementExchange session compiled answer
  /-- It is sent exactly when there are columns and the query compiles against them. -/
  sent : running ≠ [] ↔
    ∃ columns compiled, found = .ok columns ∧ compile request columns = .ok compiled

/-- **What a failure tells**: the first stage that failed, by its kind. All stages before it went
well. -/
inductive FailedStage (session : Session) (request : TableQuery) (cache : ColumnCache)
    (log : List (Exchange Ask.Answer)) (after : ColumnCache) (failure : Failure) : Prop
  | shape (many : ∀ table, request.tables ≠ [table]) (kind : failure.kind = .invalidQuery)
  | columns {table : QueryTable} {cause : Failure} (only : request.tables = [table])
    (obtained : Obtained session table.schema table.name cache log (.error cause) after)
    (within : failure = cause.within
      ("could not obtain columns for " ++ table.schema ++ "." ++ table.name))
    (kind : failure.kind = .introspection)
  | compilation {table : QueryTable} {columns : List ColumnDescriptor}
    (only : request.tables = [table])
    (obtained : Obtained session table.schema table.name cache log (.ok columns) after)
    (refused : compile request columns = .error failure)
    (kind : failure.kind = .unknownColumn ∨ failure.kind = .invalidValue)
  | execution {table : QueryTable} {columns : List ColumnDescriptor} {compiled : CompiledQuery}
    {looking : List (Exchange Ask.Answer)} {error : DbError} (only : request.tables = [table])
    (obtained : Obtained session table.schema table.name cache looking (.ok columns) after)
    (compiles : compile request columns = .ok compiled)
    (answered : log = looking ++ [statementExchange session compiled (.error error)])
    (reason : failure = error.toFailure .execution "could not execute SQL")
    (kind : failure.kind = .execution)

/-- **The stages of a table query**, as they show in what is exchanged. -/
structure StagedTableQuery (session : Session) (request : TableQuery) (cache : ColumnCache)
    (log : List (Exchange Ask.Answer)) (outcome : Except Failure (List OrderedRow))
    (after : ColumnCache) : Prop where
  queried : Queried session request cache log outcome after
  /-- A query that does not name exactly one table asks for nothing. -/
  shapeless : (∀ table, request.tables ≠ [table]) → log = [] ∧ after = cache
  tabled : ∀ table, request.tables = [table] → ∃ looking running found, log = looking ++ running ∧
    TableStages session request table cache looking running found after
  /-- Between lookups, the cache has what it had, and the columns that were fetched. -/
  kept : cache.Settled → after.Settled ∧ ∀ key, after.get? key = cache.get? key ∨
    cache.get? key = none ∧ ∃ table rows, request.tables = [table] ∧
      key = ⟨session.key, table.schema, table.name⟩ ∧
      columnsExchange session table.schema table.name (.ok rows) ∈ log ∧
      after.get? key = some (Catalog.readColumns rows.rows)
  failed : ∀ failure, outcome = .error failure → FailedStage session request cache log after failure

theorem Obtained.asked (obtained : Obtained session schema name cache log found after) :
    ∀ exchange ∈ log, ∃ answer,
      log = [exchange] ∧ exchange = columnsExchange session schema name answer := by
  intro exchange member
  cases obtained with
  | kept => cases member
  | fetched new answer =>
    have same := List.mem_singleton.mp member
    exact ⟨answer, by rw [same], same⟩

theorem Obtained.missing (obtained : Obtained session schema name cache log found after) :
    log ≠ [] ↔ cache.found? ⟨session.key, schema, name⟩ = none := by
  cases obtained with
  | kept found => simp [found]
  | fetched new answer => simp [new]

theorem Obtained.kind {failure : Failure}
    (obtained : Obtained session schema name cache log (.error failure) after) :
    failure.kind = .introspection := by
  generalize same : Except.error failure = found at obtained
  cases obtained with
  | kept => cases same
  | fetched new answer => exact kind_of_fetchedColumns same.symm

/-- The columns that were fetched are those of a query that succeeded. -/
theorem Obtained.rows {columns : List ColumnDescriptor}
    (obtained : Obtained session schema name cache log (.ok columns) after)
    (new : cache.found? ⟨session.key, schema, name⟩ = none) :
    ∃ rows, columnsExchange session schema name (.ok rows) ∈ log ∧
      columns = Catalog.readColumns rows.rows := by
  generalize same : Except.ok columns = found at obtained
  cases obtained with
  | kept found =>
    rw [new] at found
    cases found
  | fetched new answer =>
    cases answer with
    | error error => cases same
    | ok rows =>
      cases same
      exact ⟨rows, List.mem_singleton.mpr rfl, rfl⟩

theorem kind_of_single {failure : Failure} (refused : request.single? = .error failure) :
    (∀ table, request.tables ≠ [table]) ∧ failure.kind = .invalidQuery := by
  constructor
  · intro table only
    rw [single?_eq_ok_iff.mpr only] at refused
    cases refused
  · unfold TableQuery.single? at refused
    split at refused
    · cases refused
    · cases refused
      rfl

theorem kind_of_fault {filter : QueryFilter} {columns : List ColumnDescriptor} {failure : Failure}
    (fault : filter.fault? columns = some failure) :
    failure.kind = .unknownColumn ∨ failure.kind = .invalidValue := by
  unfold QueryFilter.fault? at fault
  split at fault
  · cases fault
    exact Or.inl rfl
  · split at fault
    · cases fault
      exact Or.inr rfl
    · cases fault

theorem kind_of_conditions {columns : List ColumnDescriptor} {number : Nat}
    {filters : List QueryFilter} {failure : Failure}
    (failed : conditions columns number filters = .error failure) :
    failure.kind = .unknownColumn ∨ failure.kind = .invalidValue := by
  induction filters generalizing number with
  | nil => cases failed
  | cons filter filters ih =>
    rw [conditions] at failed
    split at failed
    · exact ih failed
    · cases fault : filter.fault? columns with
      | some reason =>
        rw [fault] at failed
        cases failed
        exact kind_of_fault fault
      | none =>
        rw [fault] at failed
        cases rest : conditions columns (number + 1) filters with
        | ok result =>
          rw [rest] at failed
          cases failed
        | error reason =>
          rw [rest] at failed
          cases failed
          exact ih rest

/-- A query on one table that does not compile names no such column, or gives it a value that it
cannot have. -/
theorem kind_of_compile {columns : List ColumnDescriptor} {failure : Failure}
    (only : request.tables = [table]) (refused : compile request columns = .error failure) :
    failure.kind = .unknownColumn ∨ failure.kind = .invalidValue := by
  rw [compile_of_single only] at refused
  cases result : conditions columns 1 table.filters with
  | ok inner =>
    rw [result] at refused
    cases refused
  | error reason =>
    rw [result] at refused
    cases refused
    have kinds : reason.kind = .unknownColumn ∨ reason.kind = .invalidValue :=
      kind_of_conditions result
    exact kinds

namespace Queried

variable (queried : Queried session request cache log outcome after)
include queried

/-- **A query that does not name exactly one table asks for nothing**, and leaves the cache. -/
theorem eq_nil (many : ∀ table, request.tables ≠ [table]) : log = [] ∧ after = cache := by
  cases queried with
  | shapeless refused => exact ⟨rfl, rfl⟩
  | uncolumned single | uncompiled single | sent single =>
    exact absurd (single?_eq_ok_iff.mp single) (many _)

/-- **A query on one table goes through its stages.** -/
theorem tableStages (only : request.tables = [table]) :
    ∃ looking running found, log = looking ++ running ∧
      TableStages session request table cache looking running found after := by
  have single := single?_eq_ok_iff.mpr only
  cases queried with
  | shapeless refused =>
    rw [single] at refused
    cases refused
  | uncolumned single' obtained =>
    obtain rfl := Except.ok.inj (single.symm.trans single')
    exact ⟨log, [], _, (List.append_nil _).symm, obtained, obtained.asked, obtained.missing,
      fun _ member => absurd member List.not_mem_nil, by simp⟩
  | uncompiled single' obtained refused =>
    obtain rfl := Except.ok.inj (single.symm.trans single')
    exact ⟨log, [], _, (List.append_nil _).symm, obtained, obtained.asked, obtained.missing,
      fun _ member => absurd member List.not_mem_nil, by simp [refused]⟩
  | @sent _ looking columns compiled _ single' obtained compiles answer =>
    obtain rfl := Except.ok.inj (single.symm.trans single')
    refine ⟨looking, [statementExchange session compiled answer], _, rfl, obtained, obtained.asked,
      obtained.missing, fun exchange member => ?_, by simp [compiles]⟩
    have same := List.mem_singleton.mp member
    exact ⟨columns, compiled, answer, rfl, compiles, by rw [same], same⟩

/-- **The cache has what it had, and the columns that were fetched.** -/
theorem kept (settled : cache.Settled) :
    after.Settled ∧ ∀ key, after.get? key = cache.get? key ∨
      cache.get? key = none ∧ ∃ table rows, request.tables = [table] ∧
        key = ⟨session.key, table.schema, table.name⟩ ∧
        columnsExchange session table.schema table.name (.ok rows) ∈ log ∧
        after.get? key = some (Catalog.readColumns rows.rows) := by
  by_cases many : ∀ table, request.tables ≠ [table]
  · obtain ⟨-, rfl⟩ := queried.eq_nil many
    exact ⟨settled, fun key => Or.inl rfl⟩
  · obtain ⟨table, only⟩ := not_forall_not.mp many
    obtain ⟨looking, running, found, rfl, stages⟩ := queried.tableStages only
    obtain ⟨settledAfter, view⟩ := stages.obtained.get? settled
    refine ⟨settledAfter, fun key => ?_⟩
    rw [view]
    by_cases same : key = ⟨session.key, table.schema, table.name⟩
    · rw [if_pos same, same]
      cases had : cache.found? ⟨session.key, table.schema, table.name⟩ with
      | some columns =>
        -- The columns that are there are those that are given.
        have given : found = .ok columns := by
          have obtained := stages.obtained
          cases obtained with
          | kept found =>
            rw [had] at found
            cases found
            rfl
          | fetched new =>
            rw [had] at new
            cases new
        rw [given, ← settled.found?_eq_get?, had]
        exact Or.inl rfl
      | none =>
        have lacks := settled.found?_eq_get?.symm.trans had
        cases found with
        | error failure => exact Or.inl lacks.symm
        | ok columns =>
          obtain ⟨rows, exchanged, rfl⟩ := stages.obtained.rows had
          exact Or.inr ⟨lacks, table, rows, only, rfl, List.mem_append_left _ exchanged, rfl⟩
    · rw [if_neg same]
      exact Or.inl rfl

/-- **A failure has the kind of the first stage that fails.** -/
theorem failedStage {failure : Failure} (failed : outcome = .error failure) :
    FailedStage session request cache log after failure := by
  cases queried with
  | shapeless refused =>
    cases failed
    obtain ⟨many, kind⟩ := kind_of_single refused
    exact .shape many kind
  | uncolumned single obtained =>
    cases failed
    exact .columns (single?_eq_ok_iff.mp single) obtained rfl obtained.kind
  | uncompiled single obtained refused =>
    cases failed
    have only := single?_eq_ok_iff.mp single
    exact .compilation only obtained refused (kind_of_compile only refused)
  | sent single obtained compiles answer =>
    cases answer with
    | error error =>
      cases failed
      exact .execution (single?_eq_ok_iff.mp single) obtained compiles rfl rfl rfl
    | ok rows => cases failed

/-- **A table query goes through its stages.** -/
theorem staged : StagedTableQuery session request cache log outcome after where
  queried := queried
  shapeless := queried.eq_nil
  tabled _ := queried.tableStages
  kept := queried.kept
  failed _ := queried.failedStage

end Queried

end TenantReports

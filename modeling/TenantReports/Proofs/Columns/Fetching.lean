import TenantReports.Columns
import TenantReports.Proofs.Dialogue

/-!
# How columns are asked for

**What is exchanged for the columns of a table**: one query, which names the table, to the database
of the session, and nothing else.

* `columnsExchange`: the query and what was answered.
* `fetchedColumns`: what comes of the answer.
* `leads_fetchColumns_iff`: all dialogues that ask for columns.
-/

namespace TenantReports

variable {session : Session} {schema table : String} {log : List (Exchange Ask.Answer)}
  {result : Except Failure (List ColumnDescriptor)}

/-- **The query for the columns of a table**, put to the database of a session, and its answer. -/
def columnsExchange (session : Session) (schema table : String)
    (answer : Except DbError RawRows) : Exchange Ask.Answer :=
  ⟨.database session.database (.query Catalog.columnsSql [schema, table, Catalog.reservedColumn]),
    answer⟩

/-- What comes of the answer: the columns that its rows describe, or a failure. -/
def fetchedColumns (schema table : String) (answer : Except DbError RawRows) :
    Except Failure (List ColumnDescriptor) :=
  (orFail .introspection ("could not fetch columns for " ++ schema ++ "." ++ table) answer).map
    fun rows => Catalog.readColumns rows.rows

/-- A failure to fetch columns has one kind. -/
theorem kind_of_fetchedColumns {answer : Except DbError RawRows} {failure : Failure}
    (failed : fetchedColumns schema table answer = .error failure) :
    failure.kind = .introspection := by
  cases answer with
  | error error =>
    cases failed
    rfl
  | ok rows => cases failed

/-- **Columns are asked for by one query.** -/
theorem leads_fetchColumns_iff :
    (fetchColumns session schema table).Leads log (.done result) ↔
      ∃ answer, log = [columnsExchange session schema table answer] ∧
        result = fetchedColumns schema table answer := by
  constructor
  · intro leads
    obtain ⟨answer, rest, rfl, goesOn⟩ := leads.of_ask_finished
    obtain ⟨rfl, rfl⟩ := goesOn.of_done_finished
    exact ⟨answer, rfl, rfl⟩
  · rintro ⟨answer, rfl, rfl⟩
    exact .ask (.refl _)

end TenantReports

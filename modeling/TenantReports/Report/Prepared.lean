import TenantReports.Query
import TenantReports.Report.Marker

/-!
# Reports that are ready to run

A report runs as a script, which defines a function, and a statement, which calls it with named
arguments. `prepare` checks that the script is written for the convention of the database.
-/

namespace TenantReports

/-- The argument with the given number. -/
def argument (number : Nat) (name : String) : String :=
  name ++ " => $" ++ Number.decimal number

/-- The arguments from the given number on. -/
def arguments : Nat → List String → List String
  | _, [] => []
  | number, name :: names => argument number name :: arguments (number + 1) names

/-- The statement that calls a function with arguments in the order of their names. -/
def invocation (function : String) (params : Keyed String) (limit : UInt64) : CompiledQuery where
  sql := "SELECT * FROM " ++ function ++ "(" ++
    String.intercalate ", " (arguments 1 (params.entries.map (·.1))) ++ ")" ++ limitClause limit
  params := params.entries.map (·.2)

/-- A script and the statement that calls what it defines. -/
structure PreparedReport where
  marker : Marker
  script : String
  invocation : CompiledQuery
  deriving DecidableEq, Repr, Inhabited

/-- What stands before a script of the older convention, which names its tables without schemas. -/
def searchPath : String := "SET search_path = local, public;\n"

/-- The script as it is registered on a database of the given convention. -/
def registeredScript (dialect : Dialect) (script : String) : String :=
  match dialect with
  | .ldp => searchPath ++ script
  | .metadb => script

/-- A script with its call, if it is written for the convention of the database. -/
def prepare (script : String) (dialect : Dialect) (params : Keyed String) (limit : UInt64) :
    Except Failure PreparedReport := do
  let marker ← Marker.ofScript script
  if marker.dialect = dialect then
    return ⟨marker, registeredScript dialect script, invocation marker.function params limit⟩
  else
    throw ⟨.dialectMismatch, "cannot run " ++ marker.dialect.displayName ++ " report in " ++
      dialect.displayName⟩

theorem prepare_of_marker {script : String} {marker : Marker}
    (found : Marker.ofScript script = .ok marker) (dialect : Dialect) (params : Keyed String)
    (limit : UInt64) :
    prepare script dialect params limit =
      if marker.dialect = dialect then
        .ok ⟨marker, registeredScript dialect script, invocation marker.function params limit⟩
      else .error ⟨.dialectMismatch, "cannot run " ++ marker.dialect.displayName ++
        " report in " ++ dialect.displayName⟩ := by
  unfold prepare
  rw [found]
  rfl

theorem prepare_of_unmarked {script : String} {failure : Failure}
    (unmarked : Marker.ofScript script = .error failure) (dialect : Dialect)
    (params : Keyed String) (limit : UInt64) :
    prepare script dialect params limit = .error failure := by
  unfold prepare
  rw [unmarked]
  rfl

end TenantReports

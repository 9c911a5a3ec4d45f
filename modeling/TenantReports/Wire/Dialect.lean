import TenantReports.Json.Record

/-!
# Schema conventions of reporting databases

A reporting database follows one of two conventions, which is found out once for each session.

* `ofTag?_tag`: the tag of a convention names it.
-/

namespace TenantReports

/-- The schema convention of a reporting database. -/
inductive Dialect
  /-- The consolidated schema. -/
  | metadb
  /-- The older schema, with its bookkeeping in `dbsystem.main`. -/
  | ldp
  deriving DecidableEq, Repr, Inhabited

namespace Dialect

open Json

/-- The word for a convention in the marker of a report script and in JSON. -/
def tag : Dialect → String
  | .metadb => "metadb"
  | .ldp => "ldp"

/-- The convention that a word stands for. -/
def ofTag? (tag : String) : Option Dialect :=
  if tag = "metadb" then some .metadb else if tag = "ldp" then some .ldp else none

/-- The name of a convention in messages. -/
def displayName : Dialect → String
  | .metadb => "MetaDB"
  | .ldp => "LDP Classic"

/-- A convention as a JSON value. -/
def toValue (dialect : Dialect) : Value :=
  .string dialect.tag

/-- Reads a convention: its tag, or an object with the tag as the only member and no value. -/
def ofTree? : Tree → Option Dialect
  | .string content => content.bind ofTag?
  | .object [(key, .null)] => key.bind ofTag?
  | _ => none

theorem ofTag?_tag (dialect : Dialect) : ofTag? dialect.tag = some dialect := by
  cases dialect <;> rfl

end Dialect

end TenantReports

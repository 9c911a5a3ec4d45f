import TenantReports.Json.Value

/-!
# Records in JSON

A record is read from an object, in which it may find other members, but each of its own only once,
or from an array that gives its fields in order and may stop early. `fields?` finds the fields;
`required` and `orDefault` read one.
-/

namespace TenantReports.Json

/-- The values that an object has under a name. -/
def valuesOf (name : String) (members : List (Option String × Tree)) : List Tree :=
  members.filterMap fun (key, value) => if key = some name then some value else none

/-- The fields with the given names, in their order; a field may be missing. -/
def fields? (names : List String) : Tree → Option (List (Option Tree))
  | .object members =>
    if members.all (fun member => member.1.isSome) then
      names.mapM fun name =>
        match valuesOf name members with
        | [] => some none
        | [value] => some (some value)
        | _ => none
    else none
  | .array items =>
    if items.length ≤ names.length then
      some (items.map some ++ List.replicate (names.length - items.length) none)
    else none
  | _ => none

/-- A field that has to be there. -/
def required {α : Type} (read : Tree → Option α) (field : Option Tree) : Option α :=
  field.bind read

/-- A field with a default. -/
def orDefault {α : Type} (default : α) (read : Tree → Option α) : Option Tree → Option α
  | none => some default
  | some tree => read tree

/-- A string. -/
def string? : Tree → Option String
  | .string content => content
  | _ => none

/-- The value of a literal that is a natural number of 64 bits without a sign. -/
def word? : Tree → Option UInt64
  | .number d =>
    if d.negative || !d.fraction.isEmpty || d.exponent.isSome then none
    else
      let n := d.significand
      if n < Number.bound64 then some (UInt64.ofNat n) else none
  | _ => none

/-- A number that is finite in 64 bits. -/
def float? : Tree → Option Number.Floating
  | .number d => d.scaled?
  | _ => none

/-- A list of records. -/
def list? {α : Type} (read : Tree → Option α) : Tree → Option (List α)
  | .array items => items.mapM read
  | _ => none

/-- An object whose members are strings, sorted by name; the last of a repeated name counts. -/
def strings? : Tree → Option (Keyed String)
  | .object members => do
    let entries ← members.mapM fun (key, value) => do
      let key ← key
      let value ← string? value
      return (key, value)
    return Keyed.ofList entries
  | _ => none

/-- A record with the given fields. -/
def record (fields : List (String × Value)) : Value :=
  .object fields

end TenantReports.Json

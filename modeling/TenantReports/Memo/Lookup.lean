import TenantReports.Memo.Cells
import TenantReports.Task

/-!
# Looking a value up

`lookup` answers from the cell of a key; if the cell is empty it gets the value and fills the cell,
and on a failure it takes the empty cell away again. Nothing else happens to the cells meanwhile:
for what may happen then see the machine of concurrent lookups.
-/

namespace TenantReports.Memo

universe u

variable {Key Value Error : Type} [DecidableEq Key] {Ask : Type u} {Answer : Ask → Type u}

/-- What becomes of a cell of a key when the attempt to get its value ends. -/
def settle (cells : Cells Key Value) (key : Key) (cell : CellId) :
    Except Error Value → Except Error Value × Cells Key Value
  | .ok value => (.ok value, cells.fill cell value)
  | .error error => (.error error, cells.discard key cell)

/-- The value of a key, which `get` gets if it is not there. -/
def lookup (get : Key → Task Ask Answer (Except Error Value)) (key : Key)
    (cells : Cells Key Value) : Task Ask Answer (Except Error Value × Cells Key Value) :=
  let (cell, held) := cells.hold key
  match held.value? cell with
  | some value => .done (.ok value, held)
  | none => (get key).bind fun outcome => .done (settle held key cell outcome)

end TenantReports.Memo

import TenantReports.Memo.Lookup

/-!
# Concurrent lookups

Many calls look values up in the same cells at the same time. A call goes through phases, and
between any two steps of a call others may take theirs: it looks for the cell of its key, makes one
if there is none, waits until the cell is filled or nobody is getting its value, gets the value
itself, and on a failure takes the empty cell away again. Getting a value is a `Task`, whose
questions the outside answers one by one. Cells may be taken away from their keys, and given to
them, at any time.

* `Machine.step?`: one step, if it can be taken.
* `Machine.run?`: a sequence of steps.
-/

namespace TenantReports.Memo

variable {Key Value Error : Type} {Ask : Type} {Answer : Ask → Type}

/-- How far a call is. -/
inductive Phase (Ask : Type) (Answer : Ask → Type) (Value Error : Type)
  /-- It is about to look for the cell of its key. -/
  | looking
  /-- It found no cell and is about to make one. -/
  | making
  /-- It holds a cell and waits until that is filled, or its own turn has come. -/
  | waiting (cell : CellId)
  /-- It is getting the value of a cell. -/
  | getting (cell : CellId) (rest : Task Ask Answer (Except Error Value))
  /-- It could not get the value and is about to take the empty cell away. -/
  | failing (cell : CellId) (error : Error)
  | returned (outcome : Except Error Value)

namespace Phase

/-- The cell that a call is getting the value of. -/
def filling? : Phase Ask Answer Value Error → Option CellId
  | .getting cell _ => some cell
  | _ => none

/-- The question that a call waits to be answered. -/
def question? : Phase Ask Answer Value Error → Option Ask
  | .getting _ (.ask question _) => some question
  | _ => none

/-- What a call returned. -/
def outcome? : Phase Ask Answer Value Error → Option (Except Error Value)
  | .returned outcome => some outcome
  | _ => none

end Phase

/-- A call: the key it looks up, how it gets the value, and how far it is. -/
structure Call (Key : Type) (Ask : Type) (Answer : Ask → Type) (Value Error : Type) where
  key : Key
  get : Task Ask Answer (Except Error Value)
  phase : Phase Ask Answer Value Error

/-- The cells, and all calls there were; a call is known by its place in the list. -/
structure Machine (Key : Type) (Ask : Type) (Answer : Ask → Type) (Value Error : Type) where
  cells : Cells Key Value
  calls : List (Call Key Ask Answer Value Error)
  /-- The questions asked, each with the call that asked it, in order. -/
  asked : List (Nat × Ask)

/-- What may happen next. -/
inductive Event (Key : Type) (Ask : Type) (Answer : Ask → Type) (Value Error : Type)
  /-- A call for a key starts. -/
  | start (key : Key) (get : Task Ask Answer (Except Error Value))
  /-- A call takes a step of its own. -/
  | advance (call : Nat)
  /-- The question of a call is answered. -/
  | answer (call : Nat) (reply : (question : Ask) → Answer question)
  /-- The cell is taken away from a key. -/
  | evict (key : Key)
  /-- The cells are taken away from all keys of a kind. -/
  | evictAll (kind : Key → Bool)
  /-- A key is given a filled cell. -/
  | insert (key : Key) (value : Value)

namespace Machine

variable [DecidableEq Key]

/-- Cells, and no calls yet. -/
def ofCells (cells : Cells Key Value) : Machine Key Ask Answer Value Error :=
  ⟨cells, [], []⟩

/-- Whether a call is getting the value of a cell. -/
def isBusy (machine : Machine Key Ask Answer Value Error) (cell : CellId) : Bool :=
  machine.calls.any fun call => call.phase.filling? == some cell

/-- Brings a call to a phase; a question it asks then is noted. -/
def put (machine : Machine Key Ask Answer Value Error) (i : Nat)
    (call : Call Key Ask Answer Value Error) (phase : Phase Ask Answer Value Error) :
    Machine Key Ask Answer Value Error :=
  { machine with
    calls := machine.calls.set i { call with phase }
    asked := machine.asked ++ (phase.question?.map fun question => (i, question)).toList }

/-- The next step of a call that asks nothing, if it can take one. -/
def advance? (machine : Machine Key Ask Answer Value Error) (i : Nat)
    (call : Call Key Ask Answer Value Error) : Option (Machine Key Ask Answer Value Error) :=
  match call.phase with
  | .looking =>
    match machine.cells.slot? call.key with
    | some cell => some (machine.put i call (.waiting cell))
    | none => some (machine.put i call .making)
  | .making =>
    let (cell, cells) := machine.cells.hold call.key
    some ({ machine with cells }.put i call (.waiting cell))
  | .waiting cell =>
    match machine.cells.value? cell with
    | some value => some (machine.put i call (.returned (.ok value)))
    | none =>
      if machine.isBusy cell then none else some (machine.put i call (.getting cell call.get))
  | .getting cell (.done (.ok value)) =>
    some ({ machine with cells := machine.cells.fill cell value }.put i call
      (.returned (.ok value)))
  | .getting cell (.done (.error error)) => some (machine.put i call (.failing cell error))
  | .getting _ (.ask _ _) => none
  | .failing cell error =>
    some ({ machine with cells := machine.cells.discard call.key cell }.put i call
      (.returned (.error error)))
  | .returned _ => none

/-- The step of a call whose question is answered, if it waits for an answer. -/
def answer? (machine : Machine Key Ask Answer Value Error) (i : Nat)
    (call : Call Key Ask Answer Value Error) (reply : (question : Ask) → Answer question) :
    Option (Machine Key Ask Answer Value Error) :=
  match call.phase with
  | .getting cell (.ask question next) =>
    some (machine.put i call (.getting cell (next (reply question))))
  | _ => none

/-- One step, if it can be taken. -/
def step? (machine : Machine Key Ask Answer Value Error) :
    Event Key Ask Answer Value Error → Option (Machine Key Ask Answer Value Error)
  | .start key get => some { machine with calls := machine.calls ++ [⟨key, get, .looking⟩] }
  | .advance i => machine.calls[i]?.bind (machine.advance? i)
  | .answer i reply => machine.calls[i]?.bind fun call => machine.answer? i call reply
  | .evict key => some { machine with cells := (machine.cells.evict key).2 }
  | .evictAll kind => some { machine with cells := (machine.cells.evictAll kind).2 }
  | .insert key value => some { machine with cells := machine.cells.insert key value }

/-- A sequence of steps, if all of them can be taken. -/
def run? (machine : Machine Key Ask Answer Value Error) :
    List (Event Key Ask Answer Value Error) → Option (Machine Key Ask Answer Value Error)
  | [] => some machine
  | event :: events => (machine.step? event).bind fun next => next.run? events

/-- What a call returned. -/
def outcome? (machine : Machine Key Ask Answer Value Error) (i : Nat) :
    Option (Except Error Value) :=
  machine.calls[i]?.bind fun call => call.phase.outcome?

end Machine

end TenantReports.Memo

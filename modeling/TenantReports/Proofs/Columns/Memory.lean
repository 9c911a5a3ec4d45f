import TenantReports.Proofs.Columns.Fetching
import TenantReports.Proofs.Memo.Alone
import TenantReports.Proofs.Memo.Mapping
import TenantReports.Proofs.Turns

/-!
# The cache of columns as a map

**Calls of the cache that take turns are steps of a finite map from tables to columns**, for any
sessions, any number of calls and whatever the databases answer, which may be something else each
time.

* `RecallsColumns`: what a call does to the map, what is exchanged meanwhile, and its reply. Columns
  that are there take no exchange, a failure to fetch them leaves the map as it is, and to evict a
  session takes its tables away and no others.
* `refines_recallsColumns`: each call does what a step of the map says, and nothing else.
* `recallsColumns_of_alone`: a concurrent request for columns that runs alone is a step of the map.
* `Learned`: a database of the caller has told the columns of the table.
* `learned_of_turns`: all columns in the map, and all that are given out, were told so.
* `recallsColumns_iff`: the dialogues of the cache are those of the map.
-/

namespace TenantReports

open Memo

variable {log : List (Exchange Ask.Answer)}

/-! ### Calls of the cache -/

/-- A call of the cache. -/
inductive ColumnCall
  | get (session : Session) (schema table : String)
  | evict (key : ColumnKey)
  | evictSession (caller : SessionKey)

/-- What a call gives back. -/
inductive ColumnReply
  | columns (result : Except Failure (List ColumnDescriptor))
  | evicted (had : Bool)
  /-- How many tables of the session there were. -/
  | evictedSession (count : Nat)

/-- Performs a call. -/
def ColumnCall.perform (call : ColumnCall) (cache : ColumnCache) :
    GatewayTask (ColumnReply × ColumnCache) :=
  match call with
  | .get session schema table => (cache.get session schema table).bind fun found =>
    .done (.columns found.1, found.2)
  | .evict key => .done (.evicted (cache.evict key).1, (cache.evict key).2)
  | .evictSession caller =>
    .done (.evictedSession (cache.evictSession caller).1, (cache.evictSession caller).2)

/-! ### The map -/

/-- Columns by table. -/
abbrev ColumnMemory :=
  Finmap fun _ : ColumnKey => List ColumnDescriptor

variable {memory : ColumnMemory} {session : Session} {schema table : String}
  {result : Except Failure (List ColumnDescriptor)}

/-- **What a call does to the map**, what is exchanged meanwhile, and what it gives back. -/
inductive RecallsColumns : ColumnCall → ColumnMemory → List (Exchange Ask.Answer) → ColumnReply →
    ColumnMemory → Prop
  /-- The columns are there. -/
  | kept {session : Session} {schema table : String} {memory : ColumnMemory}
    {columns : List ColumnDescriptor}
    (has : memory.lookup ⟨session.key, schema, table⟩ = some columns) :
    RecallsColumns (.get session schema table) memory [] (.columns (.ok columns)) memory
  | fetched {session : Session} {schema table : String} {memory : ColumnMemory}
    (lacks : memory.lookup ⟨session.key, schema, table⟩ = none) (rows : RawRows) :
    RecallsColumns (.get session schema table) memory
      [columnsExchange session schema table (.ok rows)]
      (.columns (.ok (Catalog.readColumns rows.rows)))
      (memory.insert ⟨session.key, schema, table⟩ (Catalog.readColumns rows.rows))
  | failed {session : Session} {schema table : String} {memory : ColumnMemory}
    (lacks : memory.lookup ⟨session.key, schema, table⟩ = none) (error : DbError) :
    RecallsColumns (.get session schema table) memory
      [columnsExchange session schema table (.error error)]
      (.columns (.error (error.toFailure .introspection
        ("could not fetch columns for " ++ schema ++ "." ++ table)))) memory
  | evicted (key : ColumnKey) (memory : ColumnMemory) :
    RecallsColumns (.evict key) memory [] (.evicted (memory.lookup key).isSome) (memory.erase key)
  | evictedSession (caller : SessionKey) (memory : ColumnMemory) :
    RecallsColumns (.evictSession caller) memory []
      (.evictedSession (memory.keys.filter fun key => key.session = caller).card)
      (Cells.without memory fun key => key.session == caller)

/-! ### Calls and the map -/

/-- A dialogue that looks columns up is a step of the map. -/
theorem recallsColumns_of_looks {next : ColumnMemory}
    (looks : Looks (fun key => fetchColumns session key.schema key.table) memory
      ⟨session.key, schema, table⟩ log result next) :
    RecallsColumns (.get session schema table) memory log (.columns result) next := by
  cases looks with
  | kept has => exact .kept has
  | got lacks leads =>
    obtain ⟨answer, rfl, same⟩ := leads_fetchColumns_iff.mp leads
    cases answer with
    | error error => cases same
    | ok rows =>
      cases same
      exact .fetched lacks rows
  | failed lacks leads =>
    obtain ⟨answer, rfl, same⟩ := leads_fetchColumns_iff.mp leads
    cases answer with
    | error error =>
      cases same
      exact .failed lacks error
    | ok rows => cases same

/-- A step of the map that gives columns is a lookup in it. -/
theorem looks_of_recallsColumns {next : ColumnMemory} {reply : ColumnReply}
    (recalls : RecallsColumns (.get session schema table) memory log reply next) :
    ∃ result, reply = .columns result ∧
      Looks (fun key => fetchColumns session key.schema key.table) memory
        ⟨session.key, schema, table⟩ log result next := by
  cases recalls with
  | kept has => exact ⟨_, rfl, .kept has⟩
  | fetched lacks rows =>
    exact ⟨_, rfl, .got lacks (leads_fetchColumns_iff.mpr ⟨.ok rows, rfl, rfl⟩)⟩
  | failed lacks error =>
    exact ⟨_, rfl, .failed lacks (leads_fetchColumns_iff.mpr ⟨.error error, rfl, rfl⟩)⟩

/-- **A concurrent request for columns that runs alone is a step of the map.** -/
theorem recallsColumns_of_alone {cache : ColumnCache}
    {events : List (Event ColumnKey Ask Ask.Answer (List ColumnDescriptor) Failure)}
    {machine : ColumnMachine} (keeps : cache.Keeps memory)
    (ran : (Machine.ofCells cache).run? (columnsEvent session schema table :: events) =
      some machine)
    (alone : ∀ event ∈ events, event.isFirst) (returned : machine.outcome? 0 = some result) :
    ∃ next, RecallsColumns (.get session schema table) memory
      ((Machine.ofCells cache).conversation (columnsEvent session schema table :: events) 0)
      (.columns result) next ∧ machine.cells.Keeps next := by
  let get : ColumnKey → GatewayTask (Except Failure (List ColumnDescriptor)) :=
    fun key => fetchColumns session key.schema key.table
  have leads : (lookup get ⟨session.key, schema, table⟩ cache).Leads
      ((Machine.ofCells cache).conversation (columnsEvent session schema table :: events) 0)
      (.done (result, machine.cells)) := Machine.lookup_of_alone ran alone returned
  obtain ⟨next, looks, keepsNext⟩ := keeps.looks_of_leads leads
  exact ⟨next, recallsColumns_of_looks looks, keepsNext⟩

/-- As many tables go with a session as the map has under it. -/
theorem fst_evictSession {cache : ColumnCache} (keeps : cache.Keeps memory) (caller : SessionKey) :
    (cache.evictSession caller).1 =
      (memory.keys.filter fun key => key.session = caller).card := by
  refine (keeps.fst_evictAll _).trans ?_
  simp only [beq_iff_eq]

/-- **Each call of the cache does what a step of the map says, and nothing else.** -/
theorem refines_recallsColumns : Refines ColumnCall.perform RecallsColumns Cells.Keeps where
  sound {call cache memory log reply next} keeps leads := by
    cases call with
    | get session schema table =>
      obtain ⟨⟨result, after⟩, same, gets⟩ := leads.of_map_finished
      obtain ⟨rfl, rfl⟩ := Prod.mk.inj same
      obtain ⟨map, looks, keepsNext⟩ := keeps.looks_of_leads gets
      exact ⟨map, recallsColumns_of_looks looks, keepsNext⟩
    | evict key =>
      obtain ⟨rfl, same⟩ := leads.of_done_finished
      obtain ⟨rfl, rfl⟩ := Prod.mk.inj same
      refine ⟨memory.erase key, ?_, keeps.erase key⟩
      rw [Cells.evict, keeps.isSome_slot?]
      exact .evicted key memory
    | evictSession caller =>
      obtain ⟨rfl, same⟩ := leads.of_done_finished
      obtain ⟨rfl, rfl⟩ := Prod.mk.inj same
      refine ⟨_, ?_, keeps.evictAll _⟩
      rw [fst_evictSession keeps]
      exact .evictedSession caller memory
  complete {call cache memory log reply after} keeps recalls := by
    cases call with
    | get session schema table =>
      obtain ⟨result, rfl, looks⟩ := looks_of_recallsColumns recalls
      obtain ⟨next, gets, keepsNext⟩ := keeps.leads_of_looks looks
      exact ⟨next, gets.map, keepsNext⟩
    | evict key =>
      cases recalls
      refine ⟨cache.erase key, ?_, keeps.erase key⟩
      rw [ColumnCall.perform, Cells.evict, keeps.isSome_slot?]
      exact .refl _
    | evictSession caller =>
      cases recalls
      refine ⟨(cache.evictSession caller).2, ?_, keeps.evictAll _⟩
      rw [ColumnCall.perform, fst_evictSession keeps]
      exact .refl _

/-! ### Where columns come from -/

/-- **A database of the caller has told the columns of a table**: in an exchange of one of the given
calls it gave rows that list them. -/
def Learned (calls : List ColumnCall) (log : List (Exchange Ask.Answer)) (key : ColumnKey)
    (columns : List ColumnDescriptor) : Prop :=
  ∃ session rows, session.key = key.session ∧ .get session key.schema key.table ∈ calls ∧
    columnsExchange session key.schema key.table (.ok rows) ∈ log ∧
    Catalog.ListsColumns rows.rows columns

/-- What was told stays told. -/
theorem Learned.append {calls : List ColumnCall} {key : ColumnKey} {columns : List ColumnDescriptor}
    (told : Learned calls log key columns) (more : List ColumnCall)
    (later : List (Exchange Ask.Answer)) : Learned (calls ++ more) (log ++ later) key columns := by
  obtain ⟨session, rows, same, called, exchanged, read⟩ := told
  exact ⟨session, rows, same, List.mem_append_left _ called, List.mem_append_left _ exchanged, read⟩

/-- All columns in the map were told. -/
def AllLearned (calls : List ColumnCall) (log : List (Exchange Ask.Answer)) (memory : ColumnMemory) :
    Prop :=
  ∀ key columns, memory.lookup key = some columns → Learned calls log key columns

/-- **A step of the map keeps to what was told**, and so does its reply. -/
theorem RecallsColumns.learned {call : ColumnCall} {next : ColumnMemory} {reply : ColumnReply}
    {calls : List ColumnCall} {first second : List (Exchange Ask.Answer)}
    (recalls : RecallsColumns call memory second reply next) (all : AllLearned calls first memory) :
    AllLearned (calls ++ [call]) (first ++ second) next ∧
      ∀ session schema table columns, call = .get session schema table →
        reply = .columns (.ok columns) →
        Learned (calls ++ [call]) (first ++ second) ⟨session.key, schema, table⟩ columns := by
  have still : AllLearned (calls ++ [call]) (first ++ second) memory :=
    fun key columns has => (all key columns has).append _ _
  cases recalls with
  | kept has =>
    refine ⟨still, ?_⟩
    rintro _ _ _ _ ⟨⟩ ⟨⟩
    exact still _ _ has
  | @fetched session schema table _ lacks rows =>
    have told : Learned (calls ++ [.get session schema table])
        (first ++ [columnsExchange session schema table (.ok rows)]) ⟨session.key, schema, table⟩
        (Catalog.readColumns rows.rows) :=
      ⟨session, rows, rfl, List.mem_append_right _ (List.mem_singleton.mpr rfl),
        List.mem_append_right _ (List.mem_singleton.mpr rfl), Catalog.listsColumns_iff.mpr rfl⟩
    refine ⟨fun key columns has => ?_, ?_⟩
    · by_cases same : key = ⟨session.key, schema, table⟩
      · subst same
        rw [Finmap.lookup_insert] at has
        cases has
        exact told
      · rw [Finmap.lookup_insert_of_ne _ same] at has
        exact still key columns has
    · rintro _ _ _ _ ⟨⟩ ⟨⟩
      exact told
  | failed lacks error =>
    refine ⟨still, ?_⟩
    rintro _ _ _ _ - ⟨⟩
  | evicted key =>
    refine ⟨fun other columns has => still other columns ?_, fun _ _ _ _ same => nomatch same⟩
    by_cases same : other = key
    · rw [same, Finmap.lookup_erase] at has
      cases has
    · rwa [Finmap.lookup_erase_ne same] at has
  | evictedSession caller =>
    refine ⟨fun key columns has => still key columns ?_, fun _ _ _ _ same => nomatch same⟩
    rw [Cells.lookup_without] at has
    split at has
    · cases has
    · exact has

/-- **Steps of the map keep to what was told**, and give nothing else out. -/
theorem learned_of_turns {calls before : List ColumnCall} {earlier : List (Exchange Ask.Answer)}
    {replies : List ColumnReply} {last : ColumnMemory}
    (turns : Turns RecallsColumns calls memory log replies last)
    (all : AllLearned before earlier memory) :
    ∀ (i : Nat) session schema table columns, calls[i]? = some (.get session schema table) →
      replies[i]? = some (.columns (.ok columns)) →
      Learned (before ++ calls) (earlier ++ log) ⟨session.key, schema, table⟩ columns := by
  induction turns generalizing before earlier with
  | nil model => exact fun i _ _ _ _ called => nomatch called
  | @cons call calls memory next last first second reply replies does rest ih =>
    obtain ⟨allNext, replied⟩ := does.learned all
    intro i session schema table columns called given
    cases i with
    | zero =>
      have told := replied session schema table columns (Option.some.inj called)
        (Option.some.inj given)
      have later := told.append calls second
      rwa [List.append_assoc, List.append_assoc] at later
    | succ i =>
      have later := ih allNext i session schema table columns called given
      rwa [List.append_assoc, List.append_assoc] at later

/-! ### The cache -/

/-- **All columns given out were told**: by a database of the caller, for that table, in this call
or one before it. -/
def AllSourced (calls : List ColumnCall) (log : List (Exchange Ask.Answer))
    (replies : List ColumnReply) : Prop :=
  ∀ (i : Nat) session schema table columns, calls[i]? = some (.get session schema table) →
    replies[i]? = some (.columns (.ok columns)) →
    ∃ first second, log = first ++ second ∧
      (Task.inTurn ColumnCall.perform (calls.take (i + 1)) Cells.empty).Leads first
        (.done (replies.take (i + 1))) ∧
      Learned (calls.take (i + 1)) first ⟨session.key, schema, table⟩ columns

/-- **The cache is a finite map of columns to those who call it in turn**, and all columns that it
gives out were told by a database of the same caller for the same table. -/
theorem recallsColumns_iff (calls : List ColumnCall) (log : List (Exchange Ask.Answer))
    (replies : List ColumnReply) :
    (Task.inTurn ColumnCall.perform calls Cells.empty).Leads log (.done replies) ↔
      ∃ memory, Turns RecallsColumns calls ∅ log replies memory ∧
        AllSourced calls log replies := by
  have empty : Cells.empty.Keeps (∅ : ColumnMemory) := Cells.keeps_empty
  have leads_iff := refines_recallsColumns.leads_inTurn_iff empty
  rw [leads_iff]
  refine exists_congr fun memory => ⟨fun turns => ⟨turns, ?_⟩, fun both => both.1⟩
  intro i session schema table columns called given
  obtain ⟨middle, first, second, split, turned⟩ := turns.take (i + 1)
  have nothing : AllLearned [] [] (∅ : ColumnMemory) := fun key columns has => by
    rw [Finmap.lookup_empty] at has
    cases has
  refine ⟨first, second, split, (leads_iff _ _ _).mpr ⟨middle, turned⟩, ?_⟩
  have now : i < i + 1 := Nat.lt_succ_self i
  exact learned_of_turns turned nothing i session schema table columns
    ((List.getElem?_take_of_lt now).trans called) ((List.getElem?_take_of_lt now).trans given)

end TenantReports

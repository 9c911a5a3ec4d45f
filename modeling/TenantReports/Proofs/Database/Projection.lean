import TenantReports.Postgres.Decode
import TenantReports.Proofs.Attempts
import TenantReports.Proofs.Keyed
import TenantReports.Proofs.Report.Stages
import TenantReports.Proofs.Text.Utf8

/-!
# Rows in the order of their columns

**What becomes of the values of a row** on their way through an association of names and values: they
come out in the order of the columns, and a name that several columns have stands for the last of
their values.

* `Holds`: what a row holds under a name.
* `Shows`: the fields of a row, column by column.
* `OrderedRow.Exact`: a row shows the values that it was given, in full, in part or under distinct
  names.
* `exact_ofValues`: rows that are given in the order of the columns come out so, one for each.
* `decodeRows_eq_ok_iff`: rows that a server sends are given so.
* `projected_exactly`: both, and how many rows a report counts.
-/

namespace TenantReports

open Json (Value)

variable {columns names : List String} {values : List DbValue} {name : String} {value : DbValue}

/-! ### The values of a row -/

/-- The last position of a name among columns. -/
def LastPosition (columns : List String) (name : String) (j : Nat) : Prop :=
  columns[j]? = some name ∧ ∀ k, j < k → columns[k]? ≠ some name

/-- **What a row holds under a name**: its value at the last position of the name that has one. -/
def Holds (columns : List String) (values : List DbValue) (name : String) (value : DbValue) :
    Prop :=
  ∃ j, LastPosition (columns.take values.length) name j ∧ values[j]? = some value

/-- **The fields of a row**, column by column: a column whose name holds a value shows it in JSON,
one whose name holds none is left out. -/
inductive Shows (columns : List String) (values : List DbValue) :
    List String → List (String × Value) → Prop
  | nil : Shows columns values [] []
  | shown {name : String} {value : DbValue} {names : List String} {fields : List (String × Value)}
    (holds : Holds columns values name value) (rest : Shows columns values names fields) :
    Shows columns values (name :: names) ((name, value.toJson) :: fields)
  | missing {name : String} {names : List String} {fields : List (String × Value)}
    (none : ∀ value, ¬Holds columns values name value)
    (rest : Shows columns values names fields) : Shows columns values (name :: names) fields

/-- **A row that shows exactly the values it was given** in the order of the columns. -/
structure OrderedRow.Exact (columns : List String) (values : List DbValue) (row : OrderedRow) :
    Prop where
  shows : Shows columns values columns row.fields
  /-- No other fields than these are shown. -/
  only : ∀ fields, Shows columns values columns fields → fields = row.fields
  /-- The columns that are shown are those whose name has a value. -/
  keys : row.keys = columns.filter (· ∈ columns.take values.length)
  /-- If there is a value for every column, every column is shown, with the value of the last column
  of its name. -/
  full : values.length = columns.length → row.fields.length = columns.length ∧
    ∀ i (inside : i < columns.length), ∃ j value, LastPosition columns columns[i] j ∧
      values[j]? = some value ∧ row.fields[i]? = some (columns[i], value.toJson)
  /-- Under distinct names every value is shown once, under its own name. -/
  distinct : columns.Nodup →
    row.fields = (columns.zip values).map fun (name, value) => (name, value.toJson)

/-- A column has a value where the association has an entry. -/
theorem getElem?_take_eq_some_iff {j : Nat} : (columns.take values.length)[j]? = some name ↔
    ∃ value, (columns.zip values)[j]? = some (name, value) := by
  simp only [List.getElem?_zip_eq_some, List.getElem?_take, exists_and_left]
  split
  next inside => exact (and_iff_left ⟨_, List.getElem?_eq_getElem inside⟩).symm
  next outside =>
    refine iff_of_false nofun fun ⟨_, value, here⟩ => ?_
    exact outside (List.getElem?_eq_some_iff.mp here).1

/-- **A row holds under a name what its association has under it.** -/
theorem get?_zip_eq_some_iff :
    Row.get? (columns.zip values) name = some value ↔ Holds columns values name value := by
  unfold Row.get? Holds LastPosition
  rw [find?_reverse_eq_some_iff, lastNamed_iff_getElem?]
  refine exists_congr fun j => ?_
  simp only [ne_eq, getElem?_take_eq_some_iff, not_exists]
  constructor
  · rintro ⟨found, last⟩
    exact ⟨⟨⟨value, found⟩, last⟩, (List.getElem?_zip_eq_some.mp found).2⟩
  · rintro ⟨⟨⟨other, found⟩, last⟩, here⟩
    exact ⟨List.getElem?_zip_eq_some.mpr ⟨(List.getElem?_zip_eq_some.mp found).1, here⟩, last⟩

/-- A row holds something under a name exactly when a column of that name has a value. -/
theorem isSome_get?_zip_iff :
    (Row.get? (columns.zip values) name).isSome = true ↔ name ∈ columns.take values.length := by
  have named : name ∈ (columns.zip values).map Prod.fst ↔ name ∈ columns.take values.length := by
    simp only [List.mem_iff_getElem?, List.getElem?_map, Option.map_eq_some_iff, Prod.exists,
      exists_and_right, exists_eq_right, getElem?_take_eq_some_iff]
  rw [← named, ← exists_lastNamed_iff, Option.isSome_iff_exists]
  exact exists_congr fun value => find?_reverse_eq_some_iff

/-! ### The fields of a row -/

theorem ofRow_cons (name : String) (names : List String) (row : Row) :
    (OrderedRow.ofRow (name :: names) row).fields =
      ((row.get? name).map fun value => (name, value.toJson)).toList ++
        (OrderedRow.ofRow names row).fields := by
  unfold OrderedRow.ofRow
  rw [List.filterMap_cons]
  cases row.get? name <;> rfl

theorem shows_ofRow (columns : List String) (values : List DbValue) (names : List String) :
    Shows columns values names (OrderedRow.ofRow names (columns.zip values)).fields := by
  induction names with
  | nil => exact .nil
  | cons name names ih =>
    rw [ofRow_cons]
    cases found : Row.get? (columns.zip values) name with
    | none =>
      refine .missing (fun value holds => ?_) ih
      cases found.symm.trans (get?_zip_eq_some_iff.mpr holds)
    | some value => exact .shown (get?_zip_eq_some_iff.mp found) ih

/-- **What a row shows is settled by its columns and values.** -/
theorem Shows.eq_ofRow {fields : List (String × Value)} (shows : Shows columns values names fields) :
    fields = (OrderedRow.ofRow names (columns.zip values)).fields := by
  induction shows with
  | nil => rfl
  | shown holds rest ih =>
    rw [ofRow_cons, get?_zip_eq_some_iff.mpr holds, ← ih]
    rfl
  | missing none rest ih =>
    rw [ofRow_cons, Option.eq_none_iff_forall_ne_some.mpr fun value found =>
      none value (get?_zip_eq_some_iff.mp found), ← ih]
    rfl

theorem keys_ofRow (names : List String) (row : Row) :
    (OrderedRow.ofRow names row).keys = names.filter fun name => (row.get? name).isSome := by
  unfold OrderedRow.keys
  induction names with
  | nil => rfl
  | cons name names ih =>
    rw [ofRow_cons, List.map_append, ih, List.filter_cons]
    cases row.get? name <;> rfl

/-- **Where every column has a value, every column is shown**, with the value of the last column of
its name. -/
theorem ofRow_of_full (full : values.length = columns.length) :
    (OrderedRow.ofRow columns (columns.zip values)).fields.length = columns.length ∧
      ∀ i (inside : i < columns.length), ∃ j value, LastPosition columns columns[i] j ∧
        values[j]? = some value ∧
          (OrderedRow.ofRow columns (columns.zip values)).fields[i]? =
            some (columns[i], value.toJson) := by
  have whole : columns.take values.length = columns := by rw [full, List.take_length]
  have found : ∀ name ∈ columns, ∃ value, Row.get? (columns.zip values) name = some value := by
    intro name member
    rw [← Option.isSome_iff_exists, isSome_get?_zip_iff, whole]
    exact member
  -- Nothing is left out, so the fields are the columns one by one.
  have shown : (OrderedRow.ofRow columns (columns.zip values)).fields = columns.map fun name =>
      (name, ((Row.get? (columns.zip values) name).getD .null).toJson) := by
    refine List.filterMap_eq_map_iff_forall_eq_some.mpr fun name member => ?_
    obtain ⟨value, found⟩ := found name member
    rw [found]
    rfl
  refine ⟨by rw [shown, List.length_map], fun i inside => ?_⟩
  obtain ⟨value, found⟩ := found columns[i] (List.getElem_mem inside)
  obtain ⟨j, last, here⟩ := get?_zip_eq_some_iff.mp found
  rw [whole] at last
  refine ⟨j, value, last, here, ?_⟩
  rw [shown, List.getElem?_map, List.getElem?_eq_getElem inside, Option.map_some, found]
  rfl

/-- A row holds more under a name with an entry before all others only if it held nothing. -/
theorem get?_cons (entry : String × DbValue) (row : Row) (name : String) :
    Row.get? (entry :: row) name =
      (row.get? name).or (if entry.1 = name then some entry.2 else none) := by
  unfold Row.get?
  rw [List.reverse_cons, List.find?_append, List.find?_singleton]
  cases row.reverse.find? fun entry => entry.1 == name with
  | some found => rfl
  | none =>
    by_cases named : entry.1 = name
    · rw [if_pos named, if_pos (beq_iff_eq.mpr named)]
      rfl
    · rw [if_neg named, if_neg (mt beq_iff_eq.mp named)]
      rfl

/-- **Under distinct names a row shows its values in their order.** -/
theorem ofRow_of_nodup (distinct : columns.Nodup) (values : List DbValue) :
    (OrderedRow.ofRow columns (columns.zip values)).fields =
      (columns.zip values).map fun (name, value) => (name, value.toJson) := by
  induction columns generalizing values with
  | nil => rfl
  | cons column columns ih =>
    obtain ⟨fresh, distinct⟩ := List.nodup_cons.mp distinct
    cases values with
    | nil => exact List.filterMap_eq_nil_iff.mpr fun name member => rfl
    | cons value values =>
      have other : Row.get? (columns.zip values) column = none := by
        rw [← Option.not_isSome_iff_eq_none, isSome_get?_zip_iff]
        exact fun member => fresh (List.mem_of_mem_take member)
      have rest : (OrderedRow.ofRow columns ((column, value) :: columns.zip values)).fields =
          (OrderedRow.ofRow columns (columns.zip values)).fields := by
        refine List.filterMap_congr fun name member => ?_
        have differs : column ≠ name := fun same => fresh (same ▸ member)
        rw [get?_cons, if_neg differs, Option.or_none]
      rw [List.zip_cons_cons, ofRow_cons, get?_cons, other, rest, ih distinct, if_pos rfl]
      rfl

/-- **A row shows exactly the values it was given.** -/
theorem exact_ofRow (columns : List String) (values : List DbValue) :
    (OrderedRow.ofRow columns (columns.zip values)).Exact columns values where
  shows := shows_ofRow columns values columns
  only _ shows := shows.eq_ofRow
  keys := by
    rw [keys_ofRow]
    refine List.filter_congr fun name _ => ?_
    rw [Bool.eq_iff_iff, isSome_get?_zip_iff, decide_eq_true_eq]
  full := ofRow_of_full
  distinct distinct := ofRow_of_nodup distinct values

/-! ### Results -/

/-- The result whose rows are given in the order of the columns. -/
def RawRows.ofValues (columns : List String) (rows : List (List DbValue)) : RawRows :=
  rows.foldl RawRows.push ⟨columns, []⟩

theorem RawRows.ofValues_eq (columns : List String) (rows : List (List DbValue)) :
    ofValues columns rows = ⟨columns, rows.map columns.zip⟩ := by
  unfold ofValues
  induction rows using List.reverseRecOn with
  | nil => rfl
  | append_singleton rows values ih =>
    rw [List.foldl_append, ih, List.map_append]
    rfl

/-- **Rows that are given in the order of the columns come out so**, one for each of them. -/
theorem exact_ofValues (columns : List String) (rows : List (List DbValue)) :
    List.Forall₂ (fun values row => row.Exact columns values) rows
      (RawRows.ofValues columns rows).ordered := by
  rw [RawRows.ofValues_eq]
  unfold RawRows.ordered projectRows
  rw [List.map_map, List.forall₂_map_right_iff, List.forall₂_same]
  exact fun values _ => exact_ofRow columns values

namespace Postgres

/-- **The values of a row that a server sends**: each is what the octets at its place are read as by
the type of the column. -/
def RowRead (place : Nat) (columns : List Column) (octets : List (Option (List UInt8)))
    (values : List DbValue) : Prop :=
  List.Forall₂ (fun entry value => decodeValue entry.2 entry.1.1 entry.1.2 = .ok value)
    ((columns.zip octets).zipIdx place) values

theorem decodeRow_eq_ok_iff {place : Nat} {columns : List Column}
    {octets : List (Option (List UInt8))} {values : List DbValue} :
    decodeRow place columns octets = .ok values ↔ RowRead place columns octets values := by
  unfold RowRead
  fun_induction decodeRow place columns octets generalizing values with
  | case1 place column columns bytes octets error here =>
    rw [List.zip_cons_cons, List.zipIdx_cons, List.forall₂_cons_left_iff]
    refine iff_of_false nofun fun ⟨_, _, read, _⟩ => ?_
    cases here.symm.trans read
  | case2 place column columns bytes octets first here ih =>
    rw [List.zip_cons_cons, List.zipIdx_cons, List.forall₂_cons_left_iff]
    simp only [← ih, here]
    cases there : decodeRow (place + 1) columns octets with
    | error error => exact iff_of_false nofun nofun
    | ok others =>
      constructor
      · intro same
        exact ⟨first, others, rfl, rfl, (Except.ok.inj same).symm⟩
      · rintro ⟨_, _, ⟨⟩, ⟨⟩, rfl⟩
        rfl
  | case3 columns place octets ended =>
    have none : columns.zip octets = [] := by
      cases columns with
      | nil => rfl
      | cons column columns =>
        cases octets with
        | nil => rfl
        | cons bytes octets => exact (ended column columns bytes octets rfl rfl).elim
    rw [none, List.zipIdx_nil, List.forall₂_nil_left_iff]
    exact ⟨fun same => (Except.ok.inj same).symm, fun same => congrArg _ same.symm⟩

/-- **Rows that a server sends are given in the order of their columns**, if all of their values can
be read. -/
theorem decodeRows_eq_ok_iff {table : Table} {result : RawRows} :
    decodeRows table = .ok result ↔
      ∃ rows, List.Forall₂ (RowRead 0 table.columns) table.rows rows ∧
        result = RawRows.ofValues
          (if table.rows.isEmpty then [] else table.columns.map (·.name)) rows := by
  have rows : ∀ rows, table.rows.mapM (decodeRow 0 table.columns) = .ok rows ↔
      List.Forall₂ (RowRead 0 table.columns) table.rows rows := by
    intro rows
    rw [mapM_eq_ok_iff]
    simp only [decodeRow_eq_ok_iff]
  unfold decodeRows
  cases decoded : table.rows.mapM (decodeRow 0 table.columns) with
  | error error =>
    refine iff_of_false nofun fun ⟨values, read, _⟩ => ?_
    cases decoded.symm.trans ((rows values).mpr read)
  | ok values =>
    constructor
    · intro same
      exact ⟨values, (rows values).mp decoded, (Except.ok.inj same).symm⟩
    · rintro ⟨values', read, rfl⟩
      cases decoded.symm.trans ((rows values').mpr read)
      rfl

end Postgres

/-! ### Reports -/

/-- The rows of a report are what its call was answered. -/
theorem RolledBack.called {report : PreparedReport} {timeout : Nat}
    {log : List (Exchange DbAsk.Answer)} {result : RawRows}
    (rolledBack : RolledBack report timeout log (.ok result)) :
    ⟨.txQuery report.invocation.sql report.invocation.params, .ok result⟩ ∈ log := by
  cases rolledBack with
  | ended invoked outcome =>
    cases invoked with
    | called result => simp

/-- **A report that is answered tells the rows that its call gave**, and how many they are. -/
theorem answered_report {reporting : Reporting} {session : Session} {request : ReportRequest}
    {log : List (Exchange Ask.Answer)} {response : ReportResponse}
    (leads : (report reporting session request).Leads log (.done (.ok response))) :
    ∃ sql params result,
      (⟨.database session.database (.txQuery sql params), .ok result⟩ : Exchange Ask.Answer) ∈ log ∧
        response.records = result.ordered ∧ response.total = result.rows.length ∧
        response.toValue = .object [("totalRecords", .nat result.rows.length),
          ("records", .array (result.ordered.map OrderedRow.toValue))] := by
  obtain ⟨before, executed, rfl⟩ := executed_of_leads_report leads
  cases executed with
  | loaded loaded ran =>
    generalize same : Except.ok response = outcome at ran
    cases ran with
    | unmarked | unfit => cases same
    | @ran marker marked fits inner rows rolledBack =>
      cases rows with
      | error failure => cases same
      | ok result =>
        cases same
        have count : result.ordered.length = result.rows.length := List.length_map _
        refine ⟨_, _, result, List.mem_append_left _ (List.mem_append_right _
          (List.mem_map.mpr ⟨_, rolledBack.called, rfl⟩)), rfl, count, ?_⟩
        rw [← count]
        rfl

/-- **Rows come out in the order of their columns**, with exactly the values they were given: rows
that are put together from values in the order of the columns, and rows that a server sends. A
report counts them. -/
theorem projected_exactly :
    (∀ columns rows, List.Forall₂ (fun values row => row.Exact columns values) rows
      (RawRows.ofValues columns rows).ordered) ∧
    (∀ {table : Postgres.Table} {result : RawRows}, Postgres.decodeRows table = .ok result →
      ∃ rows, List.Forall₂ (Postgres.RowRead 0 table.columns) table.rows rows ∧
        List.Forall₂ (fun values row => row.Exact (table.columns.map (·.name)) values) rows
          result.ordered) ∧
    ∀ {reporting : Reporting} {session : Session} {request : ReportRequest}
      {log : List (Exchange Ask.Answer)} {response : ReportResponse},
      (report reporting session request).Leads log (.done (.ok response)) →
      ∃ sql params result, (⟨.database session.database (.txQuery sql params), .ok result⟩ :
          Exchange Ask.Answer) ∈ log ∧
        response.records = result.ordered ∧ response.total = result.rows.length ∧
        response.toValue = .object [("totalRecords", .nat result.rows.length),
          ("records", .array (result.ordered.map OrderedRow.toValue))] := by
  refine ⟨exact_ofValues, fun {table result} decoded => ?_, answered_report⟩
  obtain ⟨rows, read, rfl⟩ := Postgres.decodeRows_eq_ok_iff.mp decoded
  refine ⟨rows, read, ?_⟩
  cases sent : table.rows with
  | nil =>
    rw [sent] at read
    cases read
    exact .nil
  | cons first others => exact exact_ofValues _ rows

/-- A row that is given in part shows a name wherever it stands, and in full what the name held
last. -/
example : (RawRows.ofValues ["id", "name", "id"] [[.int 7], [.int 7, .null, .int 8]]).ordered =
    [⟨[("id", .int 7), ("id", .int 7)]⟩, ⟨[("id", .int 8), ("name", .null), ("id", .int 8)]⟩] :=
  rfl

/-- Two rows with a column between two columns of one name. -/
def repeatedTable : Postgres.Table :=
  ⟨[⟨"open", .scalar .bool⟩, ⟨"paid", .scalar .bool⟩, ⟨"open", .scalar .bool⟩],
    [[some [1], some [1], some [0]], [some [1], some [0], none]]⟩

/-- The script of a report on loans. -/
def loansScript : String := "--metadb:function loans\n"

/-- Files hold the script, and the database answers every call with two rows. -/
def loansOutside : (question : Ask) → Unit → question.Answer × Unit
  | .settings _, _ | .fetch _, _ => (.error .timeout, ())
  | .connect _, _ => (.ok default, ())
  | .database _ (.query _ _), _ | .database _ (.txQuery _ _), _ =>
    (.ok (RawRows.ofValues ["id", "id"] [[.int 7, .int 8], [.int 9]]), ())
  | .database _ .begin, _ | .database _ (.setTimeout _), _ | .database _ (.script _), _
  | .database _ .rollback, _ => (.ok (), ())
  | .read _, _ => (.ok (Text.Utf8.ofString loansScript), ())
  | .observe _, _ => ((), ())
  | .counters, _ => (default, ())

/-- A report on loans, of any parameters. -/
def loansRequest : ReportRequest := ⟨"file://loans.sql", .empty, 0⟩

theorem projected_exactly_repeated :
    (∃ result, Postgres.decodeRows repeatedTable = .ok result ∧
      ∃ rows, List.Forall₂ (Postgres.RowRead 0 repeatedTable.columns) repeatedTable.rows rows ∧
        List.Forall₂ (fun values row => row.Exact ["open", "paid", "open"] values) rows
          result.ordered) ∧
    ∃ (reporting : Reporting) (session : Session) (log : List (Exchange Ask.Answer))
      (response : ReportResponse),
      (report reporting session loansRequest).Leads log (.done (.ok response)) ∧
      response.total = 2 ∧
      ∃ sql params result, (⟨.database session.database (.txQuery sql params), .ok result⟩ :
          Exchange Ask.Answer) ∈ log ∧
        response.records = result.ordered ∧ response.total = result.rows.length ∧
        response.toValue = .object [("totalRecords", .nat result.rows.length),
          ("records", .array (result.ordered.map OrderedRow.toValue))] := by
  have decoded : Postgres.decodeRows repeatedTable =
      .ok (RawRows.ofValues ["open", "paid", "open"]
        [[.bool true, .bool true, .bool false], [.bool true, .bool false, .null]]) := rfl
  have read : Text.Utf8.toString? (Text.Utf8.ofString loansScript) = some loansScript := by
    rw [Text.Utf8.toString?, Text.Utf8.ofString, Text.Utf8.decode?_encode, Option.map_some,
      String.ofList_toList]
  have text : ReportSource.textOfFile (.ok (Text.Utf8.ofString loansScript)) = .ok loansScript := by
    simp only [ReportSource.textOfFile, read]
  have load : (ReportSource.load ⟨[], "reports"⟩ loansRequest.url).run loansOutside () =
      (.ok loansScript, ()) := by
    have file : Net.Url.ofText? loansRequest.url = some .file := by decide +kernel
    have path : ReportSource.relativePath? loansRequest.url = some "loans.sql".toList := by
      decide +kernel
    have plain : (ReportSource.under "reports" "loans.sql".toList).toList.contains '\x00' = false := by
      decide +kernel
    have allowed : Whitelist.check [] loansRequest.url = .ok () := rfl
    simp only [ReportSource.load, allowed, ReportSource.fetch, file, ReportSource.readFile, path,
      plain, Bool.false_eq_true, if_false, Task.run, loansOutside, text]
    rfl
  have ran : ((report ⟨⟨[], "reports"⟩, 60000⟩ default loansRequest).run loansOutside ()).1 =
      .ok (ReportResponse.ofRecords
        (RawRows.ofValues ["id", "id"] [[.int 7, .int 8], [.int 9]]).ordered) := by
    unfold report fetchAndRun
    rw [Task.run_bind, Task.run_bind]
    dsimp only
    rw [load]
    rfl
  have leads := Task.leads_dialogue loansOutside
    (report ⟨⟨[], "reports"⟩, 60000⟩ default loansRequest) ()
  rw [ran] at leads
  exact ⟨⟨_, decoded, projected_exactly.2.1 decoded⟩, _, _, _, _, leads, rfl,
    projected_exactly.2.2 leads⟩

end TenantReports

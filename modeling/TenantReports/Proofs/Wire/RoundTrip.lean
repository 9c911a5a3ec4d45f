import TenantReports.Proofs.Attempts
import TenantReports.Proofs.Json.RoundTrip
import TenantReports.Wire.Catalog
import TenantReports.Wire.Request

/-!
# Records that are sent are the records received

**What a caller asks for and what the gateway tells of a database survive their texts**: a record
that is written is the record read, whatever its strings are, and a record that was read from any
text stays the same from then on.

* `fields?_record`: a record has its own fields.
* `Form`: how a record is written and read; `Form.Kept`: what is written is read.
* `Form.kept_of_fields`: a record that is built from its fields is kept.
* `Form.Survives`: so is what was read from any text; writing that anew changes nothing more.
* `survives_records`: this holds of all records.
-/

namespace TenantReports

open Json

/-! ### Fields -/

theorem valuesOf_of_not_mem {name : String} {members : List (Option String × Tree)}
    (absent : ∀ member ∈ members, member.1 ≠ some name) : valuesOf name members = [] :=
  List.filterMap_eq_nil_iff.mpr fun member among => if_neg (absent member among)

/-- The value under a name that no other member has. -/
theorem valuesOf_record {fields : List (String × Value)} (distinct : (fields.map (·.1)).Nodup)
    {field : String × Value} (member : field ∈ fields) :
    valuesOf field.1 (treesOfMembers fields) = [field.2.tree] := by
  induction fields with
  | nil => cases member
  | cons first fields ih =>
    obtain ⟨fresh, distinct⟩ := List.nodup_cons.mp distinct
    rw [treesOfMembers, valuesOf, List.filterMap_cons]
    rcases List.mem_cons.mp member with rfl | later
    · have others : valuesOf field.1 (treesOfMembers fields) = [] := by
        refine valuesOf_of_not_mem fun other among => ?_
        rw [treesOfMembers_eq_map] at among
        obtain ⟨original, own, rfl⟩ := List.mem_map.mp among
        exact fun same => fresh (List.mem_map.mpr ⟨original, own, Option.some.inj same⟩)
      simp only [if_true]
      exact congrArg _ others
    · have differs : first.1 ≠ field.1 := fun same =>
        fresh (List.mem_map.mpr ⟨field, later, same.symm⟩)
      simp only [Option.some.injEq, differs, if_false]
      exact ih distinct later

/-- **A record has its own fields**, in their order. -/
theorem fields?_record {names : List String} {fields : List (String × Value)}
    (named : fields.map (·.1) = names) (distinct : names.Nodup) :
    fields? names (record fields).tree = some (fields.map fun field => some field.2.tree) := by
  subst named
  have named : (treesOfMembers fields).all (fun member => member.1.isSome) = true := by
    rw [treesOfMembers_eq_map, List.all_map]
    exact List.all_eq_true.mpr fun _ _ => rfl
  rw [record, Value.tree, fields?, if_pos named, List.mapM_map]
  refine mapM_eq_some_map fun field member => ?_
  simp only [Function.comp_apply, valuesOf_record distinct member]

/-! ### Fields of a record -/

theorem legibleItems_map {α : Type} (toValue : α → Value) (legible : ∀ x, (toValue x).Legible)
    (items : List α) : LegibleItems (items.map toValue) := by
  induction items with
  | nil => trivial
  | cons item items ih => exact ⟨legible item, ih⟩

theorem legibleMembers_map {α : Type} (toMember : α → String × Value)
    (legible : ∀ x, (toMember x).2.Legible) (members : List α) :
    LegibleMembers (members.map toMember) := by
  induction members with
  | nil => trivial
  | cons member members ih => exact ⟨legible member, ih⟩

/-- Records that are read one by one are read as a list. -/
theorem list?_array {α : Type} {toValue : α → Value} {read : Tree → Option α}
    (reads : ∀ x, read (toValue x).tree = some x) (items : List α) :
    list? read (Value.array (items.map toValue)).tree = some items := by
  rw [Value.tree, list?, treesOf_eq_map, List.map_map, List.mapM_map]
  refine (mapM_eq_some_map fun item _ => reads item).trans ?_
  rw [List.map_id']

/-- A natural number of 64 bits is read back. -/
theorem word?_nat (n : UInt64) : word? (Value.nat n.toNat).tree = some n := by
  have value : Number.Decimal.significand ⟨false, Number.digits n.toNat, [], none⟩ = n.toNat := by
    rw [Number.Decimal.significand, List.append_nil, Number.accumulate_digits]
  have small : n.toNat < Number.bound64 := n.toNat_lt
  simp only [Value.nat, Value.tree, word?, List.isEmpty_nil, Bool.not_true, Bool.or_self,
    Option.isSome_none, Bool.false_eq_true, if_false, value, small, if_true, UInt64.ofNat_toNat]

/-- Strings by name are read back. -/
theorem strings?_object {toMember : String × String → String × Value}
    (written : ∀ entry, toMember entry = (entry.1, .string entry.2)) (strings : Keyed String) :
    strings? (Value.object (strings.entries.map toMember)).tree = some strings := by
  have members : treesOfMembers (strings.entries.map toMember) =
      strings.entries.map fun entry => (some entry.1, .string (some entry.2)) := by
    rw [treesOfMembers_eq_map, List.map_map]
    refine List.map_congr_left fun entry _ => ?_
    rw [Function.comp_apply, written]
    rfl
  rw [Value.tree, strings?, members, List.mapM_map]
  refine Option.bind_eq_some_iff.mpr ⟨strings.entries, ?_, congrArg some strings.ofList_entries⟩
  exact (mapM_eq_some_map fun _ _ => rfl).trans (congrArg some (List.map_id _))

/-! ### Forms -/

/-- How a record is written and how it is read. -/
structure Form (α : Type) where
  toValue : α → Value
  ofTree? : Tree → Option α

namespace Form

variable {α : Type} {form : Form α}

/-- The text of a record. -/
def text (form : Form α) (x : α) : String :=
  (form.toValue x).text

/-- The record that a text gives. -/
def ofText? (form : Form α) (s : String) : Option α :=
  (Json.ofText? s).bind form.ofTree?

/-- The record that octets give. -/
def ofOctets? (form : Form α) (bytes : List UInt8) : Option α :=
  (Json.ofOctets? bytes).bind form.ofTree?

/-- The text of a record anew, if a text gives one. -/
def rewrite? (form : Form α) (s : String) : Option String :=
  (form.ofText? s).map form.text

/-- **What is written is read.** -/
structure Kept (form : Form α) : Prop where
  legible : ∀ x, (form.toValue x).Legible
  reads : ∀ x, form.ofTree? (form.toValue x).tree = some x

theorem Kept.ofText?_text (kept : form.Kept) (x : α) : form.ofText? (form.text x) = some x := by
  rw [ofText?, text, Json.ofText?_text (kept.legible x), Option.bind_some, kept.reads]

theorem Kept.ofOctets?_text (kept : form.Kept) (x : α) :
    form.ofOctets? (Text.Utf8.ofString (form.text x)) = some x := by
  rw [ofOctets?, text, Json.ofOctets?_text (kept.legible x), Option.bind_some, kept.reads]

/-- **A record survives its text**, and so does one that was read from any text or any octets;
writing it anew changes the text at most once. -/
structure Survives (form : Form α) : Prop where
  text : ∀ x, form.ofText? (form.text x) = some x
  octets : ∀ x, form.ofOctets? (Text.Utf8.ofString (form.text x)) = some x
  anew : ∀ s x, form.ofText? s = some x → form.ofText? (form.text x) = some x
  octetsAnew : ∀ bytes x, form.ofOctets? bytes = some x →
    form.ofOctets? (Text.Utf8.ofString (form.text x)) = some x
  once : ∀ s s', form.rewrite? s = some s' → form.rewrite? s' = some s'

theorem Kept.survives (kept : form.Kept) : form.Survives where
  text := kept.ofText?_text
  octets := kept.ofOctets?_text
  anew _ x _ := kept.ofText?_text x
  octetsAnew _ x _ := kept.ofOctets?_text x
  once s s' written := by
    obtain ⟨x, -, rfl⟩ := Option.map_eq_some_iff.mp written
    rw [rewrite?, kept.ofText?_text, Option.map_some]

/-- **A record that is built from its fields is kept**: its names are distinct, and what its fields
give builds it. -/
theorem kept_of_fields {names : List String} {fields : α → List (String × Value)}
    {build : List (Option Tree) → Option α} (writes : ∀ x, form.toValue x = record (fields x))
    (reads : ∀ tree, form.ofTree? tree = (fields? names tree).bind build)
    (named : ∀ x, (fields x).map (·.1) = names) (distinct : names.Nodup)
    (legible : ∀ x, LegibleMembers (fields x))
    (builds : ∀ x, build ((fields x).map fun field => some field.2.tree) = some x) : form.Kept where
  legible x := by
    rw [writes]
    exact legible x
  reads x := by
    rw [reads, writes, fields?_record (named x) distinct, Option.bind_some, builds]

end Form

/-! ### The records -/

/-- The form of a condition. -/
def QueryFilter.form : Form QueryFilter :=
  ⟨toValue, ofTree?⟩

theorem QueryFilter.kept_form : form.Kept :=
  Form.kept_of_fields (fun _ => rfl) (fun _ => rfl) (fun _ => rfl) (by decide)
    (fun _ => ⟨trivial, trivial, trivial, trivial⟩) fun _ => rfl

/-- The form of a sort column. -/
def QueryOrder.form : Form QueryOrder :=
  ⟨toValue, ofTree?⟩

theorem QueryOrder.kept_form : form.Kept :=
  Form.kept_of_fields (fun _ => rfl) (fun _ => rfl) (fun _ => rfl) (by decide)
    (fun _ => ⟨trivial, trivial, trivial, trivial⟩) fun _ => rfl

/-- The form of a table's query. -/
def QueryTable.form : Form QueryTable :=
  ⟨toValue, ofTree?⟩

theorem QueryTable.kept_form : form.Kept := by
  refine Form.kept_of_fields (fun _ => rfl) (fun _ => rfl) (fun _ => rfl) (by decide) ?_ ?_
  · intro table
    exact ⟨trivial, trivial, legibleItems_map _ QueryFilter.kept_form.legible _,
      legibleItems_map .string (fun _ => trivial) _,
      legibleItems_map _ QueryOrder.kept_form.legible _, legible_digits _, trivial⟩
  · intro table
    have filters : list? QueryFilter.ofTree?
        (Value.array (table.filters.map QueryFilter.toValue)).tree = some table.filters :=
      list?_array QueryFilter.kept_form.reads table.filters
    have columns : list? string? (Value.array (table.columns.map .string)).tree =
        some table.columns :=
      list?_array (fun _ => rfl) table.columns
    have order : list? QueryOrder.ofTree?
        (Value.array (table.order.map QueryOrder.toValue)).tree = some table.order :=
      list?_array QueryOrder.kept_form.reads table.order
    simp only [List.map_cons, List.map_nil, orDefault, filters, columns, order, word?_nat]
    rfl

/-- The form of a query. -/
def TableQuery.form : Form TableQuery :=
  ⟨toValue, ofTree?⟩

theorem TableQuery.kept_form : form.Kept := by
  refine Form.kept_of_fields (fun _ => rfl) (fun _ => rfl) (fun _ => rfl) (by decide) ?_ ?_
  · intro query
    exact ⟨legibleItems_map _ QueryTable.kept_form.legible _, trivial⟩
  · intro query
    have tables : list? QueryTable.ofTree?
        (Value.array (query.tables.map QueryTable.toValue)).tree = some query.tables :=
      list?_array QueryTable.kept_form.reads query.tables
    simp only [List.map_cons, List.map_nil, orDefault, tables]
    rfl

/-- The form of a request for a report. -/
def ReportRequest.form : Form ReportRequest :=
  ⟨toValue, ofTree?⟩

theorem ReportRequest.kept_form : form.Kept := by
  refine Form.kept_of_fields (fun _ => rfl) (fun _ => rfl) (fun _ => rfl) (by decide) ?_ ?_
  · intro request
    refine ⟨trivial, legibleMembers_map _ ?_ _, legible_digits _, trivial⟩
    exact fun _ => trivial
  · intro request
    simp only [List.map_cons, List.map_nil, orDefault, strings?_object (fun _ => rfl), word?_nat]
    rfl

/-- The form of a table's name. -/
def TableRef.form : Form TableRef :=
  ⟨toValue, ofTree?⟩

theorem TableRef.kept_form : form.Kept :=
  Form.kept_of_fields (fun _ => rfl) (fun _ => rfl) (fun _ => rfl) (by decide)
    (fun _ => ⟨trivial, trivial, trivial⟩) fun _ => rfl

/-- The form of a column. -/
def ColumnDescriptor.form : Form ColumnDescriptor :=
  ⟨toValue, ofTree?⟩

theorem ColumnDescriptor.kept_form : form.Kept :=
  Form.kept_of_fields (fun _ => rfl) (fun _ => rfl) (fun _ => rfl) (by decide)
    (fun _ => ⟨trivial, trivial, trivial, trivial, trivial, trivial⟩) fun _ => rfl

/-- The form of an entry of the log. -/
def LogEntry.form : Form LogEntry :=
  ⟨toValue, ofTree?⟩

theorem LogEntry.kept_form : form.Kept :=
  Form.kept_of_fields (fun _ => rfl) (fun _ => rfl) (fun _ => rfl) (by decide)
    (fun _ => ⟨trivial, trivial, trivial, trivial⟩) fun _ => rfl

/-- The form of a version. -/
def DbVersion.form : Form DbVersion :=
  ⟨toValue, ofTree?⟩

theorem DbVersion.kept_form : form.Kept :=
  Form.kept_of_fields (fun _ => rfl) (fun _ => rfl) (fun _ => rfl) (by decide)
    (fun _ => ⟨trivial, trivial, trivial⟩) fun _ => rfl

/-- The form of a process. -/
def DbProcess.form : Form DbProcess :=
  ⟨toValue, ofTree?⟩

theorem DbProcess.kept_form : form.Kept :=
  Form.kept_of_fields (fun _ => rfl) (fun _ => rfl) (fun _ => rfl) (by decide)
    (fun _ => ⟨trivial, trivial, trivial, trivial, trivial, trivial⟩) fun _ => rfl

/-- **All records survive their texts**, those that callers send and those that the gateway sends,
in both directions and whatever their strings are. -/
theorem survives_records :
    TableQuery.form.Survives ∧ ReportRequest.form.Survives ∧ ColumnDescriptor.form.Survives ∧
      TableRef.form.Survives ∧ LogEntry.form.Survives ∧ DbVersion.form.Survives ∧
      DbProcess.form.Survives :=
  ⟨TableQuery.kept_form.survives, ReportRequest.kept_form.survives,
    ColumnDescriptor.kept_form.survives, TableRef.kept_form.survives, LogEntry.kept_form.survives,
    DbVersion.kept_form.survives, DbProcess.kept_form.survives⟩

example : ReportRequest.form.rewrite?
      " [\"\\u00e9\\n\", \x7b\"b\":\"1\", \"a\":\"2\", \"b\":\"\\\"\"\x7d] " =
    some ("\x7b\"url\":\"é\\n\",\"params\":\x7b\"a\":\"2\",\"b\":\"\\\"\"\x7d," ++
      "\"limit\":0\x7d") := by
  decide +kernel

end TenantReports

import Mathlib.Data.List.Infix
import TenantReports.Proofs.Postgres.Marks
import TenantReports.Proofs.Query.Binding
import TenantReports.Report.Prepared

/-!
# Casts in the statements of queries and calls

**In a statement that a query or a call gives, the casts change the placeholders and nothing else.**

A statement is cut into pieces, each of which begins with the sign that sets it apart from the piece
before. A reader of the statement is back in code between any two of them.

* `Becomes`: what a piece becomes, whatever follows it.
* `becomes_harmless`, `becomes_quoted`, `becomes_placeholder`: the three kinds of pieces.
* `Becomes.append`, `becomes_intercalate`: pieces one after another.
* `castPlaceholders_statement`, `castPlaceholders_invocation`: whole statements.
* `casts_only_placeholders`: so it is for every query that compiles and for every call.
-/

namespace TenantReports

open Postgres

variable {inferred : List String}

/-! ### Signs that set pieces apart -/

/-- A sign that sets apart what stands before it from what follows. -/
def isSeparator (c : Char) : Bool :=
  [' ', ',', '(', ')', '.'].contains c

/-- Nothing follows, or a sign that sets it apart. -/
def Apart (rest : List Char) : Prop :=
  ∀ c ∈ rest.head?, isSeparator c = true

theorem apart_nil : Apart [] :=
  fun _ member => nomatch member

theorem apart_cons {c : Char} (separator : isSeparator c = true) (rest : List Char) :
    Apart (c :: rest) := by
  intro first same
  cases same
  exact separator

theorem Apart.append {s rest : List Char} (first : Apart s) (second : Apart rest) :
    Apart (s ++ rest) := by
  cases s with
  | nil => exact second
  | cons c s => exact first

/-- A separator is one of five characters. -/
theorem separator_cases {c : Char} (separator : isSeparator c = true) :
    c = ' ' ∨ c = ',' ∨ c = '(' ∨ c = ')' ∨ c = '.' := by
  simpa [isSeparator] using separator

/-- After a separator the reader stands in code, whatever came before. -/
theorem placeAfter_separator {c : Char} (separator : isSeparator c = true)
    (previous : Option Char) : placeAfter previous c = .code (some c) := by
  obtain rfl | rfl | rfl | rfl | rfl := separator_cases separator <;> rfl

theorem not_isDigit_of_separator {c : Char} (separator : isSeparator c = true) :
    c.isDigit = false := by
  obtain rfl | rfl | rfl | rfl | rfl := separator_cases separator <;> rfl

/-- No character means anything else after a separator than at the start. -/
theorem placeAfter_of_separator {c : Char} (separator : isSeparator c = true) (next : Char) :
    placeAfter (some c) next = placeAfter none next := by
  have notDash : (some c == some '-') = false := by
    obtain rfl | rfl | rfl | rfl | rfl := separator_cases separator <;> rfl
  have notSlash : (some c == some '/') = false := by
    obtain rfl | rfl | rfl | rfl | rfl := separator_cases separator <;> rfl
  have noName : (some c).any continuesName = none.any continuesName := by
    obtain rfl | rfl | rfl | rfl | rfl := separator_cases separator <;> rfl
  unfold placeAfter
  rw [notDash, notSlash, noName]
  rfl

/-- A text that is set apart is read as from the start of code. -/
theorem castFrom_of_apart {rest : List Char} (apart : Apart rest) (previous : Option Char) :
    castFrom inferred (.code previous) rest = castFrom inferred (.code none) rest := by
  cases rest with
  | nil => rfl
  | cons c rest =>
    have separator := apart c rfl
    simp only [castFrom, castStep, placeAfter_separator separator]

/-- What follows a separator is read as from the start of code. -/
theorem castFrom_after_separator {c : Char} (separator : isSeparator c = true)
    (rest : List Char) :
    castFrom inferred (.code (some c)) rest = castFrom inferred (.code none) rest := by
  cases rest with
  | nil => rfl
  | cons next rest => simp only [castFrom, castStep, placeAfter_of_separator separator]

/-- A placeholder ends before a text that is set apart, and has its cast there. -/
theorem castFrom_placeholder {rest : List Char} (apart : Apart rest) (reversed : List Char) :
    castFrom inferred (.placeholder reversed) rest =
      castAfter inferred reversed.reverse ++ castFrom inferred (.code none) rest := by
  cases rest with
  | nil => exact (List.append_nil _).symm
  | cons c rest =>
    have separator := apart c rfl
    simp only [castFrom, castStep, not_isDigit_of_separator separator,
      placeAfter_separator separator, Bool.false_eq_true, if_false, List.nil_append]

/-! ### Pieces of a statement -/

/-- A piece becomes `out`, if what follows is set apart from it. -/
def Becomes (inferred : List String) (piece out : String) : Prop :=
  ∀ rest, Apart rest →
    castFrom inferred (.code none) (piece.toList ++ rest) =
      out.toList ++ castFrom inferred (.code none) rest

/-- **What a whole text becomes.** -/
theorem Becomes.castPlaceholders {piece out : String} (becomes : Becomes inferred piece out) :
    castPlaceholders piece inferred = out := by
  have whole := becomes [] apart_nil
  rw [List.append_nil] at whole
  unfold Postgres.castPlaceholders
  rw [whole]
  exact (congrArg String.ofList (List.append_nil out.toList)).trans String.ofList_toList

/-- Pieces that are set apart become what each of them does. -/
theorem Becomes.append {first out next outNext : String} (becomes : Becomes inferred first out)
    (second : Becomes inferred next outNext) (apart : Apart next.toList) :
    Becomes inferred (first ++ next) (out ++ outNext) := by
  intro rest follows
  rw [String.toList_append, String.toList_append, List.append_assoc, List.append_assoc,
    becomes _ (apart.append follows), second rest follows]

/-! ### Texts that a statement takes as they are -/

/-- No quote, no dollar sign and no beginning of a comment. -/
structure Harmless (text : String) : Prop where
  unquoted : '\'' ∉ text.toList ∧ '"' ∉ text.toList
  undollared : '$' ∉ text.toList
  noLineComment : ¬['-', '-'] <:+: text.toList
  noBlockComment : ¬['/', '*'] <:+: text.toList

instance (text : String) : Decidable (Harmless text) :=
  decidable_of_iff
    (('\'' ∉ text.toList ∧ '"' ∉ text.toList) ∧ '$' ∉ text.toList ∧
      ¬['-', '-'] <:+: text.toList ∧ ¬['/', '*'] <:+: text.toList)
    ⟨fun all => ⟨all.1, all.2.1, all.2.2.1, all.2.2.2⟩, fun harmless =>
      ⟨harmless.unquoted, harmless.undollared, harmless.noLineComment, harmless.noBlockComment⟩⟩

/-- **The reader of a harmless text stays in code**, where the text begins no comment together with
the character before it. -/
theorem castFrom_harmless {s : List Char} (previous : Option Char)
    (plain : ∀ c ∈ s, c ≠ '\'' ∧ c ≠ '"' ∧ c ≠ '$')
    (line : ¬['-', '-'] <:+: previous.toList ++ s) (block : ¬['/', '*'] <:+: previous.toList ++ s)
    (rest : List Char) :
    castFrom inferred (.code previous) (s ++ rest) =
      s ++ castFrom inferred (.code (s.getLast?.or previous)) rest := by
  induction s generalizing previous with
  | nil => rfl
  | cons c s ih =>
    obtain ⟨first, others⟩ := List.forall_mem_cons.mp plain
    have next : placeAfter previous c = .code (some c) := by
      refine placeAfter_plain first ?_ ?_
      · rintro ⟨rfl, rfl⟩
        exact line ⟨[], s, rfl⟩
      · rintro ⟨rfl, rfl⟩
        exact block ⟨[], s, rfl⟩
    have inside : (some c).toList ++ s <:+: previous.toList ++ c :: s :=
      (List.suffix_append _ _).isInfix
    have last : (c :: s).getLast?.or previous = s.getLast?.or (some c) := by
      rw [List.getLast?_cons]
      cases s.getLast? <;> rfl
    rw [last, List.cons_append, List.cons_append,
      ← ih (some c) others (fun found => line (found.trans inside))
        fun found => block (found.trans inside)]
    simp only [castFrom, castStep, next, List.nil_append]

theorem Harmless.castFrom {text : String} (harmless : Harmless text) (rest : List Char) :
    castFrom inferred (.code none) (text.toList ++ rest) =
      text.toList ++ castFrom inferred (.code text.toList.getLast?) rest := by
  have plain : ∀ c ∈ text.toList, c ≠ '\'' ∧ c ≠ '"' ∧ c ≠ '$' := fun c member =>
    ⟨fun same => harmless.unquoted.1 (same ▸ member),
      fun same => harmless.unquoted.2 (same ▸ member),
      fun same => harmless.undollared (same ▸ member)⟩
  rw [castFrom_harmless none plain harmless.noLineComment harmless.noBlockComment rest,
    Option.or_none]

/-- **A harmless text stays as it is.** -/
theorem becomes_harmless (inferred : List String) {text : String} (harmless : Harmless text) :
    Becomes inferred text text := by
  intro rest apart
  rw [harmless.castFrom, castFrom_of_apart apart]

theorem becomes_empty (inferred : List String) : Becomes inferred "" "" :=
  becomes_harmless inferred (by decide)

/-- A harmless text that sets apart what follows it. -/
structure SetsApart (text : String) : Prop where
  harmless : Harmless text
  ends : text.toList.getLast?.any isSeparator = true

instance (text : String) : Decidable (SetsApart text) :=
  decidable_of_iff (Harmless text ∧ text.toList.getLast?.any isSeparator = true)
    ⟨fun both => ⟨both.1, both.2⟩, fun sets => ⟨sets.harmless, sets.ends⟩⟩

/-- **So does one that sets apart what follows it**, whatever that is. -/
theorem Becomes.after {text next out : String} (becomes : Becomes inferred next out)
    (sets : SetsApart text) : Becomes inferred (text ++ next) (text ++ out) := by
  have ends := sets.ends
  intro rest apart
  rw [String.toList_append, String.toList_append, List.append_assoc, List.append_assoc,
    sets.harmless.castFrom]
  cases last : text.toList.getLast? with
  | none =>
    rw [last] at ends
    cases ends
  | some c =>
    rw [last] at ends
    rw [castFrom_after_separator ends, becomes rest apart]

/-- The reader of a quoted name stays in it up to the next quote. -/
theorem castFrom_quotedName {s : List Char} (unquoted : '"' ∉ s) (rest : List Char) :
    castFrom inferred .quotedName (s ++ '"' :: rest) =
      s ++ '"' :: castFrom inferred (.code (some '"')) rest := by
  induction s with
  | nil => rfl
  | cons c s ih =>
    obtain ⟨other, others⟩ := List.ne_and_not_mem_of_not_mem_cons unquoted
    have inside : (c == '"') = false := by simpa using Ne.symm other
    simp only [List.cons_append, castFrom, castStep, inside, Bool.false_eq_true, if_false,
      List.nil_append, ih others]

/-- A name between quotes. -/
def quotedName (name : String) : String :=
  "\"" ++ name ++ "\""

/-- **A quoted name stays as it is**, whatever stands in it. -/
theorem becomes_quoted (inferred : List String) {name : String} (unquoted : '"' ∉ name.toList) :
    Becomes inferred (quotedName name) (quotedName name) := by
  intro rest apart
  have inner : castFrom inferred .quotedName (name.toList ++ '"' :: rest) = _ :=
    castFrom_quotedName unquoted rest
  rw [castFrom_of_apart apart] at inner
  unfold quotedName
  rw [String.toList_append, String.toList_append]
  simp only [List.append_assoc]
  exact congrArg ('"' :: ·) inner

theorem decimal_toList (number : Nat) :
    (Number.decimal number).toList = Number.digits number :=
  String.toList_ofList

/-- The reader of a placeholder collects its digits. -/
theorem castFrom_digits {s : List Char} (digits : ∀ c ∈ s, c.isDigit = true)
    (reversed rest : List Char) :
    castFrom inferred (.placeholder reversed) (s ++ rest) =
      s ++ castFrom inferred (.placeholder (s.reverse ++ reversed)) rest := by
  induction s generalizing reversed with
  | nil => rfl
  | cons c s ih =>
    obtain ⟨first, others⟩ := List.forall_mem_cons.mp digits
    simp only [List.cons_append, castFrom, castStep, first, if_true, List.nil_append,
      ih others, List.reverse_cons, List.append_assoc]

/-- **A placeholder gets the cast of its number.** -/
theorem becomes_placeholder (inferred : List String) (number : Nat) :
    Becomes inferred ("$" ++ Number.decimal number)
      ("$" ++ Number.decimal number ++ castOf inferred number) := by
  intro rest apart
  have numeral : ∀ c ∈ Number.digits number, c.isDigit = true :=
    fun c member => Number.isDigit_of_mem_digits member
  have cast : castAfter inferred (Number.digits number) = (castOf inferred number).toList := by
    rw [castAfter_eq_castOf, numberOf_digits]
  rw [String.toList_append, String.toList_append, String.toList_append, ← cast,
    decimal_toList]
  cases shown : Number.digits number with
  | nil => exact absurd shown Nat.toDigits_ne_nil
  | cons c s =>
    rw [shown] at numeral
    obtain ⟨first, others⟩ := List.forall_mem_cons.mp numeral
    have tail : castFrom inferred (.placeholder [c]) (s ++ rest) = _ :=
      castFrom_digits others [c] rest
    rw [castFrom_placeholder apart, List.reverse_append, List.reverse_reverse] at tail
    have dollar : castFrom inferred (.code none) ('$' :: c :: (s ++ rest)) =
        '$' :: c :: castFrom inferred (.placeholder [c]) (s ++ rest) := by
      simp only [castFrom, castStep, placeAfter, first]
      rfl
    rw [tail] at dollar
    simpa using dollar

/-! ### Pieces one after another -/

/-- Only nothing becomes nothing. -/
theorem Becomes.isEmpty {piece out : String} (becomes : Becomes inferred piece out) :
    piece.isEmpty = out.isEmpty := by
  have whole := becomes [] apart_nil
  rw [List.append_nil] at whole
  rw [Bool.eq_iff_iff, String.isEmpty_iff, String.isEmpty_iff, ← String.toList_inj,
    ← String.toList_inj]
  cases first : piece.toList with
  | nil =>
    rw [first] at whole
    exact iff_of_true rfl (List.append_eq_nil_iff.mp whole.symm).1
  | cons c s =>
    refine iff_of_false (List.cons_ne_nil c s) fun empty => ?_
    rw [first, empty] at whole
    simp [castFrom] at whole

/-- A text that begins with a separator, whatever follows it. -/
theorem apart_append {text : String} (begins : text.toList.head?.any isSeparator = true)
    (next : String) : Apart (text ++ next).toList := by
  rw [String.toList_append]
  cases first : text.toList with
  | nil =>
    rw [first] at begins
    cases begins
  | cons c s =>
    rw [first] at begins
    exact apart_cons begins _

/-- A text that stands between two pieces and sets both apart. -/
structure Separates (text : String) : Prop extends SetsApart text where
  begins : text.toList.head?.any isSeparator = true

instance (text : String) : Decidable (Separates text) :=
  decidable_of_iff (SetsApart text ∧ text.toList.head?.any isSeparator = true)
    ⟨fun both => ⟨both.1, both.2⟩, fun between => ⟨between.toSetsApart, between.begins⟩⟩

/-- Two pieces with a text between them. -/
theorem Becomes.between {first out next outNext text : String}
    (becomes : Becomes inferred first out) (follows : Becomes inferred next outNext)
    (between : Separates text) :
    Becomes inferred (first ++ (text ++ next)) (out ++ (text ++ outNext)) :=
  becomes.append (follows.after between.toSetsApart) (apart_append between.begins next)

/-- **A list of pieces becomes the list of what they become.** -/
theorem becomes_intercalate {α : Type} {text : String} {piece out : α → String} {items : List α}
    (between : Separates text) (all : ∀ item ∈ items, Becomes inferred (piece item) (out item)) :
    Becomes inferred (text.intercalate (items.map piece)) (text.intercalate (items.map out)) := by
  induction items with
  | nil => exact becomes_empty inferred
  | cons item items ih =>
    obtain ⟨first, others⟩ := List.forall_mem_cons.mp all
    cases items with
    | nil => exact first
    | cons second items =>
      simp only [List.map_cons, String.intercalate_cons_cons, String.append_assoc]
      exact first.between (ih others) between

/-- A clause that is left out with its keyword when it is empty. -/
theorem Becomes.clauseAfter {keyword rest out : String} (becomes : Becomes inferred rest out)
    (between : Separates keyword) :
    Becomes inferred (clauseAfter keyword rest) (clauseAfter keyword out) := by
  unfold TenantReports.clauseAfter
  rw [becomes.isEmpty]
  cases out.isEmpty with
  | true => exact becomes_empty inferred
  | false => exact becomes.after between.toSetsApart

theorem apart_clauseAfter {keyword : String} (between : Separates keyword) (rest : String) :
    Apart (clauseAfter keyword rest).toList := by
  unfold clauseAfter
  cases rest.isEmpty with
  | true => exact apart_nil
  | false => exact apart_append between.begins rest

/-! ### Lists and limits -/

theorem separates_comma : Separates ", " := by decide +kernel

theorem separates_space : Separates " " := by decide +kernel

theorem separates_limit : Separates " LIMIT " := by decide +kernel

/-- A number in decimal is harmless. -/
theorem harmless_decimal (number : Nat) : Harmless (Number.decimal number) := by
  have absent : ∀ c, c.isDigit = false → c ∉ (Number.decimal number).toList := by
    intro c other member
    rw [decimal_toList] at member
    rw [Number.isDigit_of_mem_digits member] at other
    cases other
  exact ⟨⟨absent _ rfl, absent _ rfl⟩, absent _ rfl,
    fun found => absent '-' rfl (found.subset List.mem_cons_self),
    fun found => absent '/' rfl (found.subset List.mem_cons_self)⟩

theorem becomes_limitClause (inferred : List String) (limit : UInt64) :
    Becomes inferred (limitClause limit) (limitClause limit) := by
  unfold limitClause
  split
  · exact becomes_empty inferred
  · exact (becomes_harmless inferred (harmless_decimal _)).after separates_limit.toSetsApart

theorem apart_limitClause (limit : UInt64) : Apart (limitClause limit).toList := by
  unfold limitClause
  split
  · exact apart_nil
  · exact apart_append separates_limit.begins _

/-- The columns that a query selects stay, if all of them are harmless. -/
theorem becomes_selectList (inferred : List String) {columns : List String}
    (harmless : ∀ column ∈ columns, Harmless column) :
    Becomes inferred (selectList columns) (selectList columns) := by
  unfold selectList
  split
  · exact becomes_harmless inferred (by decide)
  · have list : Becomes inferred (", ".intercalate (columns.map id))
        (", ".intercalate (columns.map id)) :=
      becomes_intercalate separates_comma fun column member =>
        becomes_harmless inferred (harmless column member)
    rwa [List.map_id] at list

/-! ### Statements of queries -/

/-- What a query on a table takes into its statement as it is has no meaning of its own there. The
names of the schema and of the table stand between quotes and may hold anything but a double quote;
what is left out of the statement does not count. -/
structure QueryTable.Harmless (table : QueryTable) : Prop where
  schema : '"' ∉ table.schema.toList
  name : '"' ∉ table.name.toList
  columns : ∀ column ∈ table.columns, TenantReports.Harmless column
  filters : ∀ filter ∈ table.filters, filter.key ≠ "" →
    TenantReports.Harmless filter.key ∧ TenantReports.Harmless filter.op
  order : ∀ order ∈ table.order, order.key ≠ "" →
    TenantReports.Harmless order.key ∧ TenantReports.Harmless order.direction

/-- The clause of a filter gets the cast of its number. -/
theorem becomes_clause (inferred : List String) {filter : QueryFilter} (key : Harmless filter.key)
    (op : Harmless filter.op) (number : Nat) :
    Becomes inferred (filter.clause number)
      (filter.clause number ++ castOf inferred number) := by
  have operator : Harmless filter.operator := by
    unfold QueryFilter.operator
    split
    · decide
    · exact op
  have compared := (becomes_harmless inferred operator).between
    (becomes_placeholder inferred number) separates_space
  have whole := (becomes_harmless inferred key).between compared separates_space
  have pieces : filter.clause number =
      filter.key ++ (" " ++ (filter.operator ++ (" " ++ ("$" ++ Number.decimal number)))) := by
    simp [QueryFilter.clause, ← String.toList_inj]
  rw [pieces]
  simpa only [String.append_assoc] using whole

/-- The clause of a column to sort by stays. -/
theorem becomes_order (inferred : List String) {order : QueryOrder} (key : Harmless order.key)
    (direction : Harmless order.direction) : Becomes inferred order.clause order.clause := by
  have nulls : Harmless order.nullsPlace := by
    unfold QueryOrder.nullsPlace
    split <;> decide +kernel
  have keyword : Separates " NULLS " := by decide +kernel
  have placed := (becomes_harmless inferred direction).between (becomes_harmless inferred nulls)
    keyword
  have whole := (becomes_harmless inferred key).between placed separates_space
  simpa only [QueryOrder.clause, String.append_assoc] using whole

theorem becomes_orderList (inferred : List String) {table : QueryTable}
    (harmless : table.Harmless) :
    Becomes inferred (orderList table.order) (orderList table.order) := by
  refine becomes_intercalate separates_comma fun order member => ?_
  obtain ⟨member, keyed⟩ := List.mem_filter.mp member
  obtain ⟨key, direction⟩ := harmless.order order member (by simpa using keyed)
  exact becomes_order inferred key direction

/-- The conditions of a query get the casts of their numbers. -/
theorem becomes_conditions (inferred : List String) {table : QueryTable}
    (harmless : table.Harmless) :
    Becomes inferred
      (" AND ".intercalate (table.numbered.map fun entry => entry.1.clause entry.2))
      (" AND ".intercalate
        (table.numbered.map fun entry => entry.1.clause entry.2 ++ castOf inferred entry.2)) := by
  refine becomes_intercalate (by decide +kernel) fun entry member => ?_
  obtain ⟨-, found, keyed⟩ := mem_numberedFrom.mp member
  obtain ⟨key, op⟩ := harmless.filters entry.1 (List.mem_of_getElem? found) keyed
  exact becomes_clause inferred key op entry.2

/-- The tables that a statement selects from, and the columns it selects. -/
theorem becomes_selection (inferred : List String) {table : QueryTable}
    (harmless : table.Harmless) :
    Becomes inferred
      ("SELECT " ++ (selectList table.columns ++
        (" FROM " ++ (quotedName table.schema ++ ("." ++ quotedName table.name)))))
      ("SELECT " ++ (selectList table.columns ++
        (" FROM " ++ (quotedName table.schema ++ ("." ++ quotedName table.name))))) := by
  have names := (becomes_quoted inferred harmless.schema).between
    (becomes_quoted inferred harmless.name) (by decide +kernel : Separates ".")
  have chosen := (becomes_selectList inferred harmless.columns).between names
    (by decide +kernel : Separates " FROM ")
  exact chosen.after (by decide +kernel : SetsApart "SELECT ")

/-- A statement in pieces. -/
theorem statement_pieces (table : QueryTable) (clauses : List String) :
    table.statement clauses =
      "SELECT " ++ (selectList table.columns ++
        (" FROM " ++ (quotedName table.schema ++ ("." ++ quotedName table.name)))) ++
      clauseAfter " WHERE " (" AND ".intercalate clauses) ++
      clauseAfter " ORDER BY " (orderList table.order) ++ limitClause table.limit := by
  have first : " FROM \"".toList = " FROM ".toList ++ "\"".toList := by decide +kernel
  have second : "\".\"".toList = "\"".toList ++ (".".toList ++ "\"".toList) := by decide +kernel
  unfold QueryTable.statement quotedName
  apply String.toList_inj.mp
  simp only [String.toList_append, first, second, List.append_assoc]

/-- **What the statement of a query becomes**: its filters get the casts of their numbers. -/
theorem castPlaceholders_statement (inferred : List String) {table : QueryTable}
    (harmless : table.Harmless) :
    castPlaceholders
        (table.statement (table.numbered.map fun entry => entry.1.clause entry.2)) inferred =
      table.statement
        (table.numbered.map fun entry => entry.1.clause entry.2 ++ castOf inferred entry.2) := by
  have where' : Separates " WHERE " := by decide +kernel
  have orderBy : Separates " ORDER BY " := by decide +kernel
  have filtered := (becomes_selection inferred harmless).append
    ((becomes_conditions inferred harmless).clauseAfter where') (apart_clauseAfter where' _)
  have sorted := filtered.append ((becomes_orderList inferred harmless).clauseAfter orderBy)
    (apart_clauseAfter orderBy _)
  have limited := sorted.append (becomes_limitClause inferred table.limit) (apart_limitClause _)
  rw [statement_pieces, statement_pieces]
  exact limited.castPlaceholders

/-! ### Statements of calls -/

/-- The arguments of a call are numbered in the order of their names. -/
theorem arguments_eq_map (number : Nat) (names : List String) :
    arguments number names =
      (names.zipIdx number).map fun entry => argument entry.2 entry.1 := by
  induction names generalizing number with
  | nil => rfl
  | cons name names ih =>
    rw [arguments, ih, List.zipIdx_cons]
    rfl

/-- An argument gets the cast of its number. -/
theorem becomes_argument (inferred : List String) {name : String} (harmless : Harmless name)
    (number : Nat) :
    Becomes inferred (argument number name) (argument number name ++ castOf inferred number) := by
  have whole := (becomes_harmless inferred harmless).between (becomes_placeholder inferred number)
    (by decide +kernel : Separates " => ")
  have pieces : argument number name = name ++ (" => " ++ ("$" ++ Number.decimal number)) := by
    simp [argument, ← String.toList_inj]
  rw [pieces]
  simpa only [String.append_assoc] using whole

/-- **What the statement of a call becomes**: its arguments get the casts of their numbers. -/
theorem castPlaceholders_invocation (inferred : List String) {function : String}
    {params : Keyed String} (limit : UInt64) (harmless : Harmless function)
    (names : ∀ name ∈ params.entries.map (·.1), Harmless name) :
    castPlaceholders (invocation function params limit).sql inferred =
      "SELECT * FROM " ++ function ++ "(" ++
        String.intercalate ", " (((params.entries.map (·.1)).zipIdx 1).map fun entry =>
          argument entry.2 entry.1 ++ castOf inferred entry.2) ++ ")" ++ limitClause limit := by
  have list : Becomes inferred
      (", ".intercalate (arguments 1 (params.entries.map (·.1))))
      (", ".intercalate (((params.entries.map (·.1)).zipIdx 1).map fun entry =>
        argument entry.2 entry.1 ++ castOf inferred entry.2)) := by
    rw [arguments_eq_map]
    refine becomes_intercalate separates_comma fun entry member => ?_
    obtain ⟨-, found⟩ := List.mk_mem_zipIdx_iff_le_and_getElem?_sub.mp member
    exact becomes_argument inferred (names entry.1 (List.mem_of_getElem? found)) entry.2
  have select : SetsApart "SELECT * FROM " := by decide +kernel
  have called := ((becomes_harmless inferred harmless).between list
    (by decide +kernel : Separates "(")).after select
  have limited := called.between (becomes_limitClause inferred limit)
    (by decide +kernel : Separates ")")
  have pieces (arguments : String) :
      "SELECT * FROM " ++ function ++ "(" ++ arguments ++ ")" ++ limitClause limit =
        "SELECT * FROM " ++ (function ++ ("(" ++ arguments)) ++ (")" ++ limitClause limit) :=
    String.toList_inj.mp (by simp only [String.toList_append, List.append_assoc])
  unfold invocation
  rw [pieces, pieces]
  exact limited.castPlaceholders

/-! ### Every statement -/

/-- **In a generated statement the casts change the placeholders and nothing else.** A call gets
after its `k`-th argument the cast of the `k`-th type, and keeps its limit. A query that compiles
gets after the placeholder of each filter the cast of the type of that number, whatever stands in
the names of its schema and its table. -/
theorem casts_only_placeholders (inferred : List String) :
    (∀ (function : String) (params : Keyed String) (limit : UInt64),
      Harmless function → (∀ name ∈ params.entries.map (·.1), Harmless name) →
        castPlaceholders (invocation function params limit).sql inferred =
          "SELECT * FROM " ++ function ++ "(" ++
            String.intercalate ", " (((params.entries.map (·.1)).zipIdx 1).map fun entry =>
              argument entry.2 entry.1 ++ castOf inferred entry.2) ++ ")" ++ limitClause limit) ∧
    (∀ (query : TableQuery) (columns : List ColumnDescriptor) (compiled : CompiledQuery),
      compile query columns = .ok compiled →
        ∃ table, query.tables = [table] ∧
          compiled.sql =
            table.statement (table.numbered.map fun entry => entry.1.clause entry.2) ∧
          (table.Harmless → castPlaceholders compiled.sql inferred =
            table.statement (table.numbered.map fun entry =>
              entry.1.clause entry.2 ++ castOf inferred entry.2))) := by
  refine ⟨fun function params limit harmless names =>
    castPlaceholders_invocation inferred limit harmless names,
    fun query columns compiled done => ?_⟩
  obtain ⟨table, only, -, sql, -⟩ := compile_eq_ok_iff.mp done
  refine ⟨table, only, sql, fun harmless => ?_⟩
  rw [sql]
  exact castPlaceholders_statement inferred harmless

/-- A table whose names look like code, with a filter whose number has two digits. -/
def tenthFilter : QueryTable :=
  ⟨"it's", "-- $1", List.replicate 9 ⟨"", "", ""⟩ ++ [⟨"barcode", "", "a"⟩], [], [], 5⟩

/-- The types of ten parameters, of which only the last needs a cast. -/
def tenTypes : List String :=
  List.replicate 9 "TEXT" ++ ["UUID"]

theorem casts_only_placeholders_tenth :
    castPlaceholders "SELECT * FROM \"it's\".\"-- $1\" WHERE barcode = $10 LIMIT 5" tenTypes =
        "SELECT * FROM \"it's\".\"-- $1\" WHERE barcode = $10::uuid LIMIT 5" ∧
      castPlaceholders "SELECT * FROM count_loans(since => $1)" ["DATE"] =
        "SELECT * FROM count_loans(since => $1::date)" := by
  constructor
  · have done : compile ⟨[tenthFilter]⟩ someColumns = .ok
        ⟨"SELECT * FROM \"it's\".\"-- $1\" WHERE barcode = $10 LIMIT 5", ["a"]⟩ := by
      decide +kernel
    obtain ⟨table, only, -, casts⟩ := (casts_only_placeholders tenTypes).2 _ _ _ done
    cases only
    have harmless : tenthFilter.Harmless :=
      ⟨by decide +kernel, by decide +kernel, by decide +kernel, by decide +kernel,
        by decide +kernel⟩
    exact (casts harmless).trans (by decide +kernel)
  · have call := (casts_only_placeholders ["DATE"]).1 "count_loans"
      (Keyed.empty.insert "since" "2024-01-01") 0 (by decide +kernel) (by decide +kernel)
    exact call.trans (by decide +kernel)

end TenantReports

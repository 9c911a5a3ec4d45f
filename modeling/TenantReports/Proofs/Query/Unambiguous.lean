import TenantReports.Proofs.Query.Binding
import TenantReports.Proofs.Text.Pieces

/-!
# A statement tells the query

**Two queries that compile to the same statement with the same values ask for the same**, if their
names cannot be mistaken for the text around them.

* `QueryTable.Legible`: names without the characters that end them in the text.
* `QueryTable.Agrees`: queries on a table that ask for the same.
* `letters_statement`: the quoted names come between the columns and the words of the rest.
* `conditionWords_inj`, `orderWords_inj`: words tell what they are for, whatever follows them.
* `words_inj`: so do all the words of a query.
* `compiled_eq_iff`: compiled queries are the same exactly when the queries agree.
-/

namespace TenantReports

variable {table other : QueryTable}

/-! ### What a query asks for -/

/-- The columns that are shown: all of them, by a star, if none is named. -/
def QueryTable.shown (table : QueryTable) : List String :=
  if table.columns.isEmpty then ["*"] else table.columns

/-- Whether missing values come first in the order by a column. -/
def QueryOrder.nullsFirst (order : QueryOrder) : Bool :=
  Text.sameAscii order.nulls "first" || Text.sameAscii order.nulls "start"

/-- The columns to sort by that have a key. -/
def QueryTable.sorted (table : QueryTable) : List QueryOrder :=
  table.order.filter fun order => !order.key.isEmpty

/-- What is compared by a filter with a number: the number, the key and the operator. -/
def comparison (entry : QueryFilter × Nat) : Nat × String × String :=
  (entry.2, entry.1.key, entry.1.operator)

/-- What is sorted by: the key, the direction, and whether missing values come first. -/
def QueryOrder.sorting (order : QueryOrder) : String × String × Bool :=
  (order.key, order.direction, order.nullsFirst)

/-- **Queries on a table that ask for the same.** Filters with a key are given by their places among
all filters, their keys, their operators and their values. -/
structure QueryTable.Agrees (table other : QueryTable) : Prop where
  schema : table.schema = other.schema
  name : table.name = other.name
  columns : table.shown = other.shown
  filters : table.numbered.map (fun entry => (comparison entry, entry.1.value)) =
    other.numbered.map fun entry => (comparison entry, entry.1.value)
  order : table.sorted.map QueryOrder.sorting = other.sorted.map QueryOrder.sorting
  limit : table.limit = other.limit

/-- **Names that cannot be mistaken for the text around them**: no quotes in quoted names, no commas
and quotes in the columns that are shown, and no spaces in the keys, operators and directions of
filters and columns to sort by. -/
structure QueryTable.Legible (table : QueryTable) : Prop where
  schema : '"' ∉ table.schema.toList
  name : '"' ∉ table.name.toList
  columns : ∀ column ∈ table.columns, ',' ∉ column.toList ∧ '"' ∉ column.toList
  filters : ∀ filter ∈ table.filters, filter.key ≠ "" →
    ' ' ∉ filter.key.toList ∧ ' ' ∉ filter.op.toList
  order : ∀ order ∈ table.order, order.key ≠ "" →
    ' ' ∉ order.key.toList ∧ ' ' ∉ order.direction.toList

/-! ### Words -/

/-- Words with a space before each. -/
def spaced (words : List (List Char)) : List Char :=
  words.flatMap ([' '] ++ ·)

theorem spaced_cons (word : List Char) (words : List (List Char)) :
    spaced (word :: words) = ' ' :: word ++ spaced words :=
  List.flatMap_cons

theorem spaced_append (first second : List (List Char)) :
    spaced (first ++ second) = spaced first ++ spaced second :=
  List.flatMap_append

/-- **Words without spaces are told from each other.** -/
theorem eq_of_spaced_eq {words others : List (List Char)} (free : ∀ word ∈ words, ' ' ∉ word)
    (free' : ∀ word ∈ others, ' ' ∉ word) (same : spaced words = spaced others) :
    words = others := by
  have together : [' '].intercalate ([] :: words) = [' '].intercalate ([] :: others) := by
    rw [Text.intercalate_cons, Text.intercalate_cons]
    exact congrArg ([] ++ ·) same
  have opening : ' ' ∉ ([] : List Char) := List.not_mem_nil
  exact (List.cons.inj (Text.eq_of_intercalate_eq (List.cons_ne_nil _ _) (List.cons_ne_nil _ _)
    (List.forall_mem_cons.mpr ⟨opening, free⟩) (List.forall_mem_cons.mpr ⟨opening, free'⟩)
    together)).2

/-- The words of conditions, the first of which stands after the given word. -/
def conditionWords (word : List Char) : List (QueryFilter × Nat) → List (List Char)
  | [] => []
  | (filter, number) :: rest =>
    word :: filter.key.toList :: filter.operator.toList :: ('$' :: Number.digits number) ::
      conditionWords ['A', 'N', 'D'] rest

/-- The words of columns to sort by; a comma stands at the end of all but the last. -/
def orderWords : List QueryOrder → List (List Char)
  | [] => []
  | order :: rest =>
    order.key.toList :: order.direction.toList :: ['N', 'U', 'L', 'L', 'S'] ::
      (order.nullsPlace.toList ++ if rest.isEmpty then [] else [',']) :: orderWords rest

/-- The words of the order, if there is one. -/
def orderingWords (order : List QueryOrder) : List (List Char) :=
  if order.isEmpty then []
  else ['O', 'R', 'D', 'E', 'R'] :: ['B', 'Y'] :: orderWords order

/-- The words of the limit, if there is one. -/
def limitWords (limit : UInt64) : List (List Char) :=
  if limit = 0 then [] else [['L', 'I', 'M', 'I', 'T'], Number.digits limit.toNat]

/-- The words of a query after the name of its table. -/
def QueryTable.words (table : QueryTable) : List (List Char) :=
  conditionWords ['W', 'H', 'E', 'R', 'E'] table.numbered ++
    (orderingWords table.sorted ++ limitWords table.limit)

/-! ### The text in words -/

theorem letters_clauseAfter (keyword : String) {rest : String} (some : rest.toList ≠ []) :
    (clauseAfter keyword rest).toList = keyword.toList ++ rest.toList := by
  unfold clauseAfter
  rw [if_neg fun empty => some (String.toList_eq_nil_iff.mpr (String.isEmpty_iff.mp empty)),
    String.toList_append]

theorem letters_filter (filter : QueryFilter) (number : Nat) :
    (filter.clause number).toList = filter.key.toList ++ [' '] ++ filter.operator.toList ++
      [' ', '$'] ++ Number.digits number := by
  unfold QueryFilter.clause Number.decimal
  rw [String.toList_append, String.toList_append, String.toList_append, String.toList_append,
    String.toList_ofList (l := Number.digits number)]
  rfl

theorem letters_filter_ne_nil (filter : QueryFilter) (number : Nat) :
    (filter.clause number).toList ≠ [] := by
  rw [letters_filter]
  exact List.append_ne_nil_of_left_ne_nil (List.append_ne_nil_of_right_ne_nil _ (by decide)) _

/-- The clause of a filter in words, after a word before it. -/
theorem spaced_filter (word : List Char) (filter : QueryFilter) (number : Nat)
    (rest : List (List Char)) :
    spaced (word :: filter.key.toList :: filter.operator.toList ::
        ('$' :: Number.digits number) :: rest) =
      ' ' :: word ++ [' '] ++ (filter.clause number).toList ++ spaced rest := by
  simp only [letters_filter, spaced_cons, List.append_assoc, List.cons_append, List.nil_append]

/-- **The conditions in words.** -/
theorem letters_conditions (numbered : List (QueryFilter × Nat)) :
    (clauseAfter " WHERE " (String.intercalate " AND "
      (numbered.map fun entry => entry.1.clause entry.2))).toList =
      spaced (conditionWords ['W', 'H', 'E', 'R', 'E'] numbered) := by
  have others : ∀ rest : List (QueryFilter × Nat),
      (rest.map fun entry => (entry.1.clause entry.2).toList).flatMap (" AND ".toList ++ ·) =
        spaced (conditionWords ['A', 'N', 'D'] rest) := by
    intro rest
    induction rest with
    | nil => rfl
    | cons entry rest ih =>
      rw [List.map_cons, List.flatMap_cons, ih, conditionWords, spaced_filter]
      rfl
  cases numbered with
  | nil => rfl
  | cons entry rest =>
    have letters : (String.intercalate " AND "
        ((entry :: rest).map fun entry => entry.1.clause entry.2)).toList =
        (entry.1.clause entry.2).toList ++ spaced (conditionWords ['A', 'N', 'D'] rest) := by
      rw [String.toList_intercalate, List.map_map, List.map_cons, Text.intercalate_cons, ← others]
      rfl
    rw [letters_clauseAfter, letters, conditionWords, spaced_filter]
    · rfl
    · rw [letters]
      exact List.append_ne_nil_of_left_ne_nil (letters_filter_ne_nil _ _) _

theorem letters_order (order : QueryOrder) :
    order.clause.toList = order.key.toList ++ [' '] ++ order.direction.toList ++
      [' ', 'N', 'U', 'L', 'L', 'S', ' '] ++ order.nullsPlace.toList := by
  unfold QueryOrder.clause
  rw [String.toList_append, String.toList_append, String.toList_append, String.toList_append]
  rfl

theorem letters_order_ne_nil (order : QueryOrder) : order.clause.toList ≠ [] := by
  rw [letters_order]
  exact List.append_ne_nil_of_left_ne_nil (List.append_ne_nil_of_right_ne_nil _ (by decide)) _

/-- The clause of a column to sort by in words, with a mark after it. -/
theorem spaced_order (order : QueryOrder) (mark : List Char) (rest : List (List Char)) :
    spaced (order.key.toList :: order.direction.toList :: ['N', 'U', 'L', 'L', 'S'] ::
        (order.nullsPlace.toList ++ mark) :: rest) =
      ' ' :: order.clause.toList ++ mark ++ spaced rest := by
  simp only [letters_order, spaced_cons, List.append_assoc, List.cons_append, List.nil_append]

/-- Columns to sort by in words: a comma and a space come before each but the first. -/
theorem spaced_orderWords (order : QueryOrder) (rest : List QueryOrder) :
    spaced (orderWords (order :: rest)) = ' ' :: (order.clause.toList ++
      (rest.map fun order => order.clause.toList).flatMap (", ".toList ++ ·)) := by
  induction rest generalizing order with
  | nil =>
    rw [orderWords, spaced_order, List.append_assoc]
    rfl
  | cons next rest ih =>
    rw [orderWords, spaced_order, ih, List.map_cons, List.flatMap_cons, List.append_assoc]
    rfl

/-- **The columns to sort by in words.** -/
theorem letters_ordering (table : QueryTable) :
    (clauseAfter " ORDER BY " (orderList table.order)).toList =
      spaced (orderingWords table.sorted) := by
  change (clauseAfter " ORDER BY "
    (String.intercalate ", " (table.sorted.map QueryOrder.clause))).toList = _
  cases table.sorted with
  | nil => rfl
  | cons order rest =>
    have letters : (String.intercalate ", " ((order :: rest).map QueryOrder.clause)).toList =
        order.clause.toList ++
          (rest.map fun order => order.clause.toList).flatMap (", ".toList ++ ·) := by
      rw [String.toList_intercalate, List.map_map, List.map_cons, Text.intercalate_cons]
      rfl
    unfold orderingWords
    rw [letters_clauseAfter, letters, if_neg nofun, spaced_cons, spaced_cons, spaced_orderWords]
    · rfl
    · rw [letters]
      exact List.append_ne_nil_of_left_ne_nil (letters_order_ne_nil _) _

theorem letters_limitClause (limit : UInt64) :
    (limitClause limit).toList = spaced (limitWords limit) := by
  unfold limitClause limitWords Number.decimal
  split
  · rfl
  · rw [String.toList_append, String.toList_ofList (l := Number.digits _), spaced_cons, spaced_cons]
    exact congrArg (" LIMIT ".toList ++ ·) (List.append_nil _).symm

/-- **The text of a query**: the quoted names come between the columns and the words of the rest. -/
theorem letters_statement (table : QueryTable) :
    (table.statement (table.numbered.map fun entry => entry.1.clause entry.2)).toList =
      "SELECT ".toList ++ (selectList table.columns).toList ++ " FROM ".toList ++
        '"' :: (table.schema.toList ++ '"' :: '.' :: '"' ::
          (table.name.toList ++ '"' :: spaced table.words)) := by
  unfold QueryTable.statement QueryTable.words
  simp only [String.toList_append, letters_conditions, letters_ordering, letters_limitClause,
    spaced_append, List.append_assoc]
  rfl

/-! ### Words tell what they are for -/

/-- Words that neither begin nor go on with a condition. -/
def Unconditional (words : List (List Char)) : Prop :=
  ∀ word ∈ words.head?, word ≠ ['W', 'H', 'E', 'R', 'E'] ∧ word ≠ ['A', 'N', 'D']

theorem digits_injective {m n : Nat} (same : Number.digits m = Number.digits n) : m = n :=
  Number.decimal_injective (congrArg String.ofList same)

/-- **The words of conditions tell them, and where they end.** -/
theorem conditionWords_inj {word : List Char}
    (begins : word = ['W', 'H', 'E', 'R', 'E'] ∨ word = ['A', 'N', 'D'])
    {numbered numbered' : List (QueryFilter × Nat)} {rest rest' : List (List Char)}
    (ends : Unconditional rest) (ends' : Unconditional rest')
    (same : conditionWords word numbered ++ rest = conditionWords word numbered' ++ rest') :
    numbered.map comparison = numbered'.map comparison ∧ rest = rest' := by
  have differs : ∀ {words : List (List Char)}, Unconditional words → words.head? ≠ some word :=
    fun unconditional head => begins.elim (unconditional _ head).1 (unconditional _ head).2
  induction numbered generalizing word numbered' with
  | nil =>
    cases numbered' with
    | nil => exact ⟨rfl, same⟩
    | cons entry' others' => exact absurd (congrArg List.head? same) (differs ends)
  | cons entry others ih =>
    cases numbered' with
    | nil => exact absurd (congrArg List.head? same).symm (differs ends')
    | cons entry' others' =>
      obtain ⟨⟨key, op, value⟩, number⟩ := entry
      obtain ⟨⟨key', op', value'⟩, number'⟩ := entry'
      obtain ⟨-, same⟩ := List.cons.inj same
      obtain ⟨keys, same⟩ := List.cons.inj same
      obtain ⟨operators, same⟩ := List.cons.inj same
      obtain ⟨placeholders, same⟩ := List.cons.inj same
      have numbers := digits_injective (List.cons.inj placeholders).2
      obtain ⟨more, follows⟩ := ih (.inr rfl) same fun unconditional head =>
        (unconditional _ head).2 rfl
      refine ⟨congrArg₂ List.cons ?_ more, follows⟩
      exact congrArg₂ Prod.mk numbers
        (congrArg₂ Prod.mk (String.toList_inj.mp keys) (String.toList_inj.mp operators))

theorem nullsPlace_eq (order : QueryOrder) :
    order.nullsPlace = if order.nullsFirst then "FIRST" else "LAST" :=
  rfl

/-- The place of missing values is told from the mark after it. -/
theorem nullsPlace_inj {order order' : QueryOrder} {more more' : Bool}
    (same : order.nullsPlace.toList ++ (if more then [] else [',']) =
      order'.nullsPlace.toList ++ if more' then [] else [',']) :
    order.nullsFirst = order'.nullsFirst ∧ more = more' := by
  rw [nullsPlace_eq, nullsPlace_eq] at same
  revert same
  cases order.nullsFirst <;> cases order'.nullsFirst <;> cases more <;> cases more' <;> decide

/-- **The words of columns to sort by tell them, and where they end.** -/
theorem orderWords_inj {sorted sorted' : List QueryOrder} (some : sorted ≠ [])
    (some' : sorted' ≠ []) {rest rest' : List (List Char)}
    (same : orderWords sorted ++ rest = orderWords sorted' ++ rest') :
    sorted.map QueryOrder.sorting = sorted'.map QueryOrder.sorting ∧ rest = rest' := by
  induction sorted generalizing sorted' with
  | nil => exact absurd rfl some
  | cons order others ih =>
    cases sorted' with
    | nil => exact absurd rfl some'
    | cons order' others' =>
      obtain ⟨keys, same⟩ := List.cons.inj same
      obtain ⟨directions, same⟩ := List.cons.inj same
      obtain ⟨-, same⟩ := List.cons.inj same
      obtain ⟨places, same⟩ := List.cons.inj same
      obtain ⟨first, last⟩ := nullsPlace_inj places
      have here : order.sorting = order'.sorting := congrArg₂ Prod.mk (String.toList_inj.mp keys)
        (congrArg₂ Prod.mk (String.toList_inj.mp directions) first)
      -- A comma after the place tells whether there are more.
      cases others with
      | nil =>
        cases others' with
        | nil => exact ⟨congrArg (fun sorting => [sorting]) here, same⟩
        | cons next' rest' => cases last
      | cons next others =>
        cases others' with
        | nil => cases last
        | cons next' others' =>
          obtain ⟨more, follows⟩ := ih (List.cons_ne_nil next others)
            (List.cons_ne_nil next' others') same
          exact ⟨congrArg₂ List.cons here more, follows⟩

/-- The words of a limit tell it. -/
theorem limitWords_inj {limit limit' : UInt64} (same : limitWords limit = limitWords limit') :
    limit = limit' := by
  unfold limitWords at same
  split at same
  · next none =>
    split at same
    · next none' => rw [none, none']
    · cases same
  · split at same
    · cases same
    · exact UInt64.toNat_inj.mp
        (digits_injective (List.cons.inj (List.cons.inj same).2).1)

/-- The words of an order and of a limit tell both. -/
theorem orderingWords_inj {sorted sorted' : List QueryOrder} {limit limit' : UInt64}
    (same : orderingWords sorted ++ limitWords limit =
      orderingWords sorted' ++ limitWords limit') :
    sorted.map QueryOrder.sorting = sorted'.map QueryOrder.sorting ∧ limit = limit' := by
  have unordered : ∀ limit : UInt64,
      (limitWords limit).head? ≠ some ['O', 'R', 'D', 'E', 'R'] := by
    intro limit
    unfold limitWords
    split
    · exact nofun
    · exact fun head => absurd (Option.some.inj head) (by decide)
  cases sorted with
  | nil =>
    cases sorted' with
    | nil => exact ⟨rfl, limitWords_inj same⟩
    | cons order' others' => exact absurd (congrArg List.head? same) (unordered limit)
  | cons order others =>
    cases sorted' with
    | nil => exact absurd (congrArg List.head? same).symm (unordered limit')
    | cons order' others' =>
      obtain ⟨-, same⟩ := List.cons.inj same
      obtain ⟨-, same⟩ := List.cons.inj same
      obtain ⟨sortings, limits⟩ := orderWords_inj (List.cons_ne_nil order others)
        (List.cons_ne_nil order' others') same
      exact ⟨sortings, limitWords_inj limits⟩

/-- What follows the conditions of a query neither begins nor goes on with one. -/
theorem unconditional_ordering (sorted : List QueryOrder) (limit : UInt64) :
    Unconditional (orderingWords sorted ++ limitWords limit) := by
  intro word head
  cases sorted with
  | nil =>
    change word ∈ (limitWords limit).head? at head
    unfold limitWords at head
    split at head
    · cases head
    · cases head
      decide
  | cons order others =>
    cases head
    decide

/-- **The words of a query tell its filters, its order and its limit.** -/
theorem words_inj (same : table.words = other.words) :
    table.numbered.map comparison = other.numbered.map comparison ∧
      table.sorted.map QueryOrder.sorting = other.sorted.map QueryOrder.sorting ∧
      table.limit = other.limit := by
  obtain ⟨comparisons, more⟩ := conditionWords_inj (.inl rfl) (unconditional_ordering _ _)
    (unconditional_ordering _ _) same
  exact ⟨comparisons, orderingWords_inj more⟩

/-! ### Texts tell what they are for -/

theorem selectList_eq (table : QueryTable) :
    selectList table.columns = String.intercalate ", " table.shown := by
  unfold selectList QueryTable.shown
  split
  · exact String.intercalate_singleton.symm
  · rfl

theorem shown_ne_nil (table : QueryTable) : table.shown ≠ [] := by
  unfold QueryTable.shown
  split
  · exact List.cons_ne_nil _ _
  · next some => exact mt List.isEmpty_iff.mpr some

theorem QueryTable.Legible.shown (legible : table.Legible) :
    ∀ column ∈ table.shown, ',' ∉ column.toList ∧ '"' ∉ column.toList := by
  intro column member
  unfold QueryTable.shown at member
  split at member
  · rw [List.mem_singleton.mp member]
    decide
  · exact legible.columns column member

/-- Columns in a row: a comma between them, and a space before each but the first. -/
theorem letters_selectList {column : String} {others : List String}
    (shown : table.shown = column :: others) :
    (selectList table.columns).toList =
      [','].intercalate (column.toList :: others.map fun column => ' ' :: column.toList) := by
  have separated : (others.map String.toList).flatMap (", ".toList ++ ·) =
      (others.map fun column => ' ' :: column.toList).flatMap ([','] ++ ·) := by
    rw [List.flatMap_map, List.flatMap_map]
    rfl
  rw [selectList_eq, shown, String.toList_intercalate, List.map_cons, Text.intercalate_cons,
    Text.intercalate_cons, separated]

theorem QueryTable.Legible.comma_notMem (legible : table.Legible) {column : String}
    {others : List String} (shown : table.shown = column :: others) :
    ∀ piece ∈ column.toList :: others.map (fun column => ' ' :: column.toList), ',' ∉ piece := by
  have free := legible.shown
  rw [shown, List.forall_mem_cons] at free
  refine List.forall_mem_cons.mpr ⟨free.1.1, fun piece member => ?_⟩
  obtain ⟨next, listed, rfl⟩ := List.mem_map.mp member
  exact List.not_mem_cons_of_ne_of_not_mem (by decide) (free.2 next listed).1

/-- **The columns that are shown are told from their text.** -/
theorem shown_inj (legible : table.Legible) (legible' : other.Legible)
    (same : (selectList table.columns).toList = (selectList other.columns).toList) :
    table.shown = other.shown := by
  obtain ⟨column, others, shown⟩ := List.exists_cons_of_ne_nil (shown_ne_nil table)
  obtain ⟨column', others', shown'⟩ := List.exists_cons_of_ne_nil (shown_ne_nil other)
  rw [letters_selectList shown, letters_selectList shown'] at same
  obtain ⟨first, rest⟩ := List.cons.inj (Text.eq_of_intercalate_eq (List.cons_ne_nil _ _)
    (List.cons_ne_nil _ _) (legible.comma_notMem shown) (legible'.comma_notMem shown') same)
  have spaceInjective : Function.Injective fun column : String => ' ' :: column.toList :=
    fun _ _ letters => String.toList_inj.mp (List.cons.inj letters).2
  rw [shown, shown', String.toList_inj.mp first, List.map_injective_iff.mpr spaceInjective rest]

theorem QueryTable.Legible.quote_notMem (legible : table.Legible) :
    '"' ∉ (selectList table.columns).toList := by
  obtain ⟨column, others, shown⟩ := List.exists_cons_of_ne_nil (shown_ne_nil table)
  have free := legible.shown
  rw [shown, List.forall_mem_cons] at free
  rw [letters_selectList shown, Text.intercalate_cons, List.mem_append, not_or]
  refine ⟨free.1.2, fun quoted => ?_⟩
  obtain ⟨piece, member, quoted⟩ := List.mem_flatMap.mp quoted
  obtain ⟨next, listed, rfl⟩ := List.mem_map.mp member
  have before : '"' ∉ [',', ' '] := by decide
  exact (List.mem_append.mp (show '"' ∈ [',', ' '] ++ next.toList from quoted)).elim before
    (free.2 next listed).2

theorem space_notMem_digits (n : Nat) : ' ' ∉ Number.digits n :=
  fun member => absurd (Number.isDigit_of_mem_digits member) (by decide)

theorem space_notMem_conditionWords {word : List Char} (plain : ' ' ∉ word)
    {numbered : List (QueryFilter × Nat)}
    (free : ∀ entry ∈ numbered, ' ' ∉ entry.1.key.toList ∧ ' ' ∉ entry.1.operator.toList) :
    ∀ other ∈ conditionWords word numbered, ' ' ∉ other := by
  induction numbered generalizing word with
  | nil => exact fun other member => absurd member List.not_mem_nil
  | cons entry rest ih =>
    obtain ⟨⟨key, operator⟩, free⟩ := List.forall_mem_cons.mp free
    rw [conditionWords]
    simp only [List.forall_mem_cons]
    exact ⟨plain, key, operator,
      List.not_mem_cons_of_ne_of_not_mem (by decide) (space_notMem_digits _),
      ih (by decide) free⟩

theorem space_notMem_orderWords {sorted : List QueryOrder}
    (free : ∀ order ∈ sorted, ' ' ∉ order.key.toList ∧ ' ' ∉ order.direction.toList) :
    ∀ word ∈ orderWords sorted, ' ' ∉ word := by
  induction sorted with
  | nil => exact fun word member => absurd member List.not_mem_nil
  | cons order rest ih =>
    obtain ⟨⟨key, direction⟩, free⟩ := List.forall_mem_cons.mp free
    have place : ' ' ∉ order.nullsPlace.toList ++ if rest.isEmpty then [] else [','] := by
      rw [nullsPlace_eq]
      cases order.nullsFirst <;> cases rest.isEmpty <;> decide
    rw [orderWords]
    simp only [List.forall_mem_cons]
    exact ⟨key, direction, by decide, place, ih free⟩

theorem QueryTable.Legible.space_notMem (legible : table.Legible) :
    ∀ word ∈ table.words, ' ' ∉ word := by
  have filters : ∀ entry ∈ table.numbered,
      ' ' ∉ entry.1.key.toList ∧ ' ' ∉ entry.1.operator.toList := by
    rintro ⟨filter, number⟩ member
    obtain ⟨-, found, keyed⟩ := mem_numberedFrom.mp member
    obtain ⟨key, op⟩ := legible.filters filter (List.mem_of_getElem? found) keyed
    refine ⟨key, ?_⟩
    unfold QueryFilter.operator
    split
    · decide
    · exact op
  have order : ∀ order ∈ table.sorted,
      ' ' ∉ order.key.toList ∧ ' ' ∉ order.direction.toList := by
    intro order member
    obtain ⟨member, keyed⟩ := List.mem_filter.mp member
    rw [Bool.not_eq_true', Bool.eq_false_iff] at keyed
    exact legible.order order member (mt String.isEmpty_iff.mpr keyed)
  unfold QueryTable.words orderingWords limitWords
  simp only [List.forall_mem_append]
  refine ⟨space_notMem_conditionWords (by decide) filters, ?_, ?_⟩
  · split
    · exact fun word member => absurd member List.not_mem_nil
    · simp only [List.forall_mem_cons]
      exact ⟨by decide, by decide, space_notMem_orderWords order⟩
  · split
    · exact fun word member => absurd member List.not_mem_nil
    · simp only [List.forall_mem_cons]
      exact ⟨by decide, space_notMem_digits _, fun word member => absurd member List.not_mem_nil⟩

/-- **The text of a query tells all that it asks for.** -/
theorem statement_inj (legible : table.Legible) (legible' : other.Legible)
    (same : table.statement (table.numbered.map fun entry => entry.1.clause entry.2) =
      other.statement (other.numbered.map fun entry => entry.1.clause entry.2)) :
    table.schema = other.schema ∧ table.name = other.name ∧ table.shown = other.shown ∧
      table.words = other.words := by
  have unquoted : ∀ {table : QueryTable}, table.Legible →
      '"' ∉ "SELECT ".toList ++ (selectList table.columns).toList ++ " FROM ".toList := by
    intro table legible
    rw [List.mem_append, List.mem_append]
    exact not_or.mpr ⟨not_or.mpr ⟨by decide, legible.quote_notMem⟩, by decide⟩
  have letters := congrArg String.toList same
  rw [letters_statement, letters_statement] at letters
  obtain ⟨selects, letters⟩ :=
    Text.eq_of_append_cons_eq (unquoted legible) (unquoted legible') letters
  obtain ⟨schemas, letters⟩ := Text.eq_of_append_cons_eq legible.schema legible'.schema letters
  obtain ⟨names, words⟩ := Text.eq_of_append_cons_eq legible.name legible'.name
    (List.cons.inj (List.cons.inj letters).2).2
  have columns := List.append_cancel_left (List.append_cancel_right selects)
  exact ⟨String.toList_inj.mp schemas, String.toList_inj.mp names,
    shown_inj legible legible' columns,
    eq_of_spaced_eq legible.space_notMem legible'.space_notMem words⟩

/-! ### Agreeing queries -/

theorem QueryTable.Agrees.comparisons (agrees : table.Agrees other) :
    table.numbered.map comparison = other.numbered.map comparison := by
  have filters := congrArg (List.map Prod.fst) agrees.filters
  rwa [List.map_map, List.map_map] at filters

theorem QueryTable.Agrees.values (agrees : table.Agrees other) :
    table.numbered.map (fun entry => entry.1.value) =
      other.numbered.map fun entry => entry.1.value := by
  have filters := congrArg (List.map Prod.snd) agrees.filters
  rwa [List.map_map, List.map_map] at filters

/-- **Queries that ask for the same have the same text.** -/
theorem QueryTable.Agrees.statement (agrees : table.Agrees other) :
    table.statement (table.numbered.map fun entry => entry.1.clause entry.2) =
      other.statement (other.numbered.map fun entry => entry.1.clause entry.2) := by
  -- A clause is made of what is compared, or of what is sorted by.
  have clauses : ∀ table : QueryTable,
      table.numbered.map (fun entry => entry.1.clause entry.2) =
        (table.numbered.map comparison).map fun (number, key, operator) =>
          key ++ " " ++ operator ++ " $" ++ Number.decimal number := by
    intro table
    rw [List.map_map]
    rfl
  have order : ∀ table : QueryTable, orderList table.order = String.intercalate ", "
      ((table.sorted.map QueryOrder.sorting).map fun (key, direction, first) =>
        key ++ " " ++ direction ++ " NULLS " ++ if first then "FIRST" else "LAST") := by
    intro table
    rw [List.map_map]
    rfl
  unfold QueryTable.statement
  rw [selectList_eq, selectList_eq, clauses, clauses, order, order, agrees.schema, agrees.name,
    agrees.columns, agrees.comparisons, agrees.order, agrees.limit]

/-- **Compiled queries are the same exactly when the queries ask for the same**: the same columns of
the same table, the same comparisons with the same values at the same places, the same order and the
same limit. Of the names in the queries it is only asked that they do not hold the characters that
end them in the text. -/
theorem compiled_eq_iff {query query' : TableQuery} {columns columns' : List ColumnDescriptor}
    {compiled compiled' : CompiledQuery} (done : compile query columns = .ok compiled)
    (done' : compile query' columns' = .ok compiled')
    (legible : ∀ table ∈ query.tables, table.Legible)
    (legible' : ∀ table ∈ query'.tables, table.Legible) :
    (compiled.sql = compiled'.sql ∧ compiled.params = compiled'.params) ↔
      ∃ table table', query.tables = [table] ∧ query'.tables = [table'] ∧
        table.Agrees table' := by
  obtain ⟨table, only, -, sql, params⟩ := compile_eq_ok_iff.mp done
  obtain ⟨table', only', -, sql', params'⟩ := compile_eq_ok_iff.mp done'
  rw [sql, sql', params, params']
  constructor
  · rintro ⟨texts, values⟩
    obtain ⟨schema, name, columns, words⟩ :=
      statement_inj (legible table (only ▸ List.mem_singleton.mpr rfl))
        (legible' table' (only' ▸ List.mem_singleton.mpr rfl)) texts
    obtain ⟨comparisons, order, limit⟩ := words_inj words
    have filters := (congrArg₂ List.zip comparisons values)
    rw [List.zip_map', List.zip_map'] at filters
    exact ⟨table, table', only, only', schema, name, columns, filters, order, limit⟩
  · rintro ⟨first, second, only₁, only₂, agrees⟩
    obtain rfl := List.singleton_inj.mp (only.symm.trans only₁)
    obtain rfl := List.singleton_inj.mp (only'.symm.trans only₂)
    exact ⟨agrees.statement, agrees.values⟩

/-- A query that leaves to the defaults what it can. -/
def tersely : QueryTable :=
  ⟨"folio users", "users", [⟨"", "<", "7"⟩, ⟨"barcode", "", "a"⟩, ⟨"active", "<>", "true"⟩], [],
    [⟨"barcode", "asc", "START"⟩, ⟨"active", "", "end"⟩], 10⟩

/-- The same query in other words. -/
def verbosely : QueryTable :=
  ⟨"folio users", "users", [⟨"", "", ""⟩, ⟨"barcode", "=", "a"⟩, ⟨"active", "<>", "true"⟩], ["*"],
    [⟨"barcode", "asc", "first"⟩, ⟨"", "desc", ""⟩, ⟨"active", "", "last"⟩], 10⟩

theorem compiled_eq_iff_spellings :
    tersely ≠ verbosely ∧ tersely.Legible ∧ verbosely.Legible ∧
      ∃ compiled compiled', compile ⟨[tersely]⟩ someColumns = .ok compiled ∧
        compile ⟨[verbosely]⟩ someColumns = .ok compiled' ∧ compiled.sql = compiled'.sql ∧
        compiled.params = compiled'.params ∧ tersely.Agrees verbosely := by
  have legible : tersely.Legible := ⟨by decide, by decide, by decide +kernel, by decide +kernel,
    by decide +kernel⟩
  have legible' : verbosely.Legible := ⟨by decide, by decide, by decide +kernel,
    by decide +kernel, by decide +kernel⟩
  have done : compile ⟨[tersely]⟩ someColumns = .ok
      ⟨"SELECT * FROM \"folio users\".\"users\" WHERE barcode = $2 AND active <> $3 " ++
        "ORDER BY barcode asc NULLS FIRST, active  NULLS LAST LIMIT 10", ["a", "true"]⟩ := by
    decide +kernel
  have done' : compile ⟨[verbosely]⟩ someColumns = .ok
      ⟨"SELECT * FROM \"folio users\".\"users\" WHERE barcode = $2 AND active <> $3 " ++
        "ORDER BY barcode asc NULLS FIRST, active  NULLS LAST LIMIT 10", ["a", "true"]⟩ := by
    decide +kernel
  obtain ⟨table, table', only, only', agrees⟩ := (compiled_eq_iff done done'
    (List.forall_mem_singleton.mpr legible) (List.forall_mem_singleton.mpr legible')).mp ⟨rfl, rfl⟩
  cases List.singleton_inj.mp only
  cases List.singleton_inj.mp only'
  exact ⟨by decide +kernel, legible, legible', _, _, done, done', rfl, rfl, agrees⟩

/-- A key with spaces can be mistaken for more than one. -/
example : compile ⟨[⟨"a", "b", [], [], [⟨"x asc NULLS LAST, y", "desc", ""⟩], 0⟩]⟩ [] =
    compile ⟨[⟨"a", "b", [], [], [⟨"x", "asc", ""⟩, ⟨"y", "desc", ""⟩], 0⟩]⟩ [] := by
  decide +kernel

end TenantReports

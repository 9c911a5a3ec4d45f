import Mathlib.Data.List.TakeWhile
import TenantReports.Proofs.Json.RoundTrip

/-!
# Values as they are read, and reading them again

Everything that a text gives has its numbers as JSON has them, and every value that is read from it
is `Normal`: the names of its objects strictly increase, and no object has the name that is kept for
numbers alone. **Such a value is read again from its own text exactly when no object of it begins
with that name**: the writer puts the least name first, and the reader takes an object that begins
with it for a number.

* `legible_of_number?`, `legible_of_parse`: numbers that were read.
* `Value.Normal`, `normal_of_ofTree?`: values that were read.
* `Value.isPlain`: no object begins with the name that is kept for numbers.
* `ofTree?_tree`, `ofText?_text_of_normal`: reading a value again.
-/

namespace TenantReports.Json

open Number (Decimal)

variable {charset : Charset} {s rest : List Char} {tree : Tree} {v : Value} {depth : Nat}

/-! ### Numbers of a text -/

theorem isDigit_of_spanDigits {ds : List Char} (span : Number.spanDigits s = (ds, rest)) :
    ∀ c ∈ ds, c.isDigit = true := by
  obtain ⟨rfl, -⟩ := Prod.mk.inj span
  exact fun c member => List.mem_takeWhile_imp member

/-- Digits that a text begins with begin with its first character. -/
theorem head?_spanDigits {ds : List Char} (span : Number.spanDigits s = (ds, rest))
    (nonempty : ds ≠ []) : ds.head? = s.head? := by
  obtain ⟨rfl, -⟩ := Prod.mk.inj span
  cases s with
  | nil => rfl
  | cons c s =>
    by_cases digit : c.isDigit = true
    · rw [List.takeWhile_cons_of_pos digit]
      rfl
    · exact absurd (List.takeWhile_cons_of_neg digit) nonempty

theorem wholePart_eq_some {ds : List Char} (read : wholePart s = some (ds, rest)) :
    (ds = ['0'] ∨ ds ≠ [] ∧ ds.head? ≠ some '0') ∧ ∀ c ∈ ds, c.isDigit = true := by
  unfold wholePart at read
  split at read
  · cases read
    exact ⟨.inl rfl, List.forall_mem_singleton.mpr rfl⟩
  · rename_i noZero
    cases span : Number.spanDigits s with
    | mk digits others =>
      rw [span] at read
      by_cases empty : digits = []
      · simp [empty] at read
      · simp only [List.isEmpty_iff, empty, if_false, Option.some.injEq, Prod.mk.injEq] at read
        obtain ⟨rfl, rfl⟩ := read
        refine ⟨.inr ⟨empty, fun zero => ?_⟩, isDigit_of_spanDigits span⟩
        rw [head?_spanDigits span empty] at zero
        obtain ⟨others, begins⟩ := List.head?_eq_some_iff.mp zero
        exact noZero others begins

theorem fractionPart_eq_some {ds : List Char} (read : fractionPart s = some (ds, rest)) :
    ∀ c ∈ ds, c.isDigit = true := by
  unfold fractionPart at read
  split at read
  · rename_i more
    cases span : Number.spanDigits more with
    | mk digits others =>
      rw [span] at read
      by_cases empty : digits = []
      · simp [empty] at read
      · simp only [List.isEmpty_iff, empty, if_false, Option.some.injEq, Prod.mk.injEq] at read
        obtain ⟨rfl, rfl⟩ := read
        exact isDigit_of_spanDigits span
  · cases read
    exact List.forall_mem_nil _

theorem exponentPart_eq_some {exponent : Option (Bool × List Char)}
    (read : exponentPart s = some (exponent, rest)) :
    ∀ negative ds, exponent = some (negative, ds) → ds ≠ [] ∧ ∀ c ∈ ds, c.isDigit = true := by
  rintro negative ds rfl
  unfold exponentPart at read
  split at read
  · cases read
  · rename_i c more
    split at read
    · cases sign : exponentSign more with
      | mk negative' signless =>
        cases span : Number.spanDigits signless with
        | mk digits others =>
          rw [sign] at read
          simp only [span] at read
          by_cases empty : digits = []
          · simp [empty] at read
          · simp only [List.isEmpty_iff, empty, if_false, Option.some.injEq, Prod.mk.injEq] at read
            obtain ⟨⟨rfl, rfl⟩, rfl⟩ := read
            exact ⟨empty, isDigit_of_spanDigits span⟩
    · cases read

theorem legible_of_unsignedNumber {negative : Bool} {d : Decimal}
    (read : unsignedNumber negative s = some (d, rest)) : Legible d := by
  unfold unsignedNumber at read
  simp only [Option.bind_eq_bind, Option.bind_eq_some_iff, Prod.exists, Option.pure_def,
    Option.some.injEq, Prod.mk.injEq] at read
  obtain ⟨whole, afterWhole, wholeRead, fraction, afterFraction, fractionRead, exponent, _,
    exponentRead, rfl, rfl⟩ := read
  obtain ⟨first, digits⟩ := wholePart_eq_some wholeRead
  refine ⟨first, fun c member => ?_, exponentPart_eq_some exponentRead⟩
  rcases List.mem_append.mp member with member | member
  · exact digits c member
  · exact fractionPart_eq_some fractionRead c member

/-- **A number that is read is one that JSON can write.** -/
theorem legible_of_number? {d : Decimal} (read : number? s = some (d, rest)) : Legible d := by
  unfold number? at read
  split at read
  · exact legible_of_unsignedNumber read
  · exact legible_of_unsignedNumber read

/-! ### All that a text gives -/

mutual

/-- All numbers that a text gives are as JSON has them. -/
def Tree.Legible : Tree → Prop
  | .number d => Json.Legible d
  | .array items => LegibleTrees items
  | .object members => LegibleMemberTrees members
  | _ => True

/-- All numbers of items are. -/
def LegibleTrees : List Tree → Prop
  | [] => True
  | item :: items => item.Legible ∧ LegibleTrees items

/-- All numbers of members are. -/
def LegibleMemberTrees : List (Option String × Tree) → Prop
  | [] => True
  | (_, value) :: members => value.Legible ∧ LegibleMemberTrees members

end

/-- What the readers give has its numbers as JSON has them, as far as the fuel goes. -/
structure ReadsLegibly (charset : Charset) (fuel : Nat) : Prop where
  value : ∀ {s tree rest}, value? charset fuel s = some (tree, rest) → tree.Legible
  items : ∀ {s items rest}, items? charset fuel s = some (items, rest) → LegibleTrees items
  members : ∀ {s members rest}, members? charset fuel s = some (members, rest) →
    LegibleMemberTrees members

theorem ReadsLegibly.zero : ReadsLegibly charset 0 where
  value read := nomatch read
  items read := nomatch read
  members read := nomatch read

variable {fuel : Nat}

theorem ReadsLegibly.value_succ (before : ReadsLegibly charset fuel)
    (read : value? charset (fuel + 1) s = some (tree, rest)) : tree.Legible := by
  rw [value?] at read
  split at read
  · cases read
    exact trivial
  · cases read
    exact trivial
  · cases read
    exact trivial
  · obtain ⟨_, -, same⟩ := Option.map_eq_some_iff.mp read
    cases same
    exact trivial
  · split at read
    · cases read
      exact trivial
    · obtain ⟨_, itemsRead, same⟩ := Option.map_eq_some_iff.mp read
      cases same
      exact before.items itemsRead
  · split at read
    · cases read
      exact trivial
    · obtain ⟨_, membersRead, same⟩ := Option.map_eq_some_iff.mp read
      cases same
      exact before.members membersRead
  · obtain ⟨_, numberRead, same⟩ := Option.map_eq_some_iff.mp read
    cases same
    exact legible_of_number? numberRead

theorem ReadsLegibly.items_succ (before : ReadsLegibly charset fuel) {items : List Tree}
    (read : items? charset (fuel + 1) s = some (items, rest)) : LegibleTrees items := by
  rw [items?] at read
  obtain ⟨⟨item, more⟩, itemRead, read⟩ := Option.bind_eq_some_iff.mp read
  dsimp only at read
  split at read
  · obtain ⟨⟨others, after⟩, othersRead, same⟩ := Option.bind_eq_some_iff.mp read
    cases same
    exact ⟨before.value itemRead, before.items othersRead⟩
  · cases read
    exact ⟨before.value itemRead, trivial⟩
  · cases read

theorem ReadsLegibly.members_succ (before : ReadsLegibly charset fuel)
    {members : List (Option String × Tree)}
    (read : members? charset (fuel + 1) s = some (members, rest)) :
    LegibleMemberTrees members := by
  rw [members?] at read
  split at read
  · obtain ⟨⟨body, more⟩, -, read⟩ := Option.bind_eq_some_iff.mp read
    dsimp only at read
    split at read
    · obtain ⟨⟨value, more⟩, valueRead, read⟩ := Option.bind_eq_some_iff.mp read
      dsimp only at read
      split at read
      · obtain ⟨⟨others, after⟩, othersRead, same⟩ := Option.bind_eq_some_iff.mp read
        cases same
        exact ⟨before.value valueRead, before.members othersRead⟩
      · cases read
        exact ⟨before.value valueRead, trivial⟩
      · cases read
    · cases read
  · cases read

theorem readsLegibly (charset : Charset) : ∀ fuel, ReadsLegibly charset fuel
  | 0 => .zero
  | fuel + 1 =>
    have before := readsLegibly charset fuel
    ⟨before.value_succ, before.items_succ, before.members_succ⟩

/-- **All numbers that a text gives are as JSON has them.** -/
theorem legible_of_parse (parsed : parse charset s = some tree) : tree.Legible := by
  unfold parse at parsed
  split at parsed
  · rename_i read
    split at parsed
    · cases parsed
      exact (readsLegibly charset _).value read
    · cases parsed
  · cases parsed

/-! ### Values that were read -/

mutual

/-- **A value as it is read**: its numbers are as JSON has them, without a sign of an integer zero;
the names of an object strictly increase, and one of them is not the name kept for numbers. -/
def Value.Normal : Value → Prop
  | .number d => Json.Legible d ∧ d.unsignedZero = d
  | .array items => NormalItems items
  | .object members => Increasing members ∧
      (members ≠ [] → ∃ member ∈ members, member.1 ≠ numberName) ∧ NormalMembers members
  | _ => True

/-- All items are as they are read. -/
def NormalItems : List Value → Prop
  | [] => True
  | item :: items => item.Normal ∧ NormalItems items

/-- The values of all members are as they are read. -/
def NormalMembers : List (String × Value) → Prop
  | [] => True
  | (_, value) :: members => value.Normal ∧ NormalMembers members

end

theorem normalMembers_iff {members : List (String × Value)} :
    NormalMembers members ↔ ∀ member ∈ members, member.2.Normal := by
  induction members with
  | nil => simp [NormalMembers]
  | cons member members ih => simp [NormalMembers, ih]

theorem unsignedZero_unsignedZero (d : Decimal) :
    d.unsignedZero.unsignedZero = d.unsignedZero := by
  unfold Decimal.unsignedZero
  split <;> simp_all

theorem Legible.unsignedZero {d : Decimal} (legible : Legible d) : Legible d.unsignedZero := by
  unfold Decimal.unsignedZero
  split
  · exact ⟨legible.whole, legible.digits, legible.exponent⟩
  · exact legible

theorem normal_ofDecimal {d : Decimal} (legible : Legible d) : (Value.ofDecimal d).Normal :=
  ⟨legible.unsignedZero, unsignedZero_unsignedZero d⟩

/-- What an object that begins with the name for numbers tells is a number, as read. -/
theorem normal_of_numberOfMembers? {members : List (Option String × Tree)}
    (read : numberOfMembers? members = some v) : v.Normal := by
  unfold numberOfMembers? at read
  split at read
  · split at read
    · rename_i d number
      cases read
      exact normal_ofDecimal (legible_of_number? number)
    · cases read
  · cases read

theorem mem_insertEntry_self (key : String) (value : Value) (entries : List (String × Value)) :
    (key, value) ∈ insertEntry key value entries := by
  have found := find?_insertEntry key value entries key
  rw [if_pos rfl] at found
  exact List.mem_of_find?_eq_some found

/-- No name is lost when a member is put in. -/
theorem exists_mem_insertEntry {key : String} {value : Value} {entries : List (String × Value)}
    (has : ∃ member ∈ entries, member.1 ≠ numberName) :
    ∃ member ∈ insertEntry key value entries, member.1 ≠ numberName := by
  obtain ⟨member, among, other⟩ := has
  by_cases same : member.1 = key
  · exact ⟨(key, value), mem_insertEntry_self key value entries, same ▸ other⟩
  · have found := find?_insertEntry key value entries member.1
    rw [if_neg same] at found
    cases first : entries.find? (fun entry => entry.1 == member.1) with
    | none => exact absurd (beq_self_eq_true _) (List.find?_eq_none.mp first member among)
    | some entry =>
      rw [first] at found
      have named := List.find?_some first
      have same : entry.1 = member.1 := eq_of_beq named
      exact ⟨entry, List.mem_of_find?_eq_some found, same ▸ other⟩

/-- The values of an array's items are as read, if all values one level deeper are. -/
theorem normalItems_of_itemsOfTrees?
    (before : ∀ {tree v}, tree.Legible → Value.ofTree? depth tree = some v → v.Normal)
    {trees : List Tree} {items : List Value} (legible : LegibleTrees trees)
    (read : itemsOfTrees? depth trees = some items) : NormalItems items := by
  induction trees generalizing items with
  | nil =>
    cases read
    exact trivial
  | cons tree trees ih =>
    rw [itemsOfTrees?] at read
    obtain ⟨item, itemRead, read⟩ := Option.bind_eq_some_iff.mp read
    obtain ⟨others, othersRead, same⟩ := Option.bind_eq_some_iff.mp read
    cases same
    exact ⟨before legible.1 itemRead, ih legible.2 othersRead⟩

/-- Members that were read and put into others: sorted, with values as read, and no name of the
others lost. -/
structure PutInto (done members : List (String × Value)) : Prop where
  increasing : Increasing members
  normal : NormalMembers members
  keeps : (∃ member ∈ done, member.1 ≠ numberName) → ∃ member ∈ members, member.1 ≠ numberName

theorem putInto_of_membersOfTrees?
    (before : ∀ {tree v}, tree.Legible → Value.ofTree? depth tree = some v → v.Normal)
    {trees : List (Option String × Tree)} {done members : List (String × Value)}
    (legible : LegibleMemberTrees trees) (increasing : Increasing done)
    (normal : NormalMembers done) (read : membersOfTrees? depth trees done = some members) :
    PutInto done members := by
  induction trees generalizing done with
  | nil =>
    cases read
    exact ⟨increasing, normal, id⟩
  | cons tree trees ih =>
    obtain ⟨key?, tree⟩ := tree
    rw [membersOfTrees?] at read
    obtain ⟨key, -, read⟩ := Option.bind_eq_some_iff.mp read
    obtain ⟨value, valueRead, read⟩ := Option.bind_eq_some_iff.mp read
    have normalValue : value.Normal := before legible.1 valueRead
    have normalDone : NormalMembers (insertEntry key value done) := by
      apply normalMembers_iff.mpr
      intro member among
      rcases mem_insertEntry among with rfl | among
      · exact normalValue
      · exact normalMembers_iff.mp normal member among
    have put := ih legible.2 (insertEntry_increasing key value done increasing) normalDone read
    exact ⟨put.increasing, put.normal, fun has => put.keeps (exists_mem_insertEntry has)⟩

/-- One object more. -/
theorem normal_of_object
    (before : ∀ {tree v}, tree.Legible → Value.ofTree? depth tree = some v → v.Normal)
    {trees : List (Option String × Tree)} (legible : LegibleMemberTrees trees)
    (begins : standsForNumber trees = false) {members : List (String × Value)}
    (read : membersOfTrees? depth trees [] = some members) : (Value.object members).Normal := by
  have put := putInto_of_membersOfTrees? before legible List.Pairwise.nil trivial read
  refine ⟨put.increasing, fun nonempty => ?_, put.normal⟩
  cases trees with
  | nil =>
    cases read
    exact absurd rfl nonempty
  | cons first trees =>
    -- The first name of the text is another one than that for numbers, and it is never lost.
    obtain ⟨key?, tree⟩ := first
    rw [membersOfTrees?] at read
    obtain ⟨key, named, read⟩ := Option.bind_eq_some_iff.mp read
    obtain ⟨value, valueRead, read⟩ := Option.bind_eq_some_iff.mp read
    have other : key ≠ numberName := by
      rintro rfl
      simp [standsForNumber, named] at begins
    have increasing : Increasing [(key, value)] := List.pairwise_singleton _ _
    have putAfter := putInto_of_membersOfTrees? before legible.2 increasing
      ⟨before legible.1 valueRead, trivial⟩ read
    exact putAfter.keeps ⟨(key, value), List.mem_singleton_self _, other⟩

/-- **A value that is read from a text is as it is read**, however deep it may be nested. -/
theorem normal_of_ofTree? (legible : tree.Legible) (read : Value.ofTree? depth tree = some v) :
    v.Normal := by
  induction depth using Nat.strongRecOn generalizing tree v with
  | ind depth ih =>
    cases tree with
    | null | bool =>
      rw [Value.ofTree?] at read
      cases read
      exact trivial
    | number d =>
      rw [Value.ofTree?] at read
      cases read
      exact normal_ofDecimal legible
    | string content =>
      rw [Value.ofTree?] at read
      obtain ⟨s, -, rfl⟩ := Option.map_eq_some_iff.mp read
      exact trivial
    | array items =>
      cases depth with
      | zero => cases read
      | succ depth =>
        rw [Value.ofTree?] at read
        obtain ⟨values, itemsRead, rfl⟩ := Option.map_eq_some_iff.mp read
        exact normalItems_of_itemsOfTrees? (ih depth (Nat.lt_succ_self _)) legible itemsRead
    | object members =>
      cases depth with
      | zero => cases read
      | succ depth =>
        rw [Value.ofTree?] at read
        split at read
        · exact normal_of_numberOfMembers? read
        · rename_i other
          obtain ⟨values, membersRead, rfl⟩ := Option.map_eq_some_iff.mp read
          exact normal_of_object (ih depth (Nat.lt_succ_self _)) legible
            (Bool.not_eq_true _ ▸ other) membersRead

/-! ### Reading a value again -/

mutual

/-- The levels that a value is nested. -/
def Value.depth : Value → Nat
  | .array items => depthOfItems items + 1
  | .object members => depthOfMembers members + 1
  | _ => 0

/-- The levels of the item nested most. -/
def depthOfItems : List Value → Nat
  | [] => 0
  | item :: items => max item.depth (depthOfItems items)

/-- The levels of the member nested most. -/
def depthOfMembers : List (String × Value) → Nat
  | [] => 0
  | (_, value) :: members => max value.depth (depthOfMembers members)

end

mutual

/-- Whether no object of a value begins with the name that is kept for numbers. -/
def Value.isPlain : Value → Bool
  | .array items => plainItems items
  | .object members => !members.head?.any (fun member => member.1 == numberName) &&
      plainMembers members
  | _ => true

/-- Whether no object of the items does. -/
def plainItems : List Value → Bool
  | [] => true
  | item :: items => item.isPlain && plainItems items

/-- Whether no object of the members' values does. -/
def plainMembers : List (String × Value) → Bool
  | [] => true
  | (_, value) :: members => value.isPlain && plainMembers members

end

mutual

/-- Values as read have their numbers as JSON has them. -/
theorem Value.Normal.legible : ∀ {v : Value}, v.Normal → v.Legible
  | .null, _ | .bool _, _ | .string _, _ => trivial
  | .number _, normal => normal.1
  | .array _, normal => legibleItems_of_normal normal
  | .object _, normal => legibleMembers_of_normal normal.2.2

theorem legibleItems_of_normal : ∀ {items : List Value}, NormalItems items → LegibleItems items
  | [], _ => trivial
  | _ :: _, normal => ⟨normal.1.legible, legibleItems_of_normal normal.2⟩

theorem legibleMembers_of_normal :
    ∀ {members : List (String × Value)}, NormalMembers members → LegibleMembers members
  | [], _ => trivial
  | _ :: _, normal => ⟨normal.1.legible, legibleMembers_of_normal normal.2⟩

end

/-- What reading a value again gives. -/
def Value.again? (v : Value) : Option Value :=
  if v.isPlain then some v else none

theorem itemsOfTrees?_trees
    (each : ∀ v : Value, v.Normal → v.depth ≤ depth → Value.ofTree? depth v.tree = v.again?)
    {items : List Value} (normal : NormalItems items) (shallow : depthOfItems items ≤ depth) :
    itemsOfTrees? depth (treesOf items) = if plainItems items then some items else none := by
  induction items with
  | nil => rfl
  | cons item items ih =>
    obtain ⟨first, others⟩ := Nat.max_le.mp shallow
    rw [treesOf, itemsOfTrees?, each item normal.1 first, ih normal.2 others, plainItems,
      Value.again?]
    cases item.isPlain <;> cases plainItems items <;> rfl

theorem membersOfTrees?_trees
    (each : ∀ v : Value, v.Normal → v.depth ≤ depth → Value.ofTree? depth v.tree = v.again?)
    {done members : List (String × Value)} (increasing : Increasing (done ++ members))
    (normal : NormalMembers members) (shallow : depthOfMembers members ≤ depth) :
    membersOfTrees? depth (treesOfMembers members) done =
      if plainMembers members then some (done ++ members) else none := by
  induction members generalizing done with
  | nil => rw [List.append_nil]; rfl
  | cons member members ih =>
    obtain ⟨key, value⟩ := member
    obtain ⟨first, others⟩ := Nat.max_le.mp shallow
    have greatest : ∀ other ∈ done, other.1 < key := fun other among =>
      (List.pairwise_append.mp increasing).2.2 other among (key, value) List.mem_cons_self
    have inserted := insertEntry_of_greatest greatest value
    rw [List.append_cons, ← inserted] at increasing
    have readOthers := ih increasing normal.2 others
    rw [inserted, List.append_assoc] at readOthers
    rw [treesOfMembers, membersOfTrees?, each value normal.1 first, plainMembers, Value.again?]
    cases value.isPlain
    · rfl
    · simpa [inserted] using readOthers

/-- An object that begins with the name for numbers is read for the number that its only member
tells: none, as it has other members. -/
theorem numberOfMembers?_trees {members : List (String × Value)}
    (other : ∃ member ∈ members, member.1 ≠ numberName)
    (begins : members.head?.any (fun member => member.1 == numberName) = true) :
    numberOfMembers? (treesOfMembers members) = none := by
  match members with
  | [] => cases begins
  | [(key, value)] =>
    obtain ⟨_, among, different⟩ := other
    cases List.mem_singleton.mp among
    exact absurd (eq_of_beq begins) different
  | first :: second :: others =>
    rw [numberOfMembers?.eq_def]
    split
    · rename_i same
      cases (List.cons.inj same).2
    · rfl

theorem standsForNumber_trees (members : List (String × Value)) :
    standsForNumber (treesOfMembers members) =
      members.head?.any (fun member => member.1 == numberName) := by
  cases members with
  | nil => rfl
  | cons member members =>
    simp [treesOfMembers, standsForNumber]

/-- **What the text of a value gives is read as the value**, if no object begins with the name for
numbers, and refused otherwise. -/
theorem ofTree?_tree (normal : v.Normal) (shallow : v.depth ≤ depth) :
    Value.ofTree? depth v.tree = v.again? := by
  induction depth using Nat.strongRecOn generalizing v with
  | ind depth ih =>
    cases v with
    | null | bool | string =>
      rw [Value.tree, Value.ofTree?]
      rfl
    | number d =>
      rw [Value.tree, Value.ofTree?, Value.ofDecimal, normal.2]
      rfl
    | array items =>
      cases depth with
      | zero => exact absurd shallow (Nat.not_succ_le_zero _)
      | succ depth =>
        rw [Value.tree, Value.ofTree?, itemsOfTrees?_trees
          (fun v normal shallow => ih depth (Nat.lt_succ_self _) normal shallow) normal
          (Nat.le_of_succ_le_succ shallow), Value.again?, Value.isPlain]
        cases plainItems items <;> rfl
    | object members =>
      cases depth with
      | zero => exact absurd shallow (Nat.not_succ_le_zero _)
      | succ depth =>
        obtain ⟨increasing, other, normalMembers⟩ := normal
        rw [Value.tree, Value.ofTree?, standsForNumber_trees, Value.again?, Value.isPlain]
        cases begins : members.head?.any (fun member => member.1 == numberName) with
        | true =>
          have nonempty : members ≠ [] := by
            rintro rfl
            cases begins
          rw [if_pos rfl, numberOfMembers?_trees (other nonempty) begins]
          rfl
        | false =>
          have read : membersOfTrees? depth (treesOfMembers members) [] =
              if plainMembers members then some members else none := membersOfTrees?_trees
            (fun v normal shallow => ih depth (Nat.lt_succ_self _) normal shallow) increasing
            normalMembers (Nat.le_of_succ_le_succ shallow)
          rw [if_neg Bool.false_ne_true, read]
          cases plainMembers members <;> rfl

/-- **The text of a value that was read is read as the value again exactly when no object of it
begins with the name that is kept for numbers**, and not at all otherwise. -/
theorem ofText?_text_of_normal (normal : v.Normal) (shallow : v.depth ≤ maxDepth) :
    Value.ofText? v.text = if v.isPlain then some v else none := by
  rw [Value.ofText?, ofText?_text normal.legible, Option.bind_some]
  exact ofTree?_tree normal shallow

end TenantReports.Json

import TenantReports.Database.Value
import TenantReports.Postgres.Decode
import TenantReports.Proofs.Query.Acceptance
import TenantReports.Proofs.Text.Hex

/-!
# Identifiers, written and accepted

**The identifiers that queries return are accepted in filters, and stand for the same octets.** What
writes identifiers and what accepts them share nothing; they agree on every text.

* `isCanonical_iff_placed`: what is accepted, character by character.
* `groups?_eq_some_iff`: the groups of an accepted text hold its digits.
* `ofText?_text`: what is written is read.
* `ofText?_eq_some_iff`: a text is read as what is written like it, but for the case.
* `ofText?_eq_some_iff_denotes`: a text is read as the octets that its digits write.
* `text_roundtrip`: all of these, and what becomes of identifiers in queries.
-/

namespace TenantReports.Uuid

open Text (Hex.isDigit Hex.value? Hex.ofOctets Hex.toOctets?)

/-! ### Places -/

/-- Whether a hyphen follows one of the groups but the last at a place. -/
def HyphenAt : List Nat → Nat → Prop
  | n :: next :: sizes, place => place = n ∨ n < place ∧ HyphenAt (next :: sizes) (place - (n + 1))
  | _, _ => False

/-- The length of groups with a hyphen between them. -/
def width : List Nat → Nat
  | [] => 0
  | [n] => n
  | n :: sizes => n + 1 + width sizes

/-- The characters that are wanted at a place. -/
def Wanted (sizes : List Nat) (place : Nat) (c : Char) : Prop :=
  HyphenAt sizes place ∧ c = '-' ∨ ¬HyphenAt sizes place ∧ IsHexadecimal c

section Wanted

variable {n next place : Nat} {sizes : List Nat} {c : Char}

theorem wanted_before (before : place < n) :
    Wanted (n :: next :: sizes) place c ↔ IsHexadecimal c := by
  have other : ¬HyphenAt (n :: next :: sizes) place := by
    rintro (here | ⟨after, -⟩) <;> omega
  simp [Wanted, other]

theorem wanted_here : Wanted (n :: next :: sizes) n c ↔ c = '-' := by
  have hyphen : HyphenAt (n :: next :: sizes) n := .inl rfl
  simp [Wanted, hyphen]

/-- After the first hyphen the places are those of the other groups. -/
theorem wanted_after :
    Wanted (n :: next :: sizes) (n + 1 + place) c ↔ Wanted (next :: sizes) place c := by
  have same : HyphenAt (n :: next :: sizes) (n + 1 + place) ↔ HyphenAt (next :: sizes) place := by
    rw [HyphenAt, Nat.add_sub_cancel_left]
    constructor
    · rintro (here | ⟨-, hyphen⟩)
      · omega
      · exact hyphen
    · intro hyphen
      exact .inr ⟨by omega, hyphen⟩
  rw [Wanted, Wanted, same]

end Wanted

/-- **Groups are there exactly when the characters at all places are.** -/
theorem grouped_iff_places {n : Nat} {sizes : List Nat} {s : List Char} :
    Grouped (n :: sizes) s ↔ s.length = width (n :: sizes) ∧
      ∀ place c, s[place]? = some c → Wanted (n :: sizes) place c := by
  induction sizes generalizing n s with
  | nil =>
    rw [grouped_singleton_iff]
    refine and_congr_right fun _ => ?_
    have digit : ∀ place c, Wanted [n] place c ↔ IsHexadecimal c := by simp [Wanted, HyphenAt]
    simp only [digit, List.mem_iff_getElem?, forall_exists_index]
    exact forall_comm
  | cons next sizes ih =>
    have long : width (n :: next :: sizes) = n + 1 + width (next :: sizes) := rfl
    rw [grouped_cons_iff (List.cons_ne_nil _ _), long]
    constructor
    · rintro ⟨⟨size, digits⟩, rest, follows, grouped⟩
      obtain ⟨length, wanted⟩ := ih.mp grouped
      have whole : s = s.take n ++ '-' :: rest := by rw [← follows, List.take_append_drop]
      refine ⟨?_, fun place c found => ?_⟩
      · rw [whole, List.length_append, size, List.length_cons, length]
        omega
      · rw [whole] at found
        -- A place is one of the first group, that of the hyphen, or one of the others.
        rcases Nat.lt_or_ge place n with before | beyond
        · rw [List.getElem?_append_left (by omega)] at found
          exact (wanted_before before).mpr (digits c (List.mem_of_getElem? found))
        · rw [List.getElem?_append_right (by omega), size] at found
          obtain ⟨later, rfl⟩ := Nat.exists_eq_add_of_le beyond
          rw [Nat.add_sub_cancel_left] at found
          cases later with
          | zero =>
            cases found
            exact wanted_here.mpr rfl
          | succ later =>
            rw [← Nat.add_assoc, Nat.add_right_comm]
            exact wanted_after.mpr (wanted later c found)
    · rintro ⟨length, wanted⟩
      have inside : n < s.length := by omega
      have size : (s.take n).length = n := List.length_take_of_le (by omega)
      have hyphen : s[n] = '-' := wanted_here.mp (wanted n s[n] (List.getElem?_eq_getElem inside))
      refine ⟨⟨size, fun c member => ?_⟩, s.drop (n + 1), ?_, ih.mpr ⟨?_, fun place c found => ?_⟩⟩
      · obtain ⟨place, found⟩ := List.getElem?_of_mem member
        have before : place < n := size ▸ (List.getElem?_eq_some_iff.mp found).1
        rw [List.getElem?_take_of_lt before] at found
        exact (wanted_before before).mp (wanted place c found)
      · rw [List.drop_eq_getElem_cons inside, hyphen]
      · rw [List.length_drop]
        omega
      · rw [List.getElem?_drop] at found
        exact wanted_after.mp (wanted _ c found)

/-- The places of the hyphens. -/
theorem hyphenAt_iff (place : Nat) : HyphenAt [8, 4, 4, 4, 12] place ↔ place ∈ [8, 13, 18, 23] := by
  simp only [HyphenAt, List.mem_cons, List.not_mem_nil, and_false, or_false]
  omega

/-- **A text of 36 characters**, hyphens at four places and hexadecimal digits elsewhere. -/
def Placed (v : String) : Prop :=
  v.length = 36 ∧ ∀ place c, v.toList[place]? = some c →
    if place ∈ [8, 13, 18, 23] then c = '-' else IsHexadecimal c

/-- **What is accepted**, character by character. -/
theorem isCanonical_iff_placed (v : String) : isCanonical v = true ↔ Placed v := by
  rw [isCanonical_iff, Canonical, grouped_iff_places, String.length_toList]
  refine and_congr_right fun _ => forall_congr' fun place => forall_congr' fun c =>
    imp_congr_right fun _ => ?_
  rw [Wanted, hyphenAt_iff]
  by_cases hyphen : place ∈ [8, 13, 18, 23]
  · simp [hyphen]
  · simp [hyphen]

/-! ### Digits -/

/-- Digits in groups of the given sizes, with a hyphen between them. -/
def joined : List Nat → List Char → List Char
  | [], _ => []
  | [_], digits => digits
  | n :: sizes, digits => digits.take n ++ '-' :: joined sizes (digits.drop n)

theorem hyphenate_eq_joined (digits : List Char) :
    hyphenate digits = joined [8, 4, 4, 4, 12] digits := by
  simp only [hyphenate, joined, List.drop_drop, List.append_assoc, List.cons_append]

theorem joined_cons (n : Nat) {sizes : List Nat} (digits : List Char) (more : sizes ≠ []) :
    joined (n :: sizes) digits = digits.take n ++ '-' :: joined sizes (digits.drop n) := by
  cases sizes with
  | nil => exact absurd rfl more
  | cons next sizes => rfl

/-- Where the first group ends. -/
theorem split_joined {n : Nat} {sizes : List Nat} {digits : List Char} (more : sizes ≠ [])
    (long : n ≤ digits.length) : (joined (n :: sizes) digits).take n = digits.take n ∧
      (joined (n :: sizes) digits).drop n = '-' :: joined sizes (digits.drop n) := by
  have size : (digits.take n).length = n := List.length_take_of_le long
  rw [joined_cons n digits more]
  exact ⟨List.take_left' size, List.drop_left' size⟩

/-- The number of digits in groups. -/
def digitCount : List Nat → Nat
  | [] => 0
  | n :: sizes => n + digitCount sizes

/-- **The groups of a text hold its digits.** -/
theorem groups?_eq_some_iff {sizes : List Nat} {s digits : List Char} :
    groups? sizes s = some digits ↔ digits.length = digitCount sizes ∧
      (∀ c ∈ digits, Hex.isDigit c = true) ∧ s = joined sizes digits := by
  -- The cases are those of the reader: no group, the last one, and one that others follow.
  fun_induction groups? sizes s generalizing digits with
  | case1 s empty =>
    rw [List.isEmpty_iff.mp empty]
    constructor
    · rintro ⟨⟩
      exact ⟨rfl, fun c member => absurd member List.not_mem_nil, rfl⟩
    · rintro ⟨none, -, -⟩
      rw [List.length_eq_zero_iff.mp none]
  | case2 s more =>
    refine iff_of_false (Option.some_ne_none _).symm ?_
    rintro ⟨-, -, rfl⟩
    exact more rfl
  | case3 n s group =>
    obtain ⟨size, digit⟩ := group
    rw [List.all_eq_true] at digit
    constructor
    · rintro ⟨⟩
      exact ⟨size, digit, rfl⟩
    · rintro ⟨-, -, rfl⟩
      rfl
  | case4 n s other =>
    refine iff_of_false (Option.some_ne_none _).symm ?_
    rintro ⟨size, digit, rfl⟩
    exact other ⟨size, List.all_eq_true.mpr digit⟩
  | case5 n sizes s more group rest follows ih =>
    obtain ⟨size, digit⟩ := group
    rw [List.all_eq_true] at digit
    rw [Option.map_eq_some_iff, digitCount]
    constructor
    · rintro ⟨others, read, rfl⟩
      obtain ⟨length, digit', rfl⟩ := ih.mp read
      refine ⟨?_, List.forall_mem_append.mpr ⟨digit, digit'⟩, ?_⟩
      · rw [List.length_append, size, length]
      · rw [joined_cons n _ more, List.take_left' size, List.drop_left' size, ← follows,
          List.take_append_drop]
    · rintro ⟨length, digit', rfl⟩
      obtain ⟨first, later⟩ := split_joined more (Nat.le.intro length.symm)
      obtain ⟨-, rfl⟩ := List.cons.inj (later.symm.trans follows)
      refine ⟨digits.drop n, ih.mpr ⟨?_, fun c member => digit' c (List.mem_of_mem_drop member),
        rfl⟩, ?_⟩
      · rw [List.length_drop, length, Nat.add_sub_cancel_left]
      · rw [first, List.take_append_drop]
  | case6 n sizes s more group other =>
    refine iff_of_false (Option.some_ne_none _).symm ?_
    rintro ⟨length, -, rfl⟩
    rw [digitCount] at length
    exact other _ (split_joined more (Nat.le.intro length.symm)).2
  | case7 n sizes s more other =>
    refine iff_of_false (Option.some_ne_none _).symm ?_
    rintro ⟨length, digit, rfl⟩
    rw [digitCount] at length
    have long : n ≤ digits.length := Nat.le.intro length.symm
    refine other ?_
    rw [(split_joined more long).1]
    exact ⟨List.length_take_of_le long,
      List.all_eq_true.mpr fun c member => digit c (List.mem_of_mem_take member)⟩

/-- What is left without the hyphens. -/
theorem filter_joined {sizes : List Nat} {digits : List Char}
    (length : digits.length = digitCount sizes) (digit : ∀ c ∈ digits, Hex.isDigit c = true) :
    (joined sizes digits).filter (· != '-') = digits := by
  have kept : ∀ {some : List Char}, (∀ c ∈ some, Hex.isDigit c = true) →
      some.filter (· != '-') = some := by
    intro some digit
    refine List.filter_eq_self.mpr fun c member => bne_iff_ne.mpr ?_
    rintro rfl
    cases digit '-' member
  induction sizes generalizing digits with
  | nil =>
    rw [List.length_eq_zero_iff.mp length]
    rfl
  | cons n sizes ih =>
    by_cases more : sizes = []
    · rw [more]
      exact kept digit
    · have first := kept fun c (member : c ∈ digits.take n) => digit c (List.mem_of_mem_take member)
      have others : (digits.drop n).length = digitCount sizes := by
        rw [List.length_drop, length, digitCount, Nat.add_sub_cancel_left]
      rw [joined_cons n digits more, List.filter_append, first, List.filter_cons_of_neg (by decide),
        ih others fun c member => digit c (List.mem_of_mem_drop member), List.take_append_drop]

theorem map_joined {f : Char → Char} (hyphen : f '-' = '-') (sizes : List Nat)
    (digits : List Char) : (joined sizes digits).map f = joined sizes (digits.map f) := by
  induction sizes generalizing digits with
  | nil => rfl
  | cons n sizes ih =>
    by_cases more : sizes = []
    · rw [more]
      rfl
    · rw [joined_cons n _ more, joined_cons n _ more, List.map_append, List.map_cons, hyphen, ih,
        List.map_take, List.map_drop]

/-! ### Reading -/

theorem toList_text (id : Uuid) :
    id.text.toList = joined [8, 4, 4, 4, 12] (Hex.ofOctets id.bytes) := by
  rw [text, String.toList_ofList, hyphenate_eq_joined]

/-- How a text is read: its digits in groups are those of the octets. -/
theorem ofText?_eq_some_iff_digits {v : String} {id : Uuid} :
    ofText? v = some id ↔ ∃ digits, groups? [8, 4, 4, 4, 12] v.toList = some digits ∧
      Hex.toOctets? digits = some id.bytes := by
  rw [ofText?, Option.bind_eq_some_iff]
  constructor
  · rintro ⟨bytes, read, sized⟩
    obtain ⟨digits, groups, octets⟩ := Option.bind_eq_some_iff.mp read
    unfold ofOctets? at sized
    split_ifs at sized with size
    cases sized
    exact ⟨digits, groups, octets⟩
  · rintro ⟨digits, groups, octets⟩
    exact ⟨id.bytes, Option.bind_eq_some_iff.mpr ⟨digits, groups, octets⟩, dif_pos id.size⟩

/-- **What is written is read.** -/
theorem ofText?_text (id : Uuid) : ofText? id.text = some id := by
  refine ofText?_eq_some_iff_digits.mpr ⟨Hex.ofOctets id.bytes, ?_,
    Text.Hex.toOctets?_ofOctets id.bytes⟩
  refine groups?_eq_some_iff.mpr ⟨?_, ?_, id.toList_text⟩
  · rw [Text.Hex.length_ofOctets, id.size]
    rfl
  · intro c member
    obtain ⟨value, small, rfl⟩ := Text.Hex.exists_digit_of_mem member
    exact Text.Hex.isDigit_digit small

/-- What is written is told apart. -/
theorem text_injective : Function.Injective text := by
  intro id other same
  have read := ofText?_text id
  rw [same, ofText?_text other] at read
  exact (Option.some.inj read).symm

/-- What is accepted is read. -/
theorem isCanonical_iff_exists (v : String) :
    isCanonical v = true ↔ ∃ id, ofText? v = some id := by
  rw [isCanonical, Option.isSome_iff_exists]
  constructor
  · rintro ⟨digits, groups⟩
    obtain ⟨length, digit, -⟩ := groups?_eq_some_iff.mp groups
    obtain ⟨bytes, octets, size⟩ := Text.Hex.exists_toOctets? 16 length digit
    exact ⟨⟨bytes, size⟩, ofText?_eq_some_iff_digits.mpr ⟨digits, groups, octets⟩⟩
  · rintro ⟨id, read⟩
    obtain ⟨digits, groups, -⟩ := ofText?_eq_some_iff_digits.mp read
    exact ⟨digits, groups⟩

theorem toList_toLower (v : String) : v.toLower.toList = v.toList.map Char.toLower :=
  String.toList_map

/-- What is read is written in lower case. -/
theorem text_of_ofText? {v : String} {id : Uuid} (read : ofText? v = some id) :
    id.text = v.toLower := by
  obtain ⟨digits, groups, octets⟩ := ofText?_eq_some_iff_digits.mp read
  obtain ⟨-, -, whole⟩ := groups?_eq_some_iff.mp groups
  refine String.toList_injective ?_
  rw [toList_text, Text.Hex.ofOctets_of_toOctets? octets, toList_toLower, whole,
    map_joined (by decide)]

/-- The case of a character does not matter at its place. -/
theorem wanted_toLower_iff (place : Nat) (c : Char) :
    (if place ∈ [8, 13, 18, 23] then c.toLower = '-' else IsHexadecimal c.toLower) ↔
      if place ∈ [8, 13, 18, 23] then c = '-' else IsHexadecimal c := by
  by_cases hyphen : place ∈ [8, 13, 18, 23]
  · rw [if_pos hyphen, if_pos hyphen]
    exact Text.Hex.toLower_eq_hyphen_iff c
  · rw [if_neg hyphen, if_neg hyphen, ← isDigit_iff, ← isDigit_iff, Text.Hex.isDigit_toLower]

/-- **The case of a text does not matter.** -/
theorem placed_toLower (v : String) : Placed v.toLower ↔ Placed v := by
  have length : v.toLower.length = v.length := String.length_map
  unfold Placed
  rw [length, toList_toLower]
  refine and_congr_right fun _ => forall_congr' fun place => ?_
  rw [List.getElem?_map]
  constructor
  · intro wanted c found
    rw [found] at wanted
    exact (wanted_toLower_iff place c).mp (wanted c.toLower rfl)
  · intro wanted c found
    obtain ⟨upper, stands, rfl⟩ := Option.map_eq_some_iff.mp found
    exact (wanted_toLower_iff place upper).mpr (wanted upper stands)

/-- **A text is read as what is written like it**, but for the case. -/
theorem ofText?_eq_some_iff {v : String} {id : Uuid} :
    ofText? v = some id ↔ id.text = v.toLower := by
  refine ⟨text_of_ofText?, fun same => ?_⟩
  have lower : isCanonical v.toLower = true := by
    rw [← same]
    exact (isCanonical_iff_exists _).mpr ⟨id, ofText?_text id⟩
  rw [isCanonical_iff_placed, placed_toLower, ← isCanonical_iff_placed,
    isCanonical_iff_exists] at lower
  obtain ⟨other, read⟩ := lower
  rw [read, text_injective (same.trans (text_of_ofText? read).symm)]

/-! ### What a text stands for -/

/-- **A text stands for octets** if each octet is the number that its two digits write. -/
def Denotes (v : String) (id : Uuid) : Prop :=
  ∀ place octet, id.bytes[place]? = some octet → ∃ high low,
    (v.toList.filter (· != '-'))[2 * place]?.bind Hex.value? = some high ∧
    (v.toList.filter (· != '-'))[2 * place + 1]?.bind Hex.value? = some low ∧
    octet.toNat = high * 16 + low

theorem denotes_of_ofText? {v : String} {id : Uuid} (read : ofText? v = some id) :
    Denotes v id := by
  obtain ⟨digits, groups, octets⟩ := ofText?_eq_some_iff_digits.mp read
  obtain ⟨length, digit, whole⟩ := groups?_eq_some_iff.mp groups
  intro place octet found
  rw [whole, filter_joined length digit]
  exact Text.Hex.getElem?_toOctets? octets found

/-- A text stands for octets in one way. -/
theorem Denotes.unique {v : String} {id other : Uuid} (denotes : Denotes v id)
    (denotes' : Denotes v other) : id = other := by
  have bytes : id.bytes = other.bytes := by
    refine List.ext_getElem (id.size.trans other.size.symm) fun place inside inside' => ?_
    obtain ⟨high, low, first, second, whole⟩ :=
      denotes place _ (List.getElem?_eq_getElem inside)
    obtain ⟨high', low', first', second', whole'⟩ :=
      denotes' place _ (List.getElem?_eq_getElem inside')
    cases first.symm.trans first'
    cases second.symm.trans second'
    exact UInt8.toNat_inj.mp (whole.trans whole'.symm)
  cases id
  cases other
  cases bytes
  rfl

/-- **An accepted text is read as the octets that it stands for.** -/
theorem ofText?_eq_some_iff_denotes {v : String} {id : Uuid} :
    ofText? v = some id ↔ isCanonical v = true ∧ Denotes v id := by
  constructor
  · intro read
    exact ⟨(isCanonical_iff_exists v).mpr ⟨id, read⟩, denotes_of_ofText? read⟩
  · rintro ⟨accepted, denotes⟩
    obtain ⟨other, read⟩ := (isCanonical_iff_exists v).mp accepted
    rw [read, denotes.unique (denotes_of_ofText? read)]

/-! ### Identifiers in queries -/

/-- **Whether an identifier fits columns** as the value of a filter is up to the key. -/
theorem fits_text_iff (id : Uuid) (columns : List ColumnDescriptor) (key op : String) :
    (QueryFilter.mk key op id.text).Fits columns ↔
      key = "" ∨ ∃ column ∈ columns, column.name = key := by
  have canonical : Canonical id.text :=
    (isCanonical_iff _).mp ((isCanonical_iff_exists _).mpr ⟨id, ofText?_text id⟩)
  constructor
  · intro fits
    by_cases keyed : key = ""
    · exact .inl keyed
    · obtain ⟨column, first, -⟩ := fits keyed
      exact .inr ⟨column, first.mem⟩
  · rintro (keyless | ⟨column, member, named⟩) keyed
    · exact absurd keyless keyed
    · have some : (columns.find? fun column => column.name == key).isSome = true :=
        List.find?_isSome.mpr ⟨column, member, beq_iff_eq.mpr named⟩
      obtain ⟨first, found⟩ := Option.isSome_iff_exists.mp some
      exact ⟨first, find?_eq_some_iff.mp found, fun _ => canonical⟩

/-- **An identifier is bound unchanged** where it is compared with a column that there is. -/
theorem compile_text_iff (id : Uuid) (columns : List ColumnDescriptor) (table : QueryTable)
    (key op : String) :
    (∃ sql, compile ⟨[{ table with filters := [⟨key, op, id.text⟩] }]⟩ columns =
      .ok ⟨sql, [id.text]⟩) ↔ key ≠ "" ∧ ∃ column ∈ columns, column.name = key := by
  have numbered : ({ table with filters := [⟨key, op, id.text⟩] } : QueryTable).numbered =
      if key.isEmpty then [] else [(⟨key, op, id.text⟩, 1)] := numberedFrom_cons 1 _ []
  have passes : (QueryFilter.mk key op id.text).passes columns ↔
      key = "" ∨ ∃ column ∈ columns, column.name = key :=
    passes_iff_fits.trans (fits_text_iff id columns key op)
  constructor
  · rintro ⟨sql, done⟩
    obtain ⟨_, only, pass, -, params⟩ := compile_eq_ok_iff.mp done
    cases only
    have keyed : key ≠ "" := by
      rintro rfl
      rw [numbered] at params
      cases params
    exact ⟨keyed, (passes.mp (pass _ List.mem_cons_self)).resolve_left keyed⟩
  · rintro ⟨keyed, named⟩
    refine ⟨_, compile_eq_ok_iff.mpr
      ⟨_, rfl, List.forall_mem_singleton.mpr (passes.mpr (.inr named)), rfl, ?_⟩⟩
    rw [numbered, if_neg (mt String.isEmpty_iff.mp keyed)]
    rfl

/-- What the server sends as an identifier is one, and it is answered with its text. -/
theorem decode_bytes (id : Uuid) : Postgres.decodeScalar id.bytes .uuid = .ok (.uuid id) ∧
    (DbValue.uuid id).toJson = .string id.text ∧
    Postgres.decodeElement .uuid id.bytes = .ok (.string id.text) := by
  have sized : ofOctets? id.bytes = some id := dif_pos id.size
  have decoded : Postgres.decodeScalar id.bytes .uuid = .ok (.uuid id) := by
    rw [Postgres.decodeScalar, sized]
    rfl
  refine ⟨decoded, rfl, ?_⟩
  rw [Postgres.decodeElement, sized]
  rfl

/-- **Identifiers go round**: what is accepted is told by the characters at their places; what is
written is accepted, in lower case and read as the same octets; each accepted text is written like
exactly one identifier, but for the case, and stands for it. An identifier that a query returns is
answered with its text, which filters take unchanged. -/
theorem text_roundtrip :
    (∀ v : String, isCanonical v = true ↔ Placed v) ∧
    (∀ id : Uuid, isCanonical id.text = true ∧ id.text.toLower = id.text ∧
      ofText? id.text = some id) ∧
    (∀ v : String, isCanonical v = true ↔ ∃! id : Uuid, id.text = v.toLower) ∧
    (∀ (v : String) (id : Uuid), id.text = v.toLower ↔ isCanonical v = true ∧ Denotes v id) ∧
    (∀ id : Uuid, Postgres.decodeScalar id.bytes .uuid = .ok (.uuid id) ∧
      (DbValue.uuid id).toJson = .string id.text ∧
      Postgres.decodeElement .uuid id.bytes = .ok (.string id.text)) ∧
    ∀ (id : Uuid) (columns : List ColumnDescriptor) (table : QueryTable) (key op : String),
      ((QueryFilter.mk key op id.text).Fits columns ↔
        key = "" ∨ ∃ column ∈ columns, column.name = key) ∧
      ((∃ sql, compile ⟨[{ table with filters := [⟨key, op, id.text⟩] }]⟩ columns =
        .ok ⟨sql, [id.text]⟩) ↔ key ≠ "" ∧ ∃ column ∈ columns, column.name = key) := by
  have written : ∀ id : Uuid, isCanonical id.text = true := fun id =>
    (isCanonical_iff_exists _).mpr ⟨id, ofText?_text id⟩
  refine ⟨isCanonical_iff_placed, fun id => ⟨written id, ?_, ofText?_text id⟩, fun v => ?_,
    fun v id => ofText?_eq_some_iff.symm.trans ofText?_eq_some_iff_denotes, decode_bytes,
    fun id columns table key op => ⟨fits_text_iff id columns key op,
      compile_text_iff id columns table key op⟩⟩
  · exact (text_of_ofText? (ofText?_text id)).symm
  · rw [isCanonical_iff_exists]
    constructor
    · rintro ⟨id, read⟩
      have same := text_of_ofText? read
      exact ⟨id, same, fun other same' => text_injective (same'.trans same.symm)⟩
    · rintro ⟨id, same, -⟩
      exact ⟨id, ofText?_eq_some_iff.mpr same⟩

end TenantReports.Uuid

import Mathlib.Data.List.Basic
import TenantReports.Postgres.Placeholder

/-!
# Where a statement gets its casts

**A statement with casts is the statement and, before each character, the number of the parameter
that ends there.**

These numbers, the marks of a text, do not depend on the types of the parameters: they say which
placeholders a reader finds, and no more.

* `castPlaceholders_eq_insertCasts`: the casts stand where the marks are.
* `insertCasts_injective`: other marks, other texts, for some types of the parameters.
-/

namespace TenantReports.Postgres

variable {inferred : List String}

/-! ### Code -/

/-- A character without a meaning of its own that ends no pair which begins a comment. -/
theorem placeAfter_plain {previous : Option Char} {c : Char}
    (plain : c ≠ '\'' ∧ c ≠ '"' ∧ c ≠ '$') (line : ¬(previous = some '-' ∧ c = '-'))
    (block : ¬(previous = some '/' ∧ c = '*')) : placeAfter previous c = .code (some c) := by
  unfold placeAfter
  rw [if_neg (by simpa using plain.1), if_neg (by simpa using plain.2.1),
    if_neg (by simpa [and_comm] using line), if_neg (by simpa [and_comm] using block),
    if_neg (by simpa using plain.2.2)]

/-! ### The cast of a parameter -/

/-- The cast of the parameter with the given number; numbers begin at one. -/
def castOf (inferred : List String) : Nat → String
  | 0 => ""
  | number + 1 =>
    match inferred[number]? with
    | some typeName => if needsCast typeName then "::" ++ castTarget typeName else ""
    | none => ""

/-- The number that digits stand for; text without digits stands for none. -/
def numberOf (ds : List Char) : Nat :=
  (Number.natural? ds).getD 0

theorem numberOf_digits (number : Nat) : numberOf (Number.digits number) = number := by
  unfold numberOf
  rw [Number.natural?_digits]
  rfl

/-- What follows a placeholder is the cast of its number. -/
theorem castAfter_eq_castOf (ds : List Char) :
    castAfter inferred ds = (castOf inferred (numberOf ds)).toList := by
  unfold castAfter numberOf
  cases Number.natural? ds with
  | none => rfl
  | some number =>
    cases number with
    | zero => rfl
    | succ number =>
      simp only [Option.getD_some, castOf]
      cases inferred[number]? with
      | none => rfl
      | some typeName =>
        by_cases cast : needsCast typeName
        · simp only [if_pos cast, String.toList_append]
          rfl
        · simp only [if_neg cast]
          rfl

/-! ### Marks -/

/-- A text with the cast of each mark before its character; the last mark stands at the end. -/
def insertCasts (inferred : List String) : List Nat → List Char → List Char
  | marks, [] => (castOf inferred (marks.headD 0)).toList
  | marks, c :: s =>
    (castOf inferred (marks.headD 0)).toList ++ c :: insertCasts inferred marks.tail s

/-- The number of the placeholder that ends at a place before the given character, or none. -/
def Place.ended (place : Place) (next : Option Char) : Nat :=
  match place with
  | .placeholder reversed => if next.any Char.isDigit then 0 else numberOf reversed.reverse
  | _ => 0

/-- The place after a character; the types of the parameters have no part in it. -/
def Place.after (place : Place) (c : Char) : Place :=
  (castStep [] place c).2

/-- The marks of a text that is read from a place on. -/
def marksFrom : Place → List Char → List Nat
  | place, [] => [place.ended none]
  | place, c :: s => place.ended (some c) :: marksFrom (place.after c) s

/-- **What is found as placeholders.** -/
def marks (sql : String) : List Nat :=
  marksFrom (.code none) sql.toList

theorem length_marksFrom (place : Place) (s : List Char) :
    (marksFrom place s).length = s.length + 1 := by
  induction s generalizing place with
  | nil => rfl
  | cons c s ih => exact congrArg (· + 1) (ih (place.after c))

/-- **A step adds the cast of the placeholder that ends there**, and goes on from the same place. -/
theorem castStep_eq (place : Place) (c : Char) :
    castStep inferred place c =
      ((castOf inferred (place.ended (some c))).toList, place.after c) := by
  cases place with
  | placeholder reversed =>
    simp only [castStep, Place.ended, Place.after, Option.any_some, castAfter_eq_castOf]
    split <;> rfl
  | _ => rfl

theorem castFrom_eq_insertCasts (place : Place) (s : List Char) :
    castFrom inferred place s = insertCasts inferred (marksFrom place s) s := by
  induction s generalizing place with
  | nil =>
    cases place with
    | placeholder reversed => exact castAfter_eq_castOf reversed.reverse
    | _ => rfl
  | cons c s ih => simp only [castFrom, castStep_eq, ih, marksFrom, insertCasts, List.headD_cons,
    List.tail_cons]

/-- **The casts of a statement stand where its marks are.** -/
theorem castPlaceholders_eq_insertCasts (sql : String) (inferred : List String) :
    castPlaceholders sql inferred =
      String.ofList (insertCasts inferred (marks sql) sql.toList) :=
  congrArg String.ofList (castFrom_eq_insertCasts _ _)

/-! ### Marks show in the text -/

/-- A name of a type, of one letter more than the given number. -/
def longName (length : Nat) : String :=
  String.ofList (List.replicate (length + 1) 'a')

/-- Types of which only the one with the given number is cast. -/
def onlyType (number length : Nat) : List String :=
  List.replicate (number - 1) "" ++ [longName length]

theorem longName_toList (length : Nat) :
    (longName length).toList = List.replicate (length + 1) 'a' :=
  String.toList_ofList

/-- A name of that kind has a cast, and is its own target. -/
theorem cast_longName (length : Nat) :
    needsCast (longName length) = true ∧ castTarget (longName length) = longName length := by
  have other : ∀ typeName ∈ "" :: "CHAR[]" :: textTypes, typeName.toList.head? ≠ some 'a' := by
    decide +kernel
  have differs : ∀ typeName ∈ "" :: "CHAR[]" :: textTypes, longName length ≠ typeName := by
    intro typeName member same
    exact other typeName member (by rw [← same, longName_toList]; rfl)
  constructor
  · have plain : (longName length).toList.all isTypeNameChar = true := by
      rw [longName_toList, List.all_replicate]
      exact if_neg (Nat.succ_ne_zero length)
    have text : textTypes.contains (longName length) = false := by
      rw [List.contains_eq_mem]
      exact decide_eq_false fun member =>
        differs _ (List.mem_cons_of_mem _ (List.mem_cons_of_mem _ member)) rfl
    have nonempty : (longName length).isEmpty = false :=
      Bool.eq_false_iff.mpr fun empty =>
        differs "" List.mem_cons_self (String.isEmpty_iff.mp empty)
    unfold needsCast
    rw [plain, text, nonempty]
    rfl
  · unfold castTarget
    rw [if_neg (differs "CHAR[]" (by decide)), longName_toList, List.map_replicate]
    rfl

/-- The one type that is cast has a cast as long as its name. -/
theorem castOf_onlyType {number : Nat} (positive : 0 < number) (length : Nat) :
    (castOf (onlyType number length) number).toList =
      ':' :: ':' :: List.replicate (length + 1) 'a' := by
  obtain ⟨before, rfl⟩ := Nat.exists_eq_add_one.mpr positive
  have found : (onlyType (before + 1) length)[before]? = some (longName length) := by
    unfold onlyType
    rw [List.getElem?_append_right (by simp)]
    simp
  have written : castOf (onlyType (before + 1) length) (before + 1) = "::" ++ longName length := by
    simp only [castOf, found, (cast_longName length).1, (cast_longName length).2, if_true]
  rw [written, String.toList_append, longName_toList]
  rfl

/-- No other type is cast. -/
theorem castOf_onlyType_of_ne {number other : Nat} (different : other ≠ number)
    (positive : 0 < number) (length : Nat) : castOf (onlyType number length) other = "" := by
  cases other with
  | zero => rfl
  | succ before =>
    simp only [castOf, onlyType, List.getElem?_append, List.length_replicate,
      List.getElem?_replicate, List.getElem?_singleton]
    by_cases earlier : before < number - 1
    · simp only [if_pos earlier]
      rfl
    · have later : ¬before - (number - 1) = 0 := by omega
      simp only [if_neg earlier, if_neg later]

section OnlyType

variable {number length count : Nat} {marks : List Nat} {s : List Char}

/-- A cast is empty, or it is long and begins with a colon. -/
theorem castOf_cases (positive : 0 < number) (length mark : Nat) :
    (castOf (onlyType number length) mark).toList = [] ∨
      (castOf (onlyType number length) mark).toList =
        ':' :: ':' :: List.replicate (length + 1) 'a' := by
  by_cases same : mark = number
  · exact .inr (same ▸ castOf_onlyType (same ▸ positive) length)
  · refine .inl ?_
    rw [castOf_onlyType_of_ne same positive]
    rfl

/-- **No text begins with more letters than it has characters**, wherever the type is cast. -/
theorem letters_le_length (positive : 0 < number)
    (letters : List.replicate count 'a' <+: insertCasts (onlyType number length) marks s) :
    count ≤ s.length := by
  induction s generalizing marks count with
  | nil =>
    cases count with
    | zero => exact Nat.le_refl 0
    | succ count =>
      rw [insertCasts] at letters
      rcases castOf_cases positive length (marks.headD 0) with none | cast
      · rw [none] at letters
        cases List.prefix_nil.mp letters
      · rw [cast] at letters
        cases (List.cons_prefix_cons.mp letters).1
  | cons c s ih =>
    cases count with
    | zero => exact Nat.zero_le _
    | succ count =>
      rw [insertCasts] at letters
      rcases castOf_cases positive length (marks.headD 0) with none | cast
      · rw [none] at letters
        exact Nat.succ_le_succ (ih (List.cons_prefix_cons.mp letters).2)
      · rw [cast] at letters
        cases (List.cons_prefix_cons.mp letters).1

/-- Nor does it begin with a colon and as many letters. -/
theorem colon_letters_le_length (positive : 0 < number)
    (letters : ':' :: List.replicate (count + 1) 'a' <+:
      insertCasts (onlyType number length) marks s) :
    count + 1 < s.length + 1 := by
  cases s with
  | nil =>
    rw [insertCasts] at letters
    rcases castOf_cases positive length (marks.headD 0) with none | cast
    · rw [none] at letters
      cases List.prefix_nil.mp letters
    · rw [cast] at letters
      cases (List.cons_prefix_cons.mp (List.cons_prefix_cons.mp letters).2).1
  | cons c s =>
    rw [insertCasts] at letters
    rcases castOf_cases positive length (marks.headD 0) with none | cast
    · rw [none] at letters
      have few := letters_le_length positive (List.cons_prefix_cons.mp letters).2
      rw [List.length_cons]
      omega
    · rw [cast] at letters
      cases (List.cons_prefix_cons.mp (List.cons_prefix_cons.mp letters).2).1

end OnlyType

/-- **A first mark shows in the text**: with its type as the only one that is cast, to a name longer
than the text, no other mark gives the same. -/
theorem insertCasts_ne {mark other : Nat} {marks others : List Nat} {s : List Char}
    (positive : 0 < mark) (different : other ≠ mark) :
    insertCasts (onlyType mark s.length) (mark :: marks) s ≠
      insertCasts (onlyType mark s.length) (other :: others) s := by
  intro same
  have cast := castOf_onlyType positive s.length
  have none := castOf_onlyType_of_ne different positive s.length
  cases s with
  | nil =>
    simp only [insertCasts, List.headD_cons, cast, none] at same
    cases same
  | cons c s =>
    simp only [insertCasts, List.headD_cons, List.tail_cons, cast, none] at same
    -- The second colon and the name would have to come from what follows the first character.
    obtain ⟨-, rest⟩ := List.cons.inj same
    have begins : ':' :: List.replicate ((c :: s).length + 1) 'a' <+:
        insertCasts (onlyType mark (c :: s).length) others s :=
      ⟨_, rest⟩
    have few := colon_letters_le_length positive begins
    rw [List.length_cons] at few
    omega

/-- The first marks of texts that are always the same. -/
theorem mark_eq_of_insertCasts {mark other : Nat} {marks others : List Nat} {s : List Char}
    (same : ∀ inferred,
      insertCasts inferred (mark :: marks) s = insertCasts inferred (other :: others) s) :
    mark = other := by
  by_contra different
  rcases Nat.eq_zero_or_pos mark with rfl | positive
  · exact insertCasts_ne (Nat.pos_of_ne_zero (Ne.symm different)) different (same _).symm
  · exact insertCasts_ne positive (Ne.symm different) (same _)

/-- **Other marks, other texts.** Two lists of marks that give the same text for all types of the
parameters are the same. -/
theorem insertCasts_injective {marks others : List Nat} {s : List Char}
    (length : marks.length = s.length + 1) (lengthToo : others.length = s.length + 1)
    (same : ∀ inferred, insertCasts inferred marks s = insertCasts inferred others s) :
    marks = others := by
  induction s generalizing marks others with
  | nil =>
    obtain ⟨mark, rfl⟩ := List.length_eq_one_iff.mp length
    obtain ⟨other, rfl⟩ := List.length_eq_one_iff.mp lengthToo
    rw [mark_eq_of_insertCasts same]
  | cons c s ih =>
    cases marks with
    | nil => cases length
    | cons mark marks =>
      cases others with
      | nil => cases lengthToo
      | cons other others =>
        obtain rfl := mark_eq_of_insertCasts same
        refine congrArg _ (ih (Nat.succ.inj length) (Nat.succ.inj lengthToo) fun inferred => ?_)
        exact (List.cons.inj (List.append_cancel_left (same inferred))).2

end TenantReports.Postgres

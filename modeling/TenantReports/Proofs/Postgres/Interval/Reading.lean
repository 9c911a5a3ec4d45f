import TenantReports.Proofs.Postgres.Interval.Parts
import TenantReports.Proofs.Text.Pieces

/-!
# The text of an interval, read

**The text of an interval is read as the interval.** The reader knows nothing of how a text was
written: it takes the words between blanks, a signed number and a unit for each of years, months and
days, then a time of day whose sign counts for all of it.

* `clock?_clock`: a time of day is read to the microsecond.
* `readField?_optional`: a field is read whether it was written or not, and the rest is left.
* `ofText?_text`: what is read is the interval.
* `text_lossless`: no two intervals share a text, and no number leaves its machine word.
-/

namespace TenantReports.Postgres

open Number

/-! ### Reading -/

/-- A span of time of any size. -/
structure TimeSpan where
  months : Int
  days : Int
  microseconds : Int
  deriving DecidableEq

namespace TimeSpan

/-- Reads a magnitude that a sign may precede. -/
def signed? (magnitude? : List Char → Option Nat) : List Char → Option Int
  | '-' :: rest => (magnitude? rest).map fun n : Nat => -(n : Int)
  | '+' :: rest => (magnitude? rest).map fun n : Nat => (n : Int)
  | s => (magnitude? s).map fun n : Nat => (n : Int)

/-- Reads the minutes of an hour or the seconds of a minute: two digits. -/
def sixtieth? (s : List Char) : Option Nat :=
  if s.length = 2 then (natural? s).filter (· < 60) else none

/-- Reads a fraction of a second in microseconds: up to six digits. -/
def fraction? (s : List Char) : Option Nat :=
  if s.length ≤ 6 then (natural? s).map (· * Nat.pow 10 (6 - s.length)) else none

/-- Reads the seconds of a minute in microseconds; a fraction may follow them after a point. -/
def seconds? (s : List Char) : Option Nat :=
  match s.splitOn '.' with
  | [whole] => do return (← sixtieth? whole) * 1000000
  | [whole, fraction] => do return (← sixtieth? whole) * 1000000 + (← fraction? fraction)
  | _ => none

/-- Reads a time of day in microseconds: hours, minutes and seconds with colons between them. -/
def clock? (s : List Char) : Option Nat :=
  match s.splitOn ':' with
  | [hours, minutes, seconds] => do
    return (← natural? hours) * 3600000000 + (← sixtieth? minutes) * 60000000 + (← seconds? seconds)
  | _ => none

/-- Reads a number of units if that is what the words start with, in singular or plural; the words
that are left. A unit that is not there counts nought. -/
def readField? (unit : String) : List (List Char) → Option (Int × List (List Char))
  | number :: name :: rest =>
    if name = unit.toList ∨ name = unit.toList ++ ['s'] then
      (signed? natural? number).map fun value => (value, rest)
    else some (0, number :: name :: rest)
  | words => some (0, words)

/-- Reads what may follow the fields: a time of day in one word. -/
def readTime? : List (List Char) → Option Int
  | [] => some 0
  | [time] => signed? clock? time
  | _ => none

/-- Reads a text in the style of the server. -/
def ofText? (text : String) : Option TimeSpan := do
  let words := text.toList.splitOn ' '
  let (years, words) ← readField? "year" words
  let (months, words) ← readField? "mon" words
  let (days, words) ← readField? "day" words
  let microseconds ← readTime? words
  return ⟨12 * years + months, days, microseconds⟩

end TimeSpan

namespace Interval

open TimeSpan

/-! ### Reading a time of day -/

/-- **A fraction is read to the microsecond.** -/
theorem fraction?_fractionDigits {microseconds : Nat} (some : microseconds ≠ 0)
    (fits : microseconds < 1000000) :
    fraction? (fractionDigits microseconds) = .some microseconds := by
  obtain ⟨zeros, split⟩ := padded_eq_fractionDigits microseconds
  have width : (fractionDigits microseconds).length + zeros = 6 := by
    rw [← length_padded (by decide : 0 < 6) fits, split, List.length_append,
      List.length_replicate]
  have value : accumulate 0 (fractionDigits microseconds) * Nat.pow 10 zeros = microseconds := by
    rw [← accumulate_append_zeros, ← split, accumulate_padded]
  have digit : ∀ c ∈ fractionDigits microseconds, c.isDigit = true := fun c member =>
    isDigit_of_mem_padded (split ▸ List.mem_append_left _ member)
  have filled : fractionDigits microseconds ≠ [] := fun empty => some <| by
    rw [← value, empty]
    exact Nat.zero_mul _
  have left : 6 - (fractionDigits microseconds).length = zeros := by omega
  rw [fraction?, if_pos (by omega), natural?_of_isDigit filled digit, left]
  exact congrArg Option.some value

theorem sixtieth?_padded {n : Nat} (small : n < 60) : sixtieth? (padded 2 n) = some n := by
  have width : (padded 2 n).length = 2 := length_padded (by decide) (show n < 100 by omega)
  rw [sixtieth?, if_pos width, natural?_padded, Option.filter_some, if_pos (decide_eq_true small)]

theorem seconds?_secondsText {seconds fraction : Nat} (small : seconds < 60)
    (fits : fraction < 1000000) :
    seconds? (secondsText seconds fraction) = some (seconds * 1000000 + fraction) := by
  have whole : '.' ∉ padded 2 seconds := notMem_padded (by decide) _ _
  by_cases none : fraction = 0
  · have cut := List.splitOn_intercalate '.' (List.forall_mem_singleton.mpr whole)
      (List.cons_ne_nil _ _)
    rw [List.intercalate_singleton] at cut
    rw [secondsText, if_pos none, List.append_nil, seconds?, cut, none, Nat.add_zero]
    dsimp only
    rw [sixtieth?_padded small]
    rfl
  · have free : ∀ piece ∈ [padded 2 seconds, fractionDigits fraction], '.' ∉ piece :=
      List.forall_mem_cons.mpr ⟨whole, List.forall_mem_singleton.mpr
        (notMem_fractionDigits (by decide) fraction)⟩
    have cut := List.splitOn_intercalate '.' free (List.cons_ne_nil _ _)
    rw [List.intercalate_cons_cons, List.intercalate_singleton, List.append_assoc,
      List.singleton_append] at cut
    rw [secondsText, if_neg none, seconds?, cut]
    dsimp only
    rw [sixtieth?_padded small, fraction?_fractionDigits none fits]
    rfl

/-- **A time of day is read to the microsecond.** -/
theorem clock?_clock (microseconds : Nat) : clock? (clock microseconds) = some microseconds := by
  have free : ∀ piece ∈ [padded 2 (microseconds / 1000000 / 3600),
      padded 2 (microseconds / 1000000 / 60 % 60),
      secondsText (microseconds / 1000000 % 60) (microseconds % 1000000)], ':' ∉ piece :=
    List.forall_mem_cons.mpr ⟨notMem_padded (by decide) _ _,
      List.forall_mem_cons.mpr ⟨notMem_padded (by decide) _ _,
        List.forall_mem_singleton.mpr (notMem_secondsText (by decide) (by decide) _ _)⟩⟩
  have cut := List.splitOn_intercalate ':' free (List.cons_ne_nil _ _)
  rw [← clock_eq] at cut
  rw [clock?, cut]
  dsimp only
  rw [natural?_padded, sixtieth?_padded (Nat.mod_lt _ (by decide)),
    seconds?_secondsText (Nat.mod_lt _ (by decide)) (Nat.mod_lt _ (by decide))]
  refine congrArg some ?_
  omega

/-! ### Reading signs and fields -/

theorem signed?_of_isDigit (magnitude? : List Char → Option Nat) {s : List Char}
    (digit : ∀ c ∈ s.head?, c.isDigit = true) :
    signed? magnitude? s = (magnitude? s).map fun n : Nat => (n : Int) := by
  unfold signed?
  split
  · cases digit _ rfl
  · cases digit _ rfl
  · rfl

namespace Part

/-- The word for a number of units. -/
def numberWord (afterNegative : Bool) (value : Int) : List Char :=
  (if afterNegative && decide (0 < value) then ['+'] else []) ++ (signedDecimal value).toList

/-- The word for a unit, in singular or plural. -/
def unitWord (value : Int) (unit : String) : List Char :=
  unit.toList ++ if value = 1 then [] else ['s']

/-- **A signed number is read**, whether a plus sign was written or not. -/
theorem signed?_numberWord (afterNegative : Bool) (value : Int) :
    signed? natural? (numberWord afterNegative value) = some value := by
  cases value with
  | ofNat n =>
    unfold numberWord signedDecimal decimal
    rw [String.toList_ofList]
    split
    · exact congrArg (Option.map fun n : Nat => (n : Int)) (natural?_digits n)
    · have plain : signed? natural? (digits n) = _ := signed?_of_isDigit natural? fun c first =>
        isDigit_of_mem_digits (List.mem_of_mem_head? first)
      rw [List.nil_append, plain, natural?_digits]
      rfl
  | negSucc n =>
    have back : decide (0 < Int.negSucc n) = false := rfl
    have word : numberWord afterNegative (.negSucc n) = '-' :: digits (n + 1) := by
      rw [numberWord, back, Bool.and_false, if_neg Bool.false_ne_true, signedDecimal,
        String.toList_append, decimal, String.toList_ofList (l := digits (n + 1))]
      rfl
    rw [word]
    exact congrArg (Option.map fun n : Nat => -(n : Int)) (natural?_digits (n + 1))

/-- A time of day starts with a digit. -/
theorem isDigit_head?_clock {microseconds : Nat} {c : Char}
    (first : c ∈ (clock microseconds).head?) : c.isDigit = true := by
  rw [clock_eq, List.intercalate_cons_cons, List.append_assoc,
    List.head?_append_of_ne_nil _ (padded_ne_nil _ _)] at first
  exact isDigit_of_mem_padded (List.mem_of_mem_head? first)

/-- **A signed time of day is read**: the sign counts for all of it. -/
theorem signed?_time (afterNegative : Bool) (microseconds : Int) :
    signed? clock? ((time microseconds).signed afterNegative).toList = some microseconds := by
  have magnitude := clock?_clock microseconds.natAbs
  rw [← signed_time, String.toList_append, String.toList_ofList]
  by_cases negative : microseconds < 0
  · have value : -(microseconds.natAbs : Int) = microseconds := by omega
    rw [if_pos negative, ← congrArg some value]
    exact congrArg (Option.map fun n : Nat => -(n : Int)) magnitude
  · have value : (microseconds.natAbs : Int) = microseconds := by omega
    rw [if_neg negative, ← congrArg some value]
    cases afterNegative with
    | true => exact congrArg (Option.map fun n : Nat => (n : Int)) magnitude
    | false =>
      have plain : signed? clock? (clock microseconds.natAbs) = _ :=
        signed?_of_isDigit clock? fun c => isDigit_head?_clock
      exact plain.trans (congrArg (Option.map fun n : Nat => (n : Int)) magnitude)

theorem toList_signed_field (afterNegative : Bool) (value : Int) (unit : String) :
    ((field value unit).signed afterNegative).toList =
      [' '].intercalate [numberWord afterNegative value, unitWord value unit] := by
  have plus : (if afterNegative && decide (0 < value) then "+" else "").toList =
      if afterNegative && decide (0 < value) then ['+'] else [] := by split <;> rfl
  have plural : (if value = 1 then "" else "s").toList = if value = 1 then [] else ['s'] := by
    split <;> rfl
  rw [List.intercalate_cons_cons, List.intercalate_singleton, numberWord, unitWord, ← plus,
    ← plural, signed, bare, forward]
  simp only [String.toList_append, List.append_assoc]
  rfl

/-! ### The words of a text -/

/-- The words of parts that follow a negative one, or do not. -/
def words (afterNegative : Bool) (parts : List Part) : List (List Char) :=
  (written afterNegative parts).flatMap fun piece => piece.toList.splitOn ' '

/-- A field is a number and a unit. -/
theorem words_field {unit : String} (whole : ' ' ∉ unit.toList) (afterNegative : Bool)
    (value : Int) (rest : List Part) :
    words afterNegative (field value unit :: rest) =
      numberWord afterNegative value :: unitWord value unit :: words (value < 0) rest := by
  have number : ' ' ∉ numberWord afterNegative value := by
    intro member
    rcases List.mem_append.mp member with sign | number
    · split at sign
      · cases List.mem_singleton.mp sign
      · cases sign
    · exact notMem_signedDecimal (by decide) (by decide) value number
  have name : ' ' ∉ unitWord value unit := by
    intro member
    rcases List.mem_append.mp member with inside | plural
    · exact whole inside
    · split at plural
      · cases plural
      · cases List.mem_singleton.mp plural
  have free : ∀ word ∈ [numberWord afterNegative value, unitWord value unit], ' ' ∉ word :=
    List.forall_mem_cons.mpr ⟨number, List.forall_mem_singleton.mpr name⟩
  have cut := List.splitOn_intercalate ' ' free (List.cons_ne_nil _ _)
  rw [← toList_signed_field] at cut
  exact congrArg (· ++ words (value < 0) rest) cut

/-- A time of day is one word. -/
theorem words_time (afterNegative : Bool) (microseconds : Int) :
    words afterNegative [time microseconds] =
      [((time microseconds).signed afterNegative).toList] := by
  have whole : ' ' ∉ ((time microseconds).signed afterNegative).toList := by
    intro member
    rw [signed, String.toList_append] at member
    rcases List.mem_append.mp member with sign | bare
    · split at sign
      · cases List.mem_singleton.mp sign
      · cases sign
    · exact notMem_time (by decide) (by decide) (by decide) (by decide) _ bare
  have cut := List.splitOn_intercalate ' ' (List.forall_mem_singleton.mpr whole)
    (List.cons_ne_nil _ _)
  rw [List.intercalate_singleton] at cut
  rw [words, written, written, List.flatMap_singleton, cut]

/-! ### Reading fields -/

/-- Parts that do not start with a number of the unit. -/
def Without (unit : String) (parts : List Part) : Prop :=
  ∀ (afterNegative : Bool) (number name : List Char) (rest : List (List Char)),
    words afterNegative parts = number :: name :: rest →
      name ≠ unit.toList ∧ name ≠ unit.toList ++ ['s']

theorem without_nil (unit : String) : Without unit [] := by
  intro _ _ _ _ same
  cases same

theorem without_time (unit : String) (microseconds : Int) :
    Without unit [time microseconds] := by
  intro _ _ _ _ same
  rw [words_time] at same
  cases same

/-- A field of another unit, or none, before parts without the unit. -/
theorem Without.optional {unit : String} {rest : List Part} (without : Without unit rest)
    (value : Int) (other : String) (whole : ' ' ∉ other.toList)
    (differ : ∀ ending ∈ [[], ['s']], other.toList ++ ending ≠ unit.toList ∧
      other.toList ++ ending ≠ unit.toList ++ ['s']) :
    Without unit (Part.optional value other ++ rest) := by
  intro _ _ _ _ same
  unfold Part.optional at same
  split at same
  · exact without _ _ _ _ same
  · rw [List.singleton_append, words_field whole] at same
    cases same
    refine differ _ ?_
    split
    · exact List.mem_cons_self
    · exact List.mem_cons_of_mem _ List.mem_cons_self

/-- **A field is read whether it was written or not**, and the words after it are left. -/
theorem readField?_optional {unit : String} {rest : List Part} (whole : ' ' ∉ unit.toList)
    (without : Without unit rest) (afterNegative : Bool) (value : Int) :
    ∃ negative, readField? unit (words afterNegative (Part.optional value unit ++ rest)) =
      some (value, words negative rest) := by
  unfold Part.optional
  split
  · next zero =>
    -- Nothing was written, so the words start with a later unit or with the time of day.
    refine ⟨afterNegative, ?_⟩
    rw [List.nil_append, zero]
    unfold readField?
    split
    · next number name others same =>
      obtain ⟨singular, plural⟩ := without _ _ _ _ same
      rw [if_neg (not_or.mpr ⟨singular, plural⟩), same]
    · rfl
  · refine ⟨decide (value < 0), ?_⟩
    have named : unitWord value unit = unit.toList ∨ unitWord value unit = unit.toList ++ ['s'] := by
      unfold unitWord
      split
      · exact .inl (List.append_nil _)
      · exact .inr rfl
    rw [List.singleton_append, words_field whole, readField?, if_pos named, signed?_numberWord]
    rfl

end Part

theorem parts_ne_nil (interval : Interval) : interval.parts ≠ [] := by
  intro empty
  obtain ⟨none, time⟩ := List.append_eq_nil_iff.mp empty
  rw [none] at time
  cases time

/-- The words between the blanks of the text. -/
theorem splitOn_text (interval : Interval) :
    interval.text.toList.splitOn ' ' = Part.words false interval.parts := by
  have some : (Part.written false interval.parts).map String.toList ≠ [] := fun empty =>
    interval.parts_ne_nil (List.length_eq_zero_iff.mp
      ((Part.length_written false _).symm.trans
        (congrArg List.length (List.map_eq_nil_iff.mp empty))))
  rw [text_eq_written, String.toList_intercalate]
  have blank : " ".toList = [' '] := rfl
  rw [blank, Text.splitOn_intercalate some, List.flatMap_map]
  rfl

/-- **What is read is the interval.** -/
theorem ofText?_text (interval : Interval) : TimeSpan.ofText? interval.text =
    some ⟨interval.months.toInt, interval.days.toInt, interval.microseconds.toInt⟩ := by
  -- What follows the fields is at most one word, which no unit starts with.
  obtain ⟨time, shape, withoutUnit, read⟩ : ∃ time : List Part,
      interval.parts = interval.dates ++ time ∧ (∀ unit, Part.Without unit time) ∧
      ∀ afterNegative, readTime? (Part.words afterNegative time) =
        some interval.microseconds.toInt := by
    refine ⟨_, rfl, ?_⟩
    split
    · refine ⟨fun unit => Part.without_time unit _, fun afterNegative => ?_⟩
      rw [Part.words_time]
      exact Part.signed?_time afterNegative _
    · next written =>
      have zero : interval.microseconds.toInt = 0 := by
        by_contra some
        exact written (Bool.or_eq_true_iff.mpr (.inr (decide_eq_true some)))
      exact ⟨fun unit => Part.without_nil unit, fun _ => congrArg some zero.symm⟩
  have noMonth := (withoutUnit "mon").optional interval.days.toInt "day" (by decide) (by decide)
  have noYear := ((withoutUnit "year").optional interval.days.toInt "day" (by decide)
    (by decide)).optional (interval.months.toInt.tmod 12) "mon" (by decide) (by decide)
  obtain ⟨afterYears, years⟩ := Part.readField?_optional (by decide) noYear false
    (interval.months.toInt.tdiv 12)
  obtain ⟨afterMonths, months⟩ := Part.readField?_optional (by decide) noMonth afterYears
    (interval.months.toInt.tmod 12)
  obtain ⟨afterDays, days⟩ := Part.readField?_optional (by decide) (withoutUnit "day") afterMonths
    interval.days.toInt
  have whole : 12 * interval.months.toInt.tdiv 12 + interval.months.toInt.tmod 12 =
      interval.months.toInt := Int.mul_tdiv_add_tmod _ _
  unfold TimeSpan.ofText?
  rw [splitOn_text, shape, dates, List.append_assoc, List.append_assoc]
  simp only [years, months, days, read afterDays, whole, Option.bind_eq_bind, Option.bind_some]
  rfl

/-! ### The text and the interval -/

/-- **The text of an interval loses nothing**: it is read as the interval, no two intervals share a
text, no number leaves its machine word, and the plus signs are those that are needed. -/
theorem text_lossless :
    (∀ interval : Interval, TimeSpan.ofText? interval.text =
      some ⟨interval.months.toInt, interval.days.toInt, interval.microseconds.toInt⟩) ∧
    (∀ first second : Interval, first.text = second.text ↔ first = second) ∧
    (∀ interval : Interval, interval.WithinWords) ∧
    ∀ interval : Interval, ∃ pieces, interval.text = " ".intercalate pieces ∧
      Part.PlusSigned interval.parts pieces := by
  refine ⟨ofText?_text, fun first second => ⟨fun same => ?_, fun same => same ▸ rfl⟩,
    withinWords, fun interval =>
      ⟨_, interval.text_eq_written, interval.plusSigned_written⟩⟩
  have read := (ofText?_text first).symm.trans
    ((congrArg TimeSpan.ofText? same).trans (ofText?_text second))
  obtain ⟨months, days, microseconds⟩ := TimeSpan.mk.inj (Option.some.inj read)
  cases first
  cases second
  rw [Interval.mk.injEq]
  exact ⟨Int32.toInt_inj.mp months, Int32.toInt_inj.mp days, Int64.toInt_inj.mp microseconds⟩

/-- The sign of a time of day counts for all of it. -/
example : TimeSpan.ofText? "-1 years -11 mons +3 days -04:05:06.5" =
    some ⟨-23, 3, -14706500000⟩ := by
  decide +kernel

end Interval

end TenantReports.Postgres

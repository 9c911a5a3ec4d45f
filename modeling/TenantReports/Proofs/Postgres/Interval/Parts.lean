import Mathlib.Data.List.TakeWhile
import TenantReports.Postgres.Interval
import TenantReports.Proofs.Number.Padded

/-!
# The parts of the text of an interval

**The text of an interval is its parts**: years, months and days that are not zero, then the time of
day. What each part is can be told from the interval, and its sign from the part before it.

* `text_eq_written`: the text is its parts, a plus sign before those that go on after a negative one.
* `clock_eq`: a time of day is hours, minutes and seconds with colons between them.
* `plusSigned_written`: the parts have the plus signs that they need, and no others.
* `withinWords`: no number leaves the machine word that it is computed in.
-/

namespace TenantReports.Postgres.Interval

open Number

/-! ### Parts -/

/-- A part of the text of an interval. -/
inductive Part
  /-- Years, months or days. -/
  | field (value : Int) (unit : String)
  /-- The time of day. -/
  | time (microseconds : Int)

namespace Part

/-- How much a part counts, in a unit of its own. -/
def value : Part → Int
  | field value _ => value
  | time microseconds => microseconds

/-- Whether a part is positive, or, if it is the time of day, not negative. -/
def forward : Part → Bool
  | field value _ => 0 < value
  | time microseconds => 0 ≤ microseconds

/-- The text of a part without a plus sign. -/
def bare : Part → String
  | field value unit => signedDecimal value ++ " " ++ unit ++ (if value = 1 then "" else "s")
  | time microseconds =>
    (if microseconds < 0 then "-" else "") ++ String.ofList (clock microseconds.natAbs)

/-- The text of a part that follows a negative one, or does not. -/
def signed (afterNegative : Bool) (part : Part) : String :=
  (if afterNegative && part.forward then "+" else "") ++ part.bare

/-- The texts of parts that follow a negative one, or do not. -/
def written : Bool → List Part → List String
  | _, [] => []
  | afterNegative, part :: rest => part.signed afterNegative :: written (part.value < 0) rest

/-- Whether what follows the parts follows a negative one. -/
def endsNegative : Bool → List Part → Bool
  | afterNegative, [] => afterNegative
  | _, part :: rest => endsNegative (part.value < 0) rest

/-- A field unless it is zero. -/
def optional (value : Int) (unit : String) : List Part :=
  if value = 0 then [] else [field value unit]

theorem written_append (afterNegative : Bool) (parts others : List Part) :
    written afterNegative (parts ++ others) =
      written afterNegative parts ++ written (endsNegative afterNegative parts) others := by
  induction parts generalizing afterNegative with
  | nil => rfl
  | cons part parts ih => exact congrArg (part.signed afterNegative :: ·) (ih _)

theorem length_written (afterNegative : Bool) (parts : List Part) :
    (written afterNegative parts).length = parts.length := by
  induction parts generalizing afterNegative with
  | nil => rfl
  | cons part parts ih => exact congrArg Nat.succ (ih _)

end Part

/-- The fields that are not zero. -/
def dates (interval : Interval) : List Part :=
  Part.optional (interval.months.toInt.tdiv 12) "year" ++
    (Part.optional (interval.months.toInt.tmod 12) "mon" ++
      Part.optional interval.days.toInt "day")

/-- The fields that are not zero, and the time of day unless it is zero and follows a field. -/
def parts (interval : Interval) : List Part :=
  interval.dates ++ if interval.dates.isEmpty || interval.microseconds.toInt ≠ 0 then
    [.time interval.microseconds.toInt] else []

theorem fields_eq (afterNegative : Bool) (list : List (Int × String)) :
    fields afterNegative list =
      (Part.written afterNegative (list.flatMap fun entry => Part.optional entry.1 entry.2),
        Part.endsNegative afterNegative (list.flatMap fun entry =>
          Part.optional entry.1 entry.2)) := by
  induction list generalizing afterNegative with
  | nil => rfl
  | cons entry list ih =>
    obtain ⟨value, unit⟩ := entry
    rw [List.flatMap_cons, fields, Part.optional]
    split
    · exact ih afterNegative
    · rw [ih]
      have same : field afterNegative value unit = (Part.field value unit).signed afterNegative := by
        simp only [field, Part.signed, Part.bare, Part.forward, String.append_assoc]
        rfl
      rw [same]
      rfl

theorem signed_time (afterNegative : Bool) (microseconds : Int) :
    (if microseconds < 0 then "-" else if afterNegative then "+" else "") ++
        String.ofList (clock microseconds.natAbs) =
      (Part.time microseconds).signed afterNegative := by
  by_cases negative : microseconds < 0
  · have back : decide (0 ≤ microseconds) = false := decide_eq_false (Int.not_le.mpr negative)
    simp only [Part.signed, Part.bare, Part.forward, back, negative, Bool.and_false, if_true]
    rfl
  · have on : decide (0 ≤ microseconds) = true := decide_eq_true (Int.not_lt.mp negative)
    simp only [Part.signed, Part.bare, Part.forward, on, negative, Bool.and_true, if_false]
    rfl

/-- **The text is its parts**, a plus sign before those that go on after a negative one. -/
theorem text_eq_written (interval : Interval) :
    interval.text = " ".intercalate (Part.written false interval.parts) := by
  have dates : fields false [(interval.months.toInt.tdiv 12, "year"),
      (interval.months.toInt.tmod 12, "mon"), (interval.days.toInt, "day")] =
      (Part.written false interval.dates, Part.endsNegative false interval.dates) := by
    rw [fields_eq, List.flatMap_cons, List.flatMap_cons, List.flatMap_singleton]
    rfl
  have empty : (Part.written false interval.dates).isEmpty = interval.dates.isEmpty := by
    cases interval.dates <;> rfl
  unfold text parts
  dsimp only
  rw [dates, Part.written_append]
  dsimp only
  rw [empty]
  split
  · rw [signed_time]
    rfl
  · rfl

/-! ### Characters -/

/-- A fraction is its digits without the zeros at the end. -/
theorem padded_eq_fractionDigits (microseconds : Nat) :
    ∃ zeros, padded 6 microseconds =
      fractionDigits microseconds ++ List.replicate zeros '0' := by
  refine ⟨((padded 6 microseconds).reverse.takeWhile (· == '0')).length, ?_⟩
  have zeros := List.eq_replicate_of_mem fun c
      (member : c ∈ (padded 6 microseconds).reverse.takeWhile (· == '0')) =>
    eq_of_beq (List.mem_takeWhile_imp (p := (· == '0')) member)
  rw [fractionDigits, ← List.reverse_replicate, ← zeros, ← List.reverse_append,
    List.takeWhile_append_dropWhile, List.reverse_reverse]

theorem notMem_padded {c : Char} (other : c.isDigit = false) (width n : Nat) :
    c ∉ padded width n :=
  fun member => Bool.false_ne_true (other ▸ isDigit_of_mem_padded member)

theorem notMem_fractionDigits {c : Char} (other : c.isDigit = false) (microseconds : Nat) :
    c ∉ fractionDigits microseconds := by
  intro member
  obtain ⟨zeros, split⟩ := padded_eq_fractionDigits microseconds
  exact notMem_padded other 6 microseconds (split ▸ List.mem_append_left _ member)

/-- The seconds of a minute with their fraction. -/
def secondsText (seconds fraction : Nat) : List Char :=
  padded 2 seconds ++ (if fraction = 0 then [] else '.' :: fractionDigits fraction)

theorem notMem_secondsText {c : Char} (other : c.isDigit = false) (point : c ≠ '.')
    (seconds fraction : Nat) : c ∉ secondsText seconds fraction := by
  intro member
  rcases List.mem_append.mp member with whole | tail
  · exact notMem_padded other 2 seconds whole
  · split at tail
    · cases tail
    · rcases List.mem_cons.mp tail with same | digit
      · exact point same
      · exact notMem_fractionDigits other fraction digit

/-- A time of day is hours, minutes and seconds with colons between them. -/
theorem clock_eq (microseconds : Nat) :
    clock microseconds = [':'].intercalate [padded 2 (microseconds / 1000000 / 3600),
      padded 2 (microseconds / 1000000 / 60 % 60),
      secondsText (microseconds / 1000000 % 60) (microseconds % 1000000)] := by
  simp only [clock, secondsText, List.intercalate_cons_cons, List.intercalate_singleton,
    List.append_assoc, List.cons_append, List.nil_append]

theorem notMem_clock {c : Char} (other : c.isDigit = false) (point : c ≠ '.') (colon : c ≠ ':')
    (microseconds : Nat) : c ∉ clock microseconds := by
  intro member
  rw [clock_eq, List.intercalate_cons_cons, List.intercalate_cons_cons,
    List.intercalate_singleton] at member
  simp only [List.mem_append, List.mem_singleton] at member
  rcases member with (hours | same) | ((minutes | same) | seconds)
  · exact notMem_padded other _ _ hours
  · exact colon same
  · exact notMem_padded other _ _ minutes
  · exact colon same
  · exact notMem_secondsText other point _ _ seconds

theorem notMem_signedDecimal {c : Char} (other : c.isDigit = false) (minus : c ≠ '-')
    (value : Int) : c ∉ (signedDecimal value).toList := by
  intro member
  cases value with
  | ofNat n =>
    rw [signedDecimal, decimal, String.toList_ofList] at member
    exact Bool.false_ne_true (other ▸ isDigit_of_mem_digits member)
  | negSucc n =>
    rw [signedDecimal, String.toList_append, decimal,
      String.toList_ofList (l := digits (n + 1))] at member
    rcases List.mem_append.mp member with sign | digit
    · exact minus (List.mem_singleton.mp sign)
    · exact Bool.false_ne_true (other ▸ isDigit_of_mem_digits digit)

theorem notMem_time {c : Char} (other : c.isDigit = false) (point : c ≠ '.') (colon : c ≠ ':')
    (minus : c ≠ '-') (microseconds : Int) : c ∉ (Part.time microseconds).bare.toList := by
  intro member
  rw [Part.bare, String.toList_append, String.toList_ofList] at member
  rcases List.mem_append.mp member with sign | clock
  · split at sign
    · exact minus (List.mem_singleton.mp sign)
    · cases sign
  · exact notMem_clock other point colon _ clock

/-! ### Plus signs -/

namespace Part

/-- What stands at a place is positive, or not negative if it is the time of day, and what stands
before it is negative. -/
def PlusAt (parts : List Part) (place : Nat) : Prop :=
  ∃ previous before part, place = previous + 1 ∧ parts[previous]? = some before ∧
    before.value < 0 ∧ parts[place]? = some part ∧ part.forward = true

/-- **A plus sign stands before exactly the parts that go on after a negative one.** -/
structure PlusSigned (parts : List Part) (pieces : List String) : Prop where
  count : pieces.length = parts.length
  plus : ∀ place part, parts[place]? = some part → PlusAt parts place →
    pieces[place]? = some ("+" ++ part.bare)
  plain : ∀ place part, parts[place]? = some part → ¬PlusAt parts place →
    pieces[place]? = some part.bare
  free : ∀ part ∈ parts, '+' ∉ part.bare.toList

/-- Whether the part before a place is negative. -/
def negativeBefore (afterNegative : Bool) (parts : List Part) : Nat → Bool
  | 0 => afterNegative
  | previous + 1 => parts[previous]?.any (·.value < 0)

theorem getElem?_written (afterNegative : Bool) (parts : List Part) (place : Nat) :
    (written afterNegative parts)[place]? =
      parts[place]?.map (·.signed (negativeBefore afterNegative parts place)) := by
  induction parts generalizing afterNegative place with
  | nil => rfl
  | cons part rest ih =>
    match place with
    | 0 => rfl
    | 1 => exact ih _ 0
    | place + 2 => exact ih _ (place + 1)

theorem negativeBefore_eq_true_iff {parts : List Part} {place : Nat} {part : Part}
    (found : parts[place]? = some part) :
    (negativeBefore false parts place && part.forward) = true ↔ PlusAt parts place := by
  rw [Bool.and_eq_true_iff]
  constructor
  · rintro ⟨negative, forward⟩
    cases place with
    | zero => cases negative
    | succ previous =>
      obtain ⟨before, stands, below⟩ := (Option.any_eq_true _ _).mp negative
      exact ⟨previous, before, part, rfl, stands, of_decide_eq_true below, found, forward⟩
  · rintro ⟨previous, before, other, rfl, stands, below, same, forward⟩
    cases found.symm.trans same
    refine ⟨?_, forward⟩
    rw [negativeBefore, stands]
    exact decide_eq_true below

theorem plus_notMem_field {unit : String} (whole : '+' ∉ unit.toList) (value : Int) :
    '+' ∉ (field value unit).bare.toList := by
  intro member
  simp only [bare, String.toList_append, List.mem_append] at member
  rcases member with ((number | blank) | name) | plural
  · exact notMem_signedDecimal (by decide) (by decide) value number
  · cases List.mem_singleton.mp blank
  · exact whole name
  · split at plural
    · cases plural
    · cases List.mem_singleton.mp plural

theorem plus_notMem_optional {unit : String} (whole : '+' ∉ unit.toList) (value : Int) :
    ∀ part ∈ optional value unit, '+' ∉ part.bare.toList := by
  intro part member
  unfold optional at member
  split at member
  · cases member
  · rw [List.mem_singleton.mp member]
    exact plus_notMem_field whole value

end Part

/-- No part has a plus sign of its own. -/
theorem plus_notMem_parts (interval : Interval) :
    ∀ part ∈ interval.parts, '+' ∉ part.bare.toList := by
  intro part member
  rcases List.mem_append.mp member with date | time
  · rcases List.mem_append.mp date with years | shorter
    · exact Part.plus_notMem_optional (by decide) _ part years
    · rcases List.mem_append.mp shorter with months | days
      · exact Part.plus_notMem_optional (by decide) _ part months
      · exact Part.plus_notMem_optional (by decide) _ part days
  · split at time
    · rw [List.mem_singleton.mp time]
      exact notMem_time (by decide) (by decide) (by decide) (by decide) _
    · cases time

/-- **The pieces of the text have the plus signs that they need**, and no others. -/
theorem plusSigned_written (interval : Interval) :
    Part.PlusSigned interval.parts (Part.written false interval.parts) where
  count := Part.length_written false _
  plus place part found plus := by
    rw [Part.getElem?_written, found, Option.map_some, Part.signed,
      if_pos ((Part.negativeBefore_eq_true_iff found).mpr plus)]
  plain place part found plain := by
    rw [Part.getElem?_written, found, Option.map_some, Part.signed,
      if_neg (mt (Part.negativeBefore_eq_true_iff found).mp plain), String.empty_append]
  free := interval.plus_notMem_parts

/-! ### Machine words -/

/-- The numbers of a text, as the machine words that they are computed in, and exactly. -/
structure WithinWords (interval : Interval) : Prop where
  years : (interval.months / 12).toInt = interval.months.toInt.tdiv 12
  months : (interval.months % 12).toInt = interval.months.toInt.tmod 12
  magnitude : interval.microseconds.abs.toUInt64.toNat = interval.microseconds.toInt.natAbs
  hours : (interval.microseconds.abs.toUInt64 / 1000000 / 3600).toNat =
    interval.microseconds.toInt.natAbs / 1000000 / 3600
  minutes : (interval.microseconds.abs.toUInt64 / 1000000 / 60 % 60).toNat =
    interval.microseconds.toInt.natAbs / 1000000 / 60 % 60
  seconds : (interval.microseconds.abs.toUInt64 / 1000000 % 60).toNat =
    interval.microseconds.toInt.natAbs / 1000000 % 60
  fraction : (interval.microseconds.abs.toUInt64 % 1000000).toNat =
    interval.microseconds.toInt.natAbs % 1000000

/-- The magnitude of a number of 64 bits is a word, also that of the least one. -/
theorem toNat_abs (n : Int64) : n.abs.toUInt64.toNat = n.toInt.natAbs := by
  show n.toBitVec.abs.toNat = n.toBitVec.toInt.natAbs
  have bounded := n.toBitVec.isLt
  rw [BitVec.toNat_abs, BitVec.toInt_eq_msb_cond]
  split <;> omega

theorem withinWords (interval : Interval) : interval.WithinWords := by
  have magnitude := toNat_abs interval.microseconds
  constructor
  · exact Int32.toInt_div_of_ne_right _ _ (by decide)
  · exact Int32.toInt_mod _ _
  · exact magnitude
  · rw [UInt64.toNat_div, UInt64.toNat_div, magnitude]
    rfl
  · rw [UInt64.toNat_mod, UInt64.toNat_div, UInt64.toNat_div, magnitude]
    rfl
  · rw [UInt64.toNat_mod, UInt64.toNat_div, magnitude]
    rfl
  · rw [UInt64.toNat_mod, magnitude]
    rfl

end TenantReports.Postgres.Interval

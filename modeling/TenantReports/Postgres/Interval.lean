import TenantReports.Number.Natural

/-!
# Intervals in the style of PostgreSQL

An interval has months, days and microseconds, each with a sign of its own. `Interval.text` writes
it as the server does by default: years, months and days that are not zero, then the time of day if
there is one or nothing else was written. A sign that the reader could not know otherwise is
written: a plus sign stands where a field is positive and the one before it was negative.
-/

namespace TenantReports.Postgres

/-- A span of time. -/
structure Interval where
  months : Int32
  days : Int32
  microseconds : Int64
  deriving DecidableEq, Inhabited

namespace Interval

/-- A field with its unit; a plus sign stands before it if the field before was negative. -/
def field (afterNegative : Bool) (value : Int) (unit : String) : String :=
  (if afterNegative && 0 < value then "+" else "") ++ Number.signedDecimal value ++ " " ++ unit ++
    (if value = 1 then "" else "s")

/-- The texts of the fields that are not zero, and whether the last of them is negative. -/
def fields : Bool → List (Int × String) → List String × Bool
  | afterNegative, [] => ([], afterNegative)
  | afterNegative, (value, unit) :: rest =>
    if value = 0 then fields afterNegative rest
    else
      let (texts, negative) := fields (value < 0) rest
      (field afterNegative value unit :: texts, negative)

/-- The digits of a fraction of a second, without zeros at the end. -/
def fractionDigits (microseconds : Nat) : List Char :=
  ((Number.padded 6 microseconds).reverse.dropWhile (· == '0')).reverse

/-- A time of day. -/
def clock (microseconds : Nat) : List Char :=
  let seconds := microseconds / 1000000
  let fraction := microseconds % 1000000
  Number.padded 2 (seconds / 3600) ++ ':' :: Number.padded 2 (seconds / 60 % 60) ++
    ':' :: Number.padded 2 (seconds % 60) ++
    (if fraction = 0 then [] else '.' :: fractionDigits fraction)

/-- The text of an interval. -/
def text (interval : Interval) : String :=
  let months := interval.months.toInt
  let microseconds := interval.microseconds.toInt
  let (texts, negative) := fields false
    [(months.tdiv 12, "year"), (months.tmod 12, "mon"), (interval.days.toInt, "day")]
  let time :=
    if texts.isEmpty || microseconds ≠ 0 then
      let sign := if microseconds < 0 then "-" else if negative then "+" else ""
      [sign ++ String.ofList (clock microseconds.natAbs)]
    else []
  String.intercalate " " (texts ++ time)

end Interval

end TenantReports.Postgres

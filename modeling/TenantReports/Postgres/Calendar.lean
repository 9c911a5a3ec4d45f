import TenantReports.Number.Natural

/-!
# Dates and times of day

The server counts days and microseconds from the start of the year 2000. `Date.ofDay` gives the date
of a day in the calendar of today, which is used for all times; `Date.text` and `clockText` write
dates and times as they stand in JSON.
-/

namespace TenantReports.Postgres

/-- A date. -/
structure Date where
  year : Int
  month : Nat
  day : Nat
  deriving DecidableEq, Repr, Inhabited

/-- The days from the first of March of the year 0 to the first of January of the year 2000. -/
def daysToEpoch : Int := 730425

/-- The days of four centuries. -/
def daysOfEra : Int := 146097

/-- The microseconds of a day. -/
def microsOfDay : Int := 86400000000

namespace Date

/-- The date of a day, counted from the start of the year 2000. Years are counted from March on, so
that the day that some years have more comes last. -/
def ofDay (day : Int) : Date :=
  let shifted := day + daysToEpoch
  let era := shifted.fdiv daysOfEra
  let dayOfEra := (shifted.fmod daysOfEra).toNat
  let yearOfEra := (dayOfEra - dayOfEra / 1460 + dayOfEra / 36524 - dayOfEra / 146096) / 365
  let dayOfYear := dayOfEra - (365 * yearOfEra + yearOfEra / 4 - yearOfEra / 100)
  let fromMarch := (5 * dayOfYear + 2) / 153
  let month := if fromMarch < 10 then fromMarch + 3 else fromMarch - 9
  { year := yearOfEra + era * 400 + (if month ≤ 2 then 1 else 0)
    month
    day := dayOfYear - (153 * fromMarch + 2) / 5 + 1 }

/-- Whether dates of a year can be had. -/
def isNear (date : Date) : Bool :=
  -262143 ≤ date.year && date.year ≤ 262142

/-- A year; one that has not four digits shows its sign. -/
def yearText (year : Int) : List Char :=
  if 0 ≤ year ∧ year ≤ 9999 then Number.padded 4 year.toNat
  else (if year < 0 then '-' else '+') :: Number.padded 4 year.natAbs

/-- The text of a date. -/
def text (date : Date) : String :=
  String.ofList (yearText date.year ++ '-' :: Number.padded 2 date.month ++
    '-' :: Number.padded 2 date.day)

end Date

/-- A fraction of a second in thousandths or millionths, none if it is zero. -/
def fractionText (micros : Nat) : List Char :=
  if micros = 0 then []
  else if micros % 1000 = 0 then '.' :: Number.padded 3 (micros / 1000)
  else '.' :: Number.padded 6 micros

/-- A time of day by its microseconds. -/
def clockText (micros : Nat) : String :=
  let seconds := micros / 1000000
  String.ofList (Number.padded 2 (seconds / 3600) ++ ':' :: Number.padded 2 (seconds / 60 % 60) ++
    ':' :: Number.padded 2 (seconds % 60) ++ fractionText (micros % 1000000))

/-- The microseconds of a time of day; those of whole days are left out. -/
def timeOfDay (micros : Int) : Nat :=
  (micros.fmod microsOfDay).toNat

/-- A date and a time of day, counted in microseconds from the start of the year 2000. -/
def momentText (micros : Int) : Option String :=
  let date := Date.ofDay (micros.fdiv microsOfDay)
  if date.isNear then some (date.text ++ "T" ++ clockText (timeOfDay micros)) else none

/-- An offset to the east in seconds; seconds show if it has any. -/
def offsetText (east : Int) : String :=
  let n := east.natAbs
  let seconds := if n % 60 = 0 then [] else ':' :: Number.padded 2 (n % 60)
  String.ofList ((if east < 0 then '-' else '+') :: Number.padded 2 (n / 3600) ++
    ':' :: Number.padded 2 (n / 60 % 60) ++ seconds)

end TenantReports.Postgres

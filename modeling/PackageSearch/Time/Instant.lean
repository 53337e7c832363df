/-!
# Instants and their dates

An instant counts seconds and nanoseconds since the start of 1970 in UTC. A second that ends a
minute may have up to two thousand million nanoseconds; the second half of it is a leap second.
Dates follow the Gregorian calendar in both directions, and there are instants in those years only
that dates can tell.
-/

set_option autoImplicit false

namespace PackageSearch

/-- A day of the Gregorian calendar. -/
structure CalendarDay where
  year : Int
  month : Nat
  day : Nat
  deriving DecidableEq

/-- The calendar day so many days after the first of January 1970. Years are counted from March,
so that a leap day ends its year. -/
def CalendarDay.ofDayNumber (dayNumber : Int) : CalendarDay :=
  let shifted := dayNumber + 719468
  let era := shifted / 146097
  let dayOfEra := (shifted % 146097).toNat
  let yearOfEra := (dayOfEra - dayOfEra / 1460 + dayOfEra / 36524 - dayOfEra / 146096) / 365
  let dayOfYear := dayOfEra - (365 * yearOfEra + yearOfEra / 4 - yearOfEra / 100)
  let monthFromMarch := (5 * dayOfYear + 2) / 153
  let day := dayOfYear - (153 * monthFromMarch + 2) / 5 + 1
  let month := if monthFromMarch < 10 then monthFromMarch + 3 else monthFromMarch - 9
  let year : Int := yearOfEra + era * 400
  { year := if month ≤ 2 then year + 1 else year, month, day }

def Instant.secondsPerDay : Int := 86400

/-- Whether an instant can be so many seconds and nanoseconds from the start of 1970: its year lies
in the supported range, and the nanoseconds fit the second. -/
def Instant.isDated (seconds : Int) (nanoseconds : Nat) : Bool :=
  let year := (CalendarDay.ofDayNumber (seconds / secondsPerDay)).year
  decide (-262143 ≤ year) && decide (year ≤ 262142) &&
    (nanoseconds < 1000000000 || (nanoseconds < 2000000000 && seconds % 60 == 59))

structure Instant where
  seconds : Int
  nanoseconds : Nat
  dated : Instant.isDated seconds nanoseconds = true := by decide
  deriving DecidableEq

namespace Instant

/-- The instant that is so many seconds and nanoseconds from the start of 1970, if there is one. -/
def ofCounts? (seconds : Int) (nanoseconds : Nat) : Option Instant :=
  if dated : isDated seconds nanoseconds = true then some ⟨seconds, nanoseconds, dated⟩ else none

def epoch : Instant := { seconds := 0, nanoseconds := 0 }

instance : Inhabited Instant := ⟨epoch⟩

def dayNumber (instant : Instant) : Int := instant.seconds / secondsPerDay

def secondOfDay (instant : Instant) : Nat := (instant.seconds % secondsPerDay).toNat

def day (instant : Instant) : CalendarDay := CalendarDay.ofDayNumber instant.dayNumber

def padded (width value : Nat) : List Char :=
  let digits := Nat.toDigits 10 value
  List.replicate (width - digits.length) '0' ++ digits

/-- A year of four digits; years before 0 and after 9999 carry a sign. -/
def yearText (year : Int) : List Char :=
  if year < 0 then '-' :: padded 4 year.natAbs
  else if 9999 < year then '+' :: padded 4 year.natAbs
  else padded 4 year.natAbs

def hour (instant : Instant) : Nat := instant.secondOfDay / 3600

def minute (instant : Instant) : Nat := instant.secondOfDay / 60 % 60

/-- The second of the minute, sixty within a leap second. -/
def second (instant : Instant) : Nat :=
  instant.secondOfDay % 60 + instant.nanoseconds / 1000000000

def clockText (instant : Instant) : List Char :=
  padded 2 instant.hour ++ ':' :: padded 2 instant.minute ++ ':' :: padded 2 instant.second

/-- The fraction of a second with no digits, three, six or nine. -/
def fractionText (instant : Instant) : List Char :=
  let fraction := instant.nanoseconds % 1000000000
  if fraction = 0 then []
  else if fraction % 1000000 = 0 then '.' :: padded 3 (fraction / 1000000)
  else if fraction % 1000 = 0 then '.' :: padded 6 (fraction / 1000)
  else '.' :: padded 9 fraction

def timestamp (instant : Instant) : String :=
  let date := instant.day
  String.ofList (yearText date.year ++ '-' :: padded 2 date.month ++ '-' :: padded 2 date.day ++
    'T' :: instant.clockText ++ instant.fractionText ++ ['+', '0', '0', ':', '0', '0'])

/-- The name of a day of the week; day 0 was a Thursday. -/
def weekdayName (dayNumber : Int) : String :=
  match (dayNumber % 7).toNat with
  | 0 => "Thu"
  | 1 => "Fri"
  | 2 => "Sat"
  | 3 => "Sun"
  | 4 => "Mon"
  | 5 => "Tue"
  | _ => "Wed"

def monthName : Nat → String
  | 1 => "Jan"
  | 2 => "Feb"
  | 3 => "Mar"
  | 4 => "Apr"
  | 5 => "May"
  | 6 => "Jun"
  | 7 => "Jul"
  | 8 => "Aug"
  | 9 => "Sep"
  | 10 => "Oct"
  | 11 => "Nov"
  | _ => "Dec"

def httpDate (instant : Instant) : String :=
  let date := instant.day
  weekdayName instant.dayNumber ++ ", " ++ String.ofList (padded 2 date.day) ++ " " ++
    monthName date.month ++ " " ++ String.ofList (yearText date.year) ++ " " ++
    String.ofList instant.clockText ++ " GMT"

end Instant

end PackageSearch

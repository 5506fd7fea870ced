import ServiceAdmin.Number.Decimal

/-!
# Timestamps

Counts of milliseconds since the start of 1970 are shown to the second below, in the proleptic
Gregorian calendar, in UTC or in local time.  A count outside of the years that can be shown is
shown as it is.
-/

namespace ServiceAdmin.Report

open Number (padded)

/-- A day of the Gregorian calendar. -/
structure Date where
  year : Int
  month : Nat
  day : Nat
  deriving DecidableEq, Repr

/-- The date of a day counted from the first of January 1970.  The 400 years of the calendar's
cycle, with 146097 days, are counted from a first of March, so that a leap day ends its year. -/
def Date.ofDays (days : Int) : Date :=
  let shifted := days + 719468
  let cycle := shifted / 146097
  let dayOfCycle := (shifted % 146097).toNat
  let yearOfCycle :=
    (dayOfCycle - dayOfCycle / 1460 + dayOfCycle / 36524 - dayOfCycle / 146096) / 365
  let dayOfYear := dayOfCycle - (365 * yearOfCycle + yearOfCycle / 4 - yearOfCycle / 100)
  let marchMonth := (5 * dayOfYear + 2) / 153
  let month := if marchMonth < 10 then marchMonth + 3 else marchMonth - 9
  { year := (yearOfCycle : Int) + cycle * 400 + if month ≤ 2 then 1 else 0
    month := month
    day := dayOfYear - (153 * marchMonth + 2) / 5 + 1 }

/-- An instant to the second. -/
structure Instant where
  date : Date
  /-- Days since the first of January 1970. -/
  days : Int
  hour : Nat
  minute : Nat
  second : Nat
  deriving DecidableEq, Repr

def Instant.ofSeconds (seconds : Int) : Instant :=
  let days := seconds / 86400
  let ofDay := (seconds % 86400).toNat
  ⟨Date.ofDays days, days, ofDay / 3600, ofDay / 60 % 60, ofDay % 60⟩

/-- The first and the last count that can be shown as a date. -/
def firstMillis : Int := -8334601228800000

def lastMillis : Int := 8210266876799999

/-- A year in at least four digits, with a sign if it needs more of them or is negative. -/
def yearText (year : Int) : String :=
  if year < 0 then "-" ++ padded 4 year.natAbs
  else if 9999 < year then "+" ++ padded 4 year.toNat
  else padded 4 year.toNat

def clockText (t : Instant) : String :=
  padded 2 t.hour ++ ":" ++ padded 2 t.minute ++ ":" ++ padded 2 t.second

/-- An instant as RFC 3339 writes it. -/
def rfc3339 (millis : Int) : String :=
  if firstMillis ≤ millis ∧ millis ≤ lastMillis then
    let t := Instant.ofSeconds (millis / 1000)
    yearText t.date.year ++ "-" ++ padded 2 t.date.month ++ "-" ++ padded 2 t.date.day ++ "T" ++
      clockText t ++ "Z"
  else toString millis

/-- How many seconds local time is ahead of UTC, for each second since the start of 1970. -/
abbrev Zone := Int → Int

def Zone.utc : Zone := fun _ => 0

/-- An offset in hours and minutes, and in seconds if there are any. -/
def offsetText (offset : Int) : String :=
  let n := offset.natAbs
  (if offset < 0 then "-" else "+") ++ padded 2 (n / 3600) ++ ":" ++ padded 2 (n / 60 % 60) ++
    if n % 60 = 0 then "" else ":" ++ padded 2 (n % 60)

def weekdays : List String := ["Thu", "Fri", "Sat", "Sun", "Mon", "Tue", "Wed"]

def months : List String :=
  ["Jan", "Feb", "Mar", "Apr", "May", "Jun", "Jul", "Aug", "Sep", "Oct", "Nov", "Dec"]

/-- An instant for human readers, in local time. -/
def localTime (zone : Zone) (millis : Int) : String :=
  if firstMillis ≤ millis ∧ millis ≤ lastMillis then
    let offset := zone (millis / 1000)
    let t := Instant.ofSeconds (millis / 1000 + offset)
    let weekday := weekdays.getD (t.days % 7).toNat ""
    let month := months.getD (t.date.month - 1) ""
    weekday ++ " " ++ padded 2 t.date.day ++ " " ++ month ++ " " ++ clockText t ++ " " ++
      offsetText offset ++ " " ++ yearText t.date.year
  else toString millis

end ServiceAdmin.Report

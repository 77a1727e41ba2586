import AtomicCss.Text.Basic

/-!
Contract: civil dates and times of day in universal time.

Owns:
- the date and time of an instant, counted in milliseconds from 1970;
- the texts of dates and times that computed functions give.

Does not own: time zones, leap seconds, and reading a clock.
-/

namespace AtomicCss

/-- A moment in the proleptic Gregorian calendar. -/
structure Moment where
  year : Int
  month : Nat
  day : Nat
  hour : Nat
  minute : Nat
  second : Nat
deriving DecidableEq, Repr

namespace Moment

/-- The moment of an instant.  Days are counted from 1 March of year 0, so that a
leap day is the last day of its year; a period of 400 years has 146097 days. -/
def ofMilliseconds (instant : Int) : Moment :=
  let seconds := instant.fdiv 1000
  let secondOfDay := (seconds.fmod 86400).toNat
  let days := seconds.fdiv 86400 + 719468
  let period := days.fdiv 146097
  let dayOfPeriod := (days.fmod 146097).toNat
  let yearOfPeriod :=
    (dayOfPeriod - dayOfPeriod / 1460 + dayOfPeriod / 36524 - dayOfPeriod / 146096) / 365
  let dayOfYear :=
    dayOfPeriod - (365 * yearOfPeriod + yearOfPeriod / 4 - yearOfPeriod / 100)
  let shifted := (5 * dayOfYear + 2) / 153
  let month := if shifted < 10 then shifted + 3 else shifted - 9
  { year := period * 400 + yearOfPeriod + (if month ≤ 2 then 1 else 0)
    month := month
    day := dayOfYear - (153 * shifted + 2) / 5 + 1
    hour := secondOfDay / 3600
    minute := secondOfDay / 60 % 60
    second := secondOfDay % 60 }

/-- A number with zeros in front up to a width. -/
def padded (width number : Nat) : Text :=
  let digits := Text.ofNat number
  List.replicate (width - digits.length) '0' ++ digits

/-- A year with at least four digits, and a sign outside the years 0 to 9999. -/
def yearText (year : Int) : Text :=
  let sign := if year < 0 then ['-'] else if year > 9999 then ['+'] else []
  sign ++ padded 4 year.natAbs

/-- Day, month and year, separated by points. -/
def dateText (moment : Moment) : Text :=
  Text.ofNat moment.day ++ '.' :: Text.ofNat moment.month ++ '.' :: yearText moment.year

/-- Hour, minute and second with two digits each, separated by colons. -/
def timeText (moment : Moment) : Text :=
  padded 2 moment.hour ++ ':' :: padded 2 moment.minute ++ ':' :: padded 2 moment.second

end Moment

end AtomicCss

/-!
# Timestamps

Seconds since 1970-01-01 00:00:00 UTC, shown in the proleptic Gregorian calendar. The calendar
repeats every 400 years of 146097 days; within such an era the days are counted from the first of
March, so that a leap day is the last day of its year.
-/

namespace FunctionConsole

/-- Which parts of a timestamp are shown. -/
inductive TimestampFormat where
  | time
  | date
  | dateTime
  deriving DecidableEq, Repr, Inhabited

/-- A day of the calendar. -/
structure CalendarDay where
  year : Int
  month : Nat
  day : Nat
  deriving DecidableEq, Repr

namespace CalendarDay

/-- The day with the given number, 1970-01-01 being number 0. -/
def ofNumber (n : Int) : CalendarDay :=
  let shifted := n + 719468
  let era := shifted.fdiv 146097
  let dayOfEra := (shifted.fmod 146097).toNat
  let yearOfEra := (dayOfEra - dayOfEra / 1460 + dayOfEra / 36524 - dayOfEra / 146096) / 365
  let dayOfYear := dayOfEra - (365 * yearOfEra + yearOfEra / 4 - yearOfEra / 100)
  let monthFromMarch := (5 * dayOfYear + 2) / 153
  let day := dayOfYear - (153 * monthFromMarch + 2) / 5 + 1
  let month := if monthFromMarch < 10 then monthFromMarch + 3 else monthFromMarch - 9
  let year := (yearOfEra : Int) + era * 400
  { year := if month ≤ 2 then year + 1 else year, month, day }

end CalendarDay

/-- A number with zeros in front up to a width. -/
def padded (width n : Nat) : String :=
  let ds := (toString n).toList
  String.ofList (List.replicate (width - ds.length) '0' ++ ds)

/-- A year: four digits, and a sign in front if it has more or lies before the year 0. -/
def yearText (y : Int) : String :=
  if 0 ≤ y && y ≤ 9999 then padded 4 y.toNat
  else (if y < 0 then "-" else "+") ++ padded 4 y.natAbs

/-- The first second of the year -262143, before which no date is known. -/
def firstSecond : Int := -8334601228800

/-- The last second of the year 262142, after which no date is known. -/
def lastSecond : Int := 8210266876799

/-- A time zone: how many seconds its clocks are ahead of UTC, at every second of UTC. -/
structure TimeZone where
  ahead : Int → Int

namespace TimeZone

/-- The zone that is always ahead by so much. -/
def fixed (seconds : Int) : TimeZone := ⟨fun _ => seconds⟩

/-- The zone of UTC. -/
def utc : TimeZone := fixed 0

end TimeZone

/-- The text of a timestamp in a time zone: `N/A` for 0, and `Invalid Date` outside the known
dates. -/
def formatTimestamp (timestamp : Int64) (format : TimestampFormat) (zone : TimeZone) : String :=
  let t := timestamp.toInt
  if t = 0 then "N/A"
  else if t < firstSecond || lastSecond < t then "Invalid Date"
  else
    let seconds := t + zone.ahead t
    let day := CalendarDay.ofNumber (seconds.fdiv 86400)
    let second := (seconds.fmod 86400).toNat
    let date := yearText day.year ++ "-" ++ padded 2 day.month ++ "-" ++ padded 2 day.day
    let time := padded 2 (second / 3600) ++ ":" ++ padded 2 (second / 60 % 60) ++ ":" ++
      padded 2 (second % 60)
    match format with
    | .time => time
    | .date => date
    | .dateTime => date ++ " " ++ time

end FunctionConsole

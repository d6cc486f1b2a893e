/-!
# Moments of the calendar

The civil date and the time of day of a count of seconds since the start of 1970, in universal
time and in the Gregorian calendar extended to all years. Years are counted from March, so that a
leap day is the last day of its year and months follow one rule.
-/
namespace TcpSessions

structure Date where
  year : Int
  month : Nat
  day : Nat
  deriving DecidableEq, Repr

namespace Date

/-- Days from the first of March of year zero to the start of 1970. -/
def epochDay : Int := 719468

/-- Days in four hundred years. -/
def cycleDays : Int := 146097

/-- The date that lies a number of days after the start of 1970. -/
def ofDays (days : Int) : Date :=
  let d := days + epochDay
  let cycle := d.fdiv cycleDays
  let dayOfCycle := (d.fmod cycleDays).toNat
  let yearOfCycle :=
    (dayOfCycle - dayOfCycle / 1460 + dayOfCycle / 36524 - dayOfCycle / 146096) / 365
  let dayOfYear := dayOfCycle - (365 * yearOfCycle + yearOfCycle / 4 - yearOfCycle / 100)
  let monthFromMarch := (5 * dayOfYear + 2) / 153
  let month := if monthFromMarch < 10 then monthFromMarch + 3 else monthFromMarch - 9
  { year := cycle * 400 + yearOfCycle + (if month ≤ 2 then 1 else 0)
    month := month
    day := dayOfYear - (153 * monthFromMarch + 2) / 5 + 1 }

def toDays (d : Date) : Int :=
  let y := if d.month ≤ 2 then d.year - 1 else d.year
  let yearOfCycle := (y.fmod 400).toNat
  let monthFromMarch := if d.month ≤ 2 then d.month + 9 else d.month - 3
  let dayOfYear := (153 * monthFromMarch + 2) / 5 + d.day - 1
  let dayOfCycle := 365 * yearOfCycle + yearOfCycle / 4 - yearOfCycle / 100 + dayOfYear
  y.fdiv 400 * cycleDays + dayOfCycle - epochDay

/-- The day of the week, counted from Sunday. -/
def weekday (d : Date) : Nat := ((d.toDays + 4).fmod 7).toNat

/-- The day of the year, counted from zero. -/
def dayOfYear (d : Date) : Nat := (d.toDays - toDays ⟨d.year, 1, 1⟩).toNat

end Date

structure Moment where
  date : Date
  hour : Nat
  minute : Nat
  second : Nat
  deriving DecidableEq, Repr

/-- The moment that lies a number of seconds after the start of 1970. -/
def Moment.ofSeconds (seconds : Int) : Moment :=
  let s := (seconds.fmod 86400).toNat
  { date := Date.ofDays (seconds.fdiv 86400)
    hour := s / 3600
    minute := s % 3600 / 60
    second := s % 60 }

def Moment.toSeconds (m : Moment) : Int :=
  m.date.toDays * 86400 + (m.hour * 3600 + m.minute * 60 + m.second : Nat)

end TcpSessions

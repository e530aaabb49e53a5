/-
# Calendar.Moment -- dates with a time of day

A moment names an existing date of the years 1 to 9999 and a time of day to the
microsecond.  `micros` counts its microseconds since the first moment, and
`ofMicros?` is the moment of such a count, if it is within the calendar.  A zoned
moment is what the clocks show somewhere, with their distance from universal time
where it is known.
-/
import TemplateBuiltins.Calendar.DayCount

set_option autoImplicit false

namespace TemplateBuiltins

def Moment.lastYear : Nat := 9999

/-- Whether the fields name a date that exists and a time of day. -/
def Moment.Valid (year month day hour minute second micro : Nat) : Prop :=
  1 ≤ year ∧ year ≤ Moment.lastYear ∧ 1 ≤ month ∧ month ≤ 12 ∧
    1 ≤ day ∧ day ≤ Calendar.monthLength year month ∧
    hour < 24 ∧ minute < 60 ∧ second < 60 ∧ micro < 1000000

instance (year month day hour minute second micro : Nat) :
    Decidable (Moment.Valid year month day hour minute second micro) := by
  unfold Moment.Valid; infer_instance

structure Moment where
  year : Nat
  month : Nat
  day : Nat
  hour : Nat
  minute : Nat
  second : Nat
  micro : Nat
  valid : Moment.Valid year month day hour minute second micro
  deriving DecidableEq

namespace Moment

/-- The moment of the fields, if they name one. -/
def ofFields? (year month day hour minute second micro : Nat) : Option Moment :=
  if h : Valid year month day hour minute second micro then
    some ⟨year, month, day, hour, minute, second, micro, h⟩
  else none

def microsPerSecond : Nat := 1000000

def microsPerDay : Nat := 86400 * microsPerSecond

/-- The day of a moment, counted from the first of the calendar. -/
def dayNumber (m : Moment) : Nat :=
  Calendar.daysBeforeYear m.year + Calendar.daysBeforeMonth m.year m.month + (m.day - 1)

/-- The microseconds since the beginning of the day. -/
def microOfDay (m : Moment) : Nat :=
  ((m.hour * 60 + m.minute) * 60 + m.second) * microsPerSecond + m.micro

/-- The microseconds since the first moment. -/
def micros (m : Moment) : Nat := m.dayNumber * microsPerDay + m.microOfDay

/-- How many microseconds the calendar has. -/
def calendarMicros : Nat := Calendar.daysBeforeYear (lastYear + 1) * microsPerDay

/-- The moment of a day and a count of microseconds in it. -/
def ofDay? (day micro : Nat) : Option Moment :=
  let (year, dayOfYear) := Calendar.yearAt lastYear 1 day
  let (month, dayOfMonth) := Calendar.monthAt year 12 1 dayOfYear
  let seconds := micro / microsPerSecond
  ofFields? year month (dayOfMonth + 1) (seconds / 3600) (seconds / 60 % 60) (seconds % 60)
    (micro % microsPerSecond)

/-- The moment so many microseconds after the first, if the calendar has it. -/
def ofMicros? (n : Int) : Option Moment :=
  if 0 ≤ n ∧ n < calendarMicros then ofDay? (n.toNat / microsPerDay) (n.toNat % microsPerDay) else none

end Moment

/-- What clocks show, and how many seconds they are ahead of universal time, if that is known. -/
structure ZonedMoment where
  clock : Moment
  ahead : Option Int
  deriving DecidableEq

namespace ZonedMoment

/-- The moment in universal time; clocks of an unknown zone are taken to show it. -/
def universal? (z : ZonedMoment) : Option Moment :=
  match z.ahead with
  | none => some z.clock
  | some seconds => Moment.ofMicros? (z.clock.micros - seconds * Moment.microsPerSecond)

end ZonedMoment

end TemplateBuiltins

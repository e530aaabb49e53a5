/-
# Offset.Basic -- offsets in time and their durations

An offset counts years, months, weeks, days, hours, minutes and seconds, each
count with a sign of its own.  A year stands for 365 days and a month for 30, so
an offset comes to a number of seconds (`seconds`).  A duration is that number as
whole days and a rest that is less than a day; it exists while its days are at
most `dayLimit` in magnitude.
-/

set_option autoImplicit false

namespace TemplateBuiltins

/-- The units of an offset, from the largest to the smallest. -/
inductive TimeUnit where
  | years
  | months
  | weeks
  | days
  | hours
  | minutes
  | seconds
  deriving DecidableEq

namespace TimeUnit

def all : List TimeUnit := [.years, .months, .weeks, .days, .hours, .minutes, .seconds]

def name : TimeUnit → String
  | .years => "years"
  | .months => "months"
  | .weeks => "weeks"
  | .days => "days"
  | .hours => "hours"
  | .minutes => "minutes"
  | .seconds => "seconds"

/-- The place of a unit among the units, the largest first. -/
def rank : TimeUnit → Nat
  | .years => 0
  | .months => 1
  | .weeks => 2
  | .days => 3
  | .hours => 4
  | .minutes => 5
  | .seconds => 6

/-- The length of a unit in seconds. -/
def length : TimeUnit → Nat
  | .years => 365 * 86400
  | .months => 30 * 86400
  | .weeks => 7 * 86400
  | .days => 86400
  | .hours => 3600
  | .minutes => 60
  | .seconds => 1

end TimeUnit

@[ext]
structure Offset where
  years : Int
  months : Int
  weeks : Int
  days : Int
  hours : Int
  minutes : Int
  seconds : Int
  deriving DecidableEq

namespace Offset

def zero : Offset := ⟨0, 0, 0, 0, 0, 0, 0⟩

/-- The count of one unit. -/
def count (o : Offset) : TimeUnit → Int
  | .years => o.years
  | .months => o.months
  | .weeks => o.weeks
  | .days => o.days
  | .hours => o.hours
  | .minutes => o.minutes
  | .seconds => o.seconds

/-- The offset with the count of one unit replaced. -/
def withCount (o : Offset) (u : TimeUnit) (n : Int) : Offset :=
  match u with
  | .years => { o with years := n }
  | .months => { o with months := n }
  | .weeks => { o with weeks := n }
  | .days => { o with days := n }
  | .hours => { o with hours := n }
  | .minutes => { o with minutes := n }
  | .seconds => { o with seconds := n }

theorem count_withCount (o : Offset) (u v : TimeUnit) (n : Int) :
    (o.withCount u n).count v = if v = u then n else o.count v := by
  cases u <;> cases v <;> rfl

/-- The offset in seconds. -/
def total (o : Offset) : Int :=
  86400 * (365 * o.years + 30 * o.months + 7 * o.weeks + o.days) + 3600 * o.hours + 60 * o.minutes +
    o.seconds

end Offset

structure Duration where
  days : Int
  seconds : Nat
  deriving DecidableEq

namespace Duration

/-- The most days that a duration has, before or after. -/
def dayLimit : Int := 999999999

/-- The duration in seconds. -/
def total (d : Duration) : Int := 86400 * d.days + d.seconds

/-- The duration of a number of seconds, or the number of its days if they are too many. -/
def ofSeconds (n : Int) : Except Int Duration :=
  let days := n.fdiv 86400
  if -dayLimit ≤ days ∧ days ≤ dayLimit then .ok ⟨days, (n.fmod 86400).toNat⟩ else .error days

end Duration

/-- The duration of an offset, or the number of its days if they are too many. -/
def Offset.duration (o : Offset) : Except Int Duration := Duration.ofSeconds o.total

end TemplateBuiltins

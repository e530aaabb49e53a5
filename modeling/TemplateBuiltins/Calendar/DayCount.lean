/-
# Calendar.DayCount -- days of the civil calendar, counted

The calendar has leap days in every fourth year, but of the full centuries only
in every fourth.  Days are counted from the first of January of the year 1, which
is day zero.  `daysBeforeYear` and `daysBeforeMonth` count forward; `yearAt` and
`monthAt` find the year and the month that a day falls into by taking off whole
years and months.
-/

set_option autoImplicit false

namespace TemplateBuiltins.Calendar

def isLeap (year : Nat) : Bool :=
  year % 4 == 0 && (year % 100 != 0 || year % 400 == 0)

def yearLength (year : Nat) : Nat := if isLeap year then 366 else 365

def monthLength (year month : Nat) : Nat :=
  match month with
  | 2 => if isLeap year then 29 else 28
  | 4 | 6 | 9 | 11 => 30
  | _ => 31

/-- The first day of a year, from year 1 on. -/
def daysBeforeYear (year : Nat) : Nat :=
  let past := year - 1
  365 * past + past / 4 - past / 100 + past / 400

/-- How many days of its year lie before a month. -/
def daysBeforeMonth (year : Nat) : Nat → Nat
  | 0 => 0
  | 1 => 0
  | month + 2 => daysBeforeMonth year (month + 1) + monthLength year (month + 1)

/-- A year that has passed adds its length. -/
theorem daysBeforeYear_succ (year : Nat) (_ : 1 ≤ year) :
    daysBeforeYear (year + 1) = daysBeforeYear year + yearLength year := by
  obtain ⟨past, rfl⟩ : ∃ past, year = past + 1 := ⟨year - 1, by omega⟩
  have h₄ : (past + 1) / 4 = past / 4 + if (past + 1) % 4 = 0 then 1 else 0 := by split <;> omega
  have h₁₀₀ : (past + 1) / 100 = past / 100 + if (past + 1) % 100 = 0 then 1 else 0 := by
    split <;> omega
  have h₄₀₀ : (past + 1) / 400 = past / 400 + if (past + 1) % 400 = 0 then 1 else 0 := by
    split <;> omega
  have hle : past / 100 ≤ past / 4 := Nat.div_le_div_left (by decide) (by decide)
  have h₁ : (past + 1) % 100 = 0 → (past + 1) % 4 = 0 := by omega
  have h₂ : (past + 1) % 400 = 0 → (past + 1) % 100 = 0 := by omega
  simp only [daysBeforeYear, yearLength, isLeap, Nat.add_sub_cancel, Bool.and_eq_true, beq_iff_eq,
    Bool.or_eq_true, bne_iff_ne, ne_eq, h₄, h₁₀₀, h₄₀₀]
  by_cases c₄ : (past + 1) % 4 = 0 <;> by_cases c₁₀₀ : (past + 1) % 100 = 0 <;>
    by_cases c₄₀₀ : (past + 1) % 400 = 0 <;> simp_all <;> omega

/-- The year that a day falls into, and its place in that year, looking `span` years ahead. -/
def yearAt : (span year day : Nat) → Nat × Nat
  | 0, year, day => (year, day)
  | span + 1, year, day =>
    if day < yearLength year then (year, day)
    else yearAt span (year + 1) (day - yearLength year)

/-- The month that a day of a year falls into, and its place in that month. -/
def monthAt (year : Nat) : (span month day : Nat) → Nat × Nat
  | 0, month, day => (month, day)
  | span + 1, month, day =>
    if day < monthLength year month then (month, day)
    else monthAt year span (month + 1) (day - monthLength year month)

end TemplateBuiltins.Calendar

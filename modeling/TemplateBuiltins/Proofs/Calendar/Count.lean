/-
# Proofs.Calendar.Count -- the calendar counts every moment once

The days before a date are the lengths of the years and the months before it, one
by one (`daysSince`); counting by whole years comes to the same
(`dayNumber_eq_daysSince`).  Looking for the year and the month of a day ends in
the one date that the day counts to (`yearAt_spec`, `monthAt_spec`), so moments and
the microseconds of the calendar stand one to one: each count below
`calendarMicros` is that of a moment (`exists_ofMicros?`), and no two moments have
the same (`micros_injective`).
-/
import Mathlib.Algebra.Ring.Nat
import TemplateBuiltins.Calendar.Moment

set_option autoImplicit false

namespace TemplateBuiltins

namespace Calendar

/-! ## Days -/

/-- The days from the first of the calendar to a date: the years that have passed, then the months
of its year, then the days of its month. -/
def daysSince (year month day : Nat) : Nat :=
  ((List.range' 1 (year - 1)).map yearLength).sum +
    ((List.range' 1 (month - 1)).map (monthLength year)).sum + (day - 1)

theorem daysBeforeYear_eq_sum (past : Nat) :
    daysBeforeYear (past + 1) = ((List.range' 1 past).map yearLength).sum := by
  induction past with
  | zero => rfl
  | succ past ih =>
      rw [daysBeforeYear_succ (past + 1) (by omega), ih, List.range'_concat, List.map_append,
        List.sum_append]
      simp [Nat.add_comm 1]

theorem daysBeforeMonth_succ (year : Nat) {month : Nat} (some : 1 ≤ month) :
    daysBeforeMonth year (month + 1) = daysBeforeMonth year month + monthLength year month := by
  cases month with
  | zero => omega
  | succ month => rfl

theorem daysBeforeMonth_eq_sum (year past : Nat) :
    daysBeforeMonth year (past + 1) = ((List.range' 1 past).map (monthLength year)).sum := by
  induction past with
  | zero => rfl
  | succ past ih =>
      rw [daysBeforeMonth_succ year (by omega), ih, List.range'_concat, List.map_append,
        List.sum_append]
      simp [Nat.add_comm 1]

theorem daysSince_eq (pastYears pastMonths day : Nat) :
    daysSince (pastYears + 1) (pastMonths + 1) day =
      daysBeforeYear (pastYears + 1) + daysBeforeMonth (pastYears + 1) (pastMonths + 1) + (day - 1) := by
  rw [daysSince, daysBeforeYear_eq_sum, daysBeforeMonth_eq_sum]
  rfl

/-- The months of a year make the year. -/
theorem daysBeforeMonth_end (year : Nat) : daysBeforeMonth year 13 = yearLength year := by
  unfold yearLength
  cases leap : isLeap year <;> simp [daysBeforeMonth, monthLength, leap]

theorem daysBeforeYear_le_of_le {year later : Nat} (some : 1 ≤ year) (le : year ≤ later) :
    daysBeforeYear year ≤ daysBeforeYear later := by
  obtain ⟨more, rfl⟩ := Nat.exists_eq_add_of_le le
  clear le
  induction more with
  | zero => exact Nat.le_refl _
  | succ more ih =>
      rw [← Nat.add_assoc, daysBeforeYear_succ _ (by omega)]
      omega

theorem daysBeforeMonth_le_of_le (year : Nat) {month later : Nat} (some : 1 ≤ month)
    (le : month ≤ later) : daysBeforeMonth year month ≤ daysBeforeMonth year later := by
  obtain ⟨more, rfl⟩ := Nat.exists_eq_add_of_le le
  clear le
  induction more with
  | zero => exact Nat.le_refl _
  | succ more ih =>
      rw [← Nat.add_assoc, daysBeforeMonth_succ year (by omega)]
      omega

/-- A day falls into one year only. -/
theorem year_unique {y z d e : Nat} (hy : 1 ≤ y) (hz : 1 ≤ z) (hd : d < yearLength y)
    (he : e < yearLength z) (same : daysBeforeYear y + d = daysBeforeYear z + e) : y = z ∧ d = e := by
  have after (a b : Nat) (ha : 1 ≤ a) (lt : a < b) :
      daysBeforeYear a + yearLength a ≤ daysBeforeYear b := by
    rw [← daysBeforeYear_succ a ha]
    exact daysBeforeYear_le_of_le (by omega) lt
  rcases Nat.lt_trichotomy y z with lt | rfl | gt
  · have := after y z hy lt
    omega
  · exact ⟨rfl, by omega⟩
  · have := after z y hz gt
    omega

/-- A day of a year falls into one month only. -/
theorem month_unique (year : Nat) {y z d e : Nat} (hy : 1 ≤ y) (hz : 1 ≤ z)
    (hd : d < monthLength year y) (he : e < monthLength year z)
    (same : daysBeforeMonth year y + d = daysBeforeMonth year z + e) : y = z ∧ d = e := by
  have after (a b : Nat) (ha : 1 ≤ a) (lt : a < b) :
      daysBeforeMonth year a + monthLength year a ≤ daysBeforeMonth year b := by
    rw [← daysBeforeMonth_succ year ha]
    exact daysBeforeMonth_le_of_le year (by omega) lt
  rcases Nat.lt_trichotomy y z with lt | rfl | gt
  · have := after y z hy lt
    omega
  · exact ⟨rfl, by omega⟩
  · have := after z y hz gt
    omega

/-- The year that is found holds the day, at the place that is found. -/
theorem yearAt_spec (span year day : Nat) (some : 1 ≤ year)
    (inside : daysBeforeYear year + day < daysBeforeYear (year + span)) :
    year ≤ (yearAt span year day).1 ∧ (yearAt span year day).1 < year + span ∧
      (yearAt span year day).2 < yearLength (yearAt span year day).1 ∧
      daysBeforeYear (yearAt span year day).1 + (yearAt span year day).2 =
        daysBeforeYear year + day := by
  induction span generalizing year day with
  | zero =>
      rw [Nat.add_zero] at inside
      omega
  | succ span ih =>
      rw [yearAt]
      split
      · rename_i here
        exact ⟨Nat.le_refl _, by omega, here, rfl⟩
      · rename_i later
        have next := daysBeforeYear_succ year some
        have := ih (year + 1) (day - yearLength year) (by omega)
          (by rw [next, show year + 1 + span = year + (span + 1) by omega]; omega)
        omega

theorem monthAt_spec (year span month day : Nat) (some : 1 ≤ month)
    (inside : daysBeforeMonth year month + day < daysBeforeMonth year (month + span)) :
    month ≤ (monthAt year span month day).1 ∧ (monthAt year span month day).1 < month + span ∧
      (monthAt year span month day).2 < monthLength year (monthAt year span month day).1 ∧
      daysBeforeMonth year (monthAt year span month day).1 + (monthAt year span month day).2 =
        daysBeforeMonth year month + day := by
  induction span generalizing month day with
  | zero =>
      rw [Nat.add_zero] at inside
      omega
  | succ span ih =>
      rw [monthAt]
      split
      · rename_i here
        exact ⟨Nat.le_refl _, by omega, here, rfl⟩
      · rename_i later
        have next := daysBeforeMonth_succ year some
        have := ih (month + 1) (day - monthLength year month) (by omega)
          (by rw [next, show month + 1 + span = month + (span + 1) by omega]; omega)
        omega

end Calendar

namespace Moment

/-! ## Moments -/

/-- The microseconds from the first moment to the time of a date. -/
def elapsed (year month day hour minute second micro : Nat) : Nat :=
  (((Calendar.daysSince year month day * 24 + hour) * 60 + minute) * 60 + second) * 1000000 + micro

theorem dayNumber_eq_daysSince (m : Moment) :
    m.dayNumber = Calendar.daysSince m.year m.month m.day := by
  obtain ⟨year, -, month, -⟩ := m.valid
  obtain ⟨y, hy⟩ : ∃ y, m.year = y + 1 := ⟨m.year - 1, by omega⟩
  obtain ⟨k, hk⟩ : ∃ k, m.month = k + 1 := ⟨m.month - 1, by omega⟩
  rw [dayNumber, hy, hk, Calendar.daysSince_eq]

/-- Counting a moment is counting the time that has passed before it. -/
theorem micros_eq_elapsed (m : Moment) :
    m.micros = elapsed m.year m.month m.day m.hour m.minute m.second m.micro := by
  rw [micros, microOfDay, elapsed, dayNumber_eq_daysSince, microsPerDay, microsPerSecond]
  omega

theorem elapsed_endOfDay (year month day : Nat) :
    elapsed year month day 23 59 59 999999 + 1 =
      (Calendar.daysSince year month day + 1) * microsPerDay := by
  unfold elapsed microsPerDay microsPerSecond
  omega

/-- The last microsecond of the calendar. -/
def lastMicro : Nat := elapsed 9999 12 31 23 59 59 999999

theorem calendarMicros_eq : calendarMicros = lastMicro + 1 := by
  have days : Calendar.daysSince 9999 12 31 = 3652058 :=
    (Calendar.daysSince_eq 9998 11 31).trans (by decide)
  rw [lastMicro, elapsed_endOfDay, days]
  rfl

theorem microOfDay_lt (m : Moment) : m.microOfDay < microsPerDay := by
  have valid := m.valid
  unfold Valid at valid
  unfold microOfDay microsPerDay microsPerSecond
  omega

theorem ext_fields {m n : Moment} (year : m.year = n.year) (month : m.month = n.month)
    (day : m.day = n.day) (hour : m.hour = n.hour) (minute : m.minute = n.minute)
    (second : m.second = n.second) (micro : m.micro = n.micro) : m = n := by
  cases m
  cases n
  simp only at year month day hour minute second micro
  subst year month day hour minute second micro
  rfl

/-- The days of a moment's year that have passed. -/
def dayOfYear (m : Moment) : Nat := Calendar.daysBeforeMonth m.year m.month + (m.day - 1)

theorem dayNumber_eq (m : Moment) :
    m.dayNumber = Calendar.daysBeforeYear m.year + m.dayOfYear := by
  rw [dayNumber, dayOfYear, Nat.add_assoc]

theorem dayOfYear_lt (m : Moment) : m.dayOfYear < Calendar.yearLength m.year := by
  have valid := m.valid
  unfold Valid at valid
  have month := Calendar.daysBeforeMonth_succ m.year valid.2.2.1
  have year : Calendar.daysBeforeMonth m.year (m.month + 1) ≤ Calendar.daysBeforeMonth m.year 13 :=
    Calendar.daysBeforeMonth_le_of_le m.year (by omega) (by omega)
  rw [Calendar.daysBeforeMonth_end] at year
  unfold dayOfYear
  omega

theorem date_unique {m n : Moment} (same : m.dayNumber = n.dayNumber) :
    m.year = n.year ∧ m.month = n.month ∧ m.day = n.day := by
  have validM := m.valid
  have validN := n.valid
  unfold Valid at validM validN
  rw [dayNumber_eq, dayNumber_eq] at same
  obtain ⟨year, days⟩ :=
    Calendar.year_unique validM.1 validN.1 m.dayOfYear_lt n.dayOfYear_lt same
  rw [dayOfYear, dayOfYear, year] at days
  obtain ⟨month, day⟩ := Calendar.month_unique n.year validM.2.2.1 validN.2.2.1
    (by rw [← year]; omega) (by omega) days
  exact ⟨year, month, by omega⟩

/-- No two moments have the same count. -/
theorem micros_injective {m n : Moment} (same : m.micros = n.micros) : m = n := by
  have hm := m.microOfDay_lt
  have hn := n.microOfDay_lt
  have days : m.dayNumber = n.dayNumber := by
    have (k : Moment) : k.micros / microsPerDay = k.dayNumber := by
      rw [micros, Nat.mul_comm, Nat.mul_add_div (by decide), Nat.div_eq_of_lt k.microOfDay_lt]
      rfl
    rw [← this m, ← this n, same]
  have rest : m.microOfDay = n.microOfDay := by
    rw [micros, micros, days] at same
    exact Nat.add_left_cancel same
  obtain ⟨year, month, day⟩ := date_unique days
  have validM := m.valid
  have validN := n.valid
  unfold Valid at validM validN
  unfold microOfDay microsPerSecond at rest
  exact ext_fields year month day (by omega) (by omega) (by omega) (by omega)

/-- Every day of the calendar has a date. -/
theorem exists_ofDay? (day micro : Nat) (inside : day < Calendar.daysBeforeYear (lastYear + 1))
    (within : micro < microsPerDay) :
    ∃ m, ofDay? day micro = some m ∧ m.dayNumber = day ∧ m.microOfDay = micro := by
  have first : Calendar.daysBeforeYear 1 = 0 := rfl
  obtain ⟨fromOne, upToLast, inYear, year⟩ := Calendar.yearAt_spec lastYear 1 day
    (Nat.le_refl 1) (by rwa [first, Nat.zero_add, Nat.add_comm 1])
  unfold ofDay?
  generalize Calendar.yearAt lastYear 1 day = date at fromOne upToLast inYear year ⊢
  obtain ⟨y, d⟩ := date
  simp only at fromOne upToLast inYear year ⊢
  have january : Calendar.daysBeforeMonth y 1 = 0 := rfl
  obtain ⟨fromJanuary, upToDecember, inMonth, month⟩ := Calendar.monthAt_spec y 12 1 d
    (Nat.le_refl 1)
    (by rwa [january, Nat.zero_add, show 1 + 12 = 13 from rfl, Calendar.daysBeforeMonth_end])
  generalize Calendar.monthAt y 12 1 d = date at fromJanuary upToDecember inMonth month ⊢
  obtain ⟨k, e⟩ := date
  simp only at fromJanuary upToDecember inMonth month ⊢
  have valid : Valid y k (e + 1) (micro / microsPerSecond / 3600)
      (micro / microsPerSecond / 60 % 60) (micro / microsPerSecond % 60)
      (micro % microsPerSecond) := by
    unfold Valid
    unfold microsPerDay microsPerSecond at within
    unfold microsPerSecond
    refine ⟨fromOne, by omega, fromJanuary, by omega, by omega, by omega, by omega, by omega, by omega,
      by omega⟩
  refine ⟨⟨y, k, e + 1, _, _, _, _, valid⟩, dif_pos valid, ?_, ?_⟩
  · simp only [dayNumber, Nat.add_sub_cancel]
    omega
  · simp only [microOfDay, microsPerSecond]
    omega

/-- Every count of the calendar is that of a moment. -/
theorem exists_ofMicros? {n : Int} (inside : 0 ≤ n ∧ n < calendarMicros) :
    ∃ m, ofMicros? n = some m ∧ (m.micros : Int) = n := by
  obtain ⟨count, rfl⟩ := Int.eq_ofNat_of_zero_le inside.1
  have total : count < calendarMicros := Int.ofNat_lt.1 inside.2
  obtain ⟨m, found, day, micro⟩ := exists_ofDay? (count / microsPerDay)
    (count % microsPerDay)
    ((Nat.div_lt_iff_lt_mul (by decide)).2 total) (Nat.mod_lt _ (by decide))
  refine ⟨m, by rw [ofMicros?, if_pos inside]; exact found, ?_⟩
  rw [micros, day, micro, Nat.mul_comm, Nat.div_add_mod]

theorem ofMicros?_eq_none {n : Int} (outside : ¬ (0 ≤ n ∧ n < calendarMicros)) :
    ofMicros? n = none := by
  rw [ofMicros?, if_neg outside]

theorem micros_lt (m : Moment) : m.micros < calendarMicros := by
  have valid := m.valid
  unfold Valid at valid
  have day : m.dayNumber < Calendar.daysBeforeYear (lastYear + 1) := by
    have inYear := m.dayOfYear_lt
    have next := Calendar.daysBeforeYear_succ m.year valid.1
    have last : Calendar.daysBeforeYear (m.year + 1) ≤ Calendar.daysBeforeYear (lastYear + 1) :=
      Calendar.daysBeforeYear_le_of_le (by omega) (by omega)
    rw [dayNumber_eq]
    omega
  calc m.micros < m.dayNumber * microsPerDay + microsPerDay :=
        Nat.add_lt_add_left m.microOfDay_lt _
    _ = (m.dayNumber + 1) * microsPerDay := by rw [Nat.add_mul, Nat.one_mul]
    _ ≤ calendarMicros := Nat.mul_le_mul_right _ day

theorem ofMicros?_micros (m : Moment) : ofMicros? m.micros = some m := by
  obtain ⟨n, found, same⟩ := exists_ofMicros? ⟨Int.natCast_nonneg _, Int.ofNat_lt.2 m.micros_lt⟩
  rw [found, micros_injective (Int.ofNat.inj same)]

end Moment

end TemplateBuiltins

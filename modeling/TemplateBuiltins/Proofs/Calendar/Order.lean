/-
# Proofs.Calendar.Order -- timestamps sort as the times that they tell

The fields of a timestamp stand in it from the most significant to the least, each with as
many digits as the other timestamp has there.  So two timestamps are in the order of their
first fields that differ (`Timestamp.write_lt_iff`).  The milliseconds that have passed are in
the same order, since a later year begins when all earlier ones are over, and so does a later
month in its year (`Moment.millis_lt_iff`).  Hence texts are sorted by their characters as
moments are by time, and times told at the same distance from two references stand in the
order of the references (`RelativeTime.timestamps_sorted`).
-/
import Mathlib.Data.List.Lex
import Mathlib.Data.String.Basic
import TemplateBuiltins.Proofs.Calendar.Addition

set_option autoImplicit false

namespace TemplateBuiltins

/-! ## Digits in the order of characters -/

namespace Text

variable {width m n : Nat}

theorem digitChar_lt_iff {d e : Nat} (first : d < 10) (second : e < 10) : digitChar d < digitChar e ↔ d < e := by
  have all : ∀ d < 10, ∀ e < 10, (digitChar d < digitChar e ↔ d < e) := by decide
  exact all d first e second

/-- Texts of one length decide before what stands behind them. -/
theorem append_lt_append_iff {a b : List Char} (long : a.length = b.length) (x y : List Char) :
    a ++ x < b ++ y ↔ a < b ∨ a = b ∧ x < y := by
  induction a generalizing b with
  | nil =>
      obtain rfl := List.eq_nil_of_length_eq_zero long.symm
      simp
  | cons c a ih =>
      obtain ⟨d, b, rfl⟩ := List.exists_cons_of_length_eq_add_one long.symm
      rw [List.cons_append, List.cons_append, List.cons_lt_cons_iff, List.cons_lt_cons_iff,
        ih (Nat.succ.inj long), List.cons.injEq]
      tauto

theorem lastDigits_inj (first : m < 10 ^ width) (second : n < 10 ^ width) :
    lastDigits width m = lastDigits width n ↔ m = n := by
  constructor
  · intro same
    rw [← digitsValue_lastDigits first, same, digitsValue_lastDigits second]
  · rintro rfl
    rfl

/-- Fields with room for their numbers are in the order of the numbers. -/
theorem lastDigits_lt_iff (first : m < 10 ^ width) (second : n < 10 ^ width) :
    lastDigits width m < lastDigits width n ↔ m < n := by
  induction width generalizing m n with
  | zero =>
      rw [Nat.pow_zero] at first second
      simp only [lastDigits, List.lt_irrefl, false_iff]
      omega
  | succ width ih =>
      rw [Nat.pow_succ] at first second
      have front : m / 10 < 10 ^ width := by omega
      have back : n / 10 < 10 ^ width := by omega
      rw [lastDigits, lastDigits, append_lt_append_iff (by rw [length_lastDigits, length_lastDigits]),
        ih front back, lastDigits_inj front back, List.cons_lt_cons_iff,
        digitChar_lt_iff (Nat.mod_lt m (by decide)) (Nat.mod_lt n (by decide))]
      simp only [List.lt_irrefl, and_false, or_false]
      omega

/-- A field decides before what stands behind its separator. -/
theorem field_lt_iff (first : m < 10 ^ width) (second : n < 10 ^ width) (c : Char) (x y : List Char) :
    lastDigits width m ++ c :: x < lastDigits width n ++ c :: y ↔ m < n ∨ m = n ∧ x < y := by
  rw [append_lt_append_iff (by rw [length_lastDigits, length_lastDigits]), lastDigits_lt_iff first second,
    lastDigits_inj first second, List.cons_lt_cons_iff]
  simp

end Text

/-! ## Fields in the order of time -/

namespace Moment

variable {m n : Moment}

/-- What a timestamp tells of a moment, the most significant first. -/
def fields (m : Moment) : List Nat := [m.year, m.month, m.day, m.hour, m.minute, m.second, m.micro / 1000]

theorem dayNumber_lt_of_year (less : m.year < n.year) : m.dayNumber < n.dayNumber := by
  have first := m.valid.1
  have inYear := m.dayOfYear_lt
  have next := Calendar.daysBeforeYear_succ m.year first
  have later := Calendar.daysBeforeYear_le_of_le (Nat.le_add_left 1 m.year) less
  rw [dayNumber_eq, dayNumber_eq]
  omega

theorem dayNumber_lt_of_month (year : m.year = n.year) (less : m.month < n.month) : m.dayNumber < n.dayNumber := by
  obtain ⟨-, -, first, -, -, day, -⟩ := m.valid
  have next := Calendar.daysBeforeMonth_succ m.year first
  have later := Calendar.daysBeforeMonth_le_of_le m.year (Nat.le_add_left 1 m.month) less
  have some := m.valid.2.2.2.2.1
  rw [dayNumber, dayNumber, ← year]
  omega

theorem dayNumber_lt_of_day (year : m.year = n.year) (month : m.month = n.month) (less : m.day < n.day) :
    m.dayNumber < n.dayNumber := by
  have some := m.valid.2.2.2.2.1
  rw [dayNumber, dayNumber, year, month]
  omega

theorem millis_eq (m : Moment) :
    m.micros / 1000 =
      m.dayNumber * 86400000 + ((m.hour * 60 + m.minute) * 60 + m.second) * 1000 + m.micro / 1000 := by
  unfold micros microOfDay microsPerDay microsPerSecond
  omega

/-- Earlier fields are earlier moments. -/
theorem millis_lt_of_fields (less : m.fields < n.fields) : m.micros / 1000 < n.micros / 1000 := by
  have timeOfDay (k : Moment) : k.hour < 24 ∧ k.minute < 60 ∧ k.second < 60 ∧ k.micro < 1000000 :=
    k.valid.2.2.2.2.2.2
  have first := timeOfDay m
  have second := timeOfDay n
  have sameDay (year : m.year = n.year) (month : m.month = n.month) (day : m.day = n.day) :
      m.dayNumber = n.dayNumber := by rw [dayNumber, dayNumber, year, month, day]
  rw [millis_eq, millis_eq]
  simp only [fields, List.cons_lt_cons_iff, List.lt_irrefl, and_false, or_false] at less
  rcases less with year | ⟨year, month | ⟨month, day | ⟨day, time⟩⟩⟩
  · have := dayNumber_lt_of_year year
    omega
  · have := dayNumber_lt_of_month year month
    omega
  · have := dayNumber_lt_of_day year month day
    omega
  · have := sameDay year month day
    omega

/-- **The milliseconds that have passed are in the order of the fields.** -/
theorem millis_lt_iff (m n : Moment) : m.micros / 1000 < n.micros / 1000 ↔ m.fields < n.fields := by
  refine ⟨fun less => ?_, millis_lt_of_fields⟩
  rcases lt_trichotomy m.fields n.fields with before | same | behind
  · exact before
  · simp only [fields, List.cons.injEq, and_true] at same
    obtain ⟨year, month, day, hour, minute, second, milli⟩ := same
    rw [millis_eq, millis_eq, dayNumber, dayNumber, year, month, day, hour, minute, second, milli] at less
    exact absurd less (lt_irrefl _)
  · have := millis_lt_of_fields behind
    omega

end Moment

/-! ## Timestamps in the order of time -/

namespace Timestamp

/-- **Timestamps are in the order of their fields.** -/
theorem write_lt_iff (m n : Moment) : write m < write n ↔ m.fields < n.fields := by
  have room (k : Moment) : k.year < 10 ^ 4 ∧ k.month < 10 ^ 2 ∧ k.day < 10 ^ 2 ∧ k.hour < 10 ^ 2 ∧
      k.minute < 10 ^ 2 ∧ k.second < 10 ^ 2 ∧ k.micro / 1000 < 10 ^ 3 := by
    obtain ⟨-, year, -, month, -, day, hour, minute, second, micro⟩ := k.valid
    have long := monthLength_le k.year k.month
    unfold Moment.lastYear at year
    omega
  obtain ⟨year, month, day, hour, minute, second, milli⟩ := room m
  obtain ⟨year', month', day', hour', minute', second', milli'⟩ := room n
  rw [write_eq_text, write_eq_text]
  simp only [text, List.append_assoc, List.cons_append, List.nil_append]
  rw [Text.field_lt_iff year year', Text.field_lt_iff month month', Text.field_lt_iff day day',
    Text.field_lt_iff hour hour', Text.field_lt_iff minute minute', Text.field_lt_iff second second',
    Text.field_lt_iff milli milli']
  simp only [Moment.fields, List.cons_lt_cons_iff, List.lt_irrefl]

/-- As texts, timestamps are in the order of the milliseconds. -/
theorem write_le_iff (m n : Moment) :
    String.ofList (write m) ≤ String.ofList (write n) ↔ m.micros / 1000 ≤ n.micros / 1000 := by
  rw [← String.not_lt, String.lt_iff_toList_lt, String.toList_ofList, String.toList_ofList, write_lt_iff,
    ← Moment.millis_lt_iff, Nat.not_lt]

end Timestamp

namespace RelativeTime

theorem inMillis_instant_le_iff (m n : Moment) :
    m.inMillis.instant ≤ n.inMillis.instant ↔ m.micros / 1000 ≤ n.micros / 1000 := by
  rw [instant_inMillis, instant_inMillis, Moment.instant_eq_micros, Moment.instant_eq_micros]
  omega

/-- **Timestamps are sorted by their characters as they are by time.**  Of two moments, one has the
smaller timestamp or the same if and only if it is not later to the millisecond; all timestamps have
one length; and the times that one offset leads to are sorted as the references that it is counted
from. -/
theorem timestamps_sorted :
    (∀ m n : Moment, String.ofList (Timestamp.write m) ≤ String.ofList (Timestamp.write n) ↔
        m.inMillis.instant ≤ n.inMillis.instant) ∧
      (∀ m : Moment, (String.ofList (Timestamp.write m)).length = 24) ∧
      ∀ (clock : Moment) (text : String) (base other : Value) (i j : Int) (early late : List Char),
        Refers clock base i → Refers clock other j → i ≤ j →
        timestamp clock text base = .ok early → timestamp clock text other = .ok late →
        String.ofList early ≤ String.ofList late := by
  refine ⟨?_, ?_, ?_⟩
  · intro m n
    rw [Timestamp.write_le_iff, inMillis_instant_le_iff]
  · intro m
    rw [String.length_ofList, (Timestamp.tells_write m).length]
  · intro clock text base other i j early late first second order told told'
    obtain ⟨o, m, -, parsed, accepted, -, -⟩ := exists_of_timestamp told
    obtain ⟨-, n, -, -, accepted', -, -⟩ := exists_of_timestamp told'
    have start := (refers_iff accepted i).1 first
    have start' := (refers_iff accepted' j).1 second
    -- both counts are moved by the same number of seconds
    obtain ⟨there, leads, rfl⟩ := instant_of_timestamp parsed accepted told
    obtain ⟨there', leads', rfl⟩ := instant_of_timestamp parsed accepted' told'
    rw [Moment.instant_eq_micros] at leads leads'
    rw [Timestamp.write_le_iff]
    omega

/-- The last microsecond of a year. -/
def yearEnd : Moment := ⟨1999, 12, 31, 23, 59, 59, 999999, by decide⟩

/-- Two months from the end of a year and from the beginning of the next lead to both sides of the end
of a leap day. -/
theorem timestamps_sorted_yearEnd :
    ∃ early late, timestamp yearEnd "2mo" (.moment ⟨yearEnd, none⟩) = .ok early ∧
      timestamp yearEnd "2mo" (.string "2000-01-01T00:00:00.000Z") = .ok late ∧
      String.ofList early ≤ String.ofList late ∧ (String.ofList late).length = 24 := by
  have parsed : offset "2mo" = .ok ⟨0, 2, 0, 0, 0, 0, 0⟩ := (offset_iff_read? _ _).2 (by decide +kernel)
  have ended : reference yearEnd (.moment ⟨yearEnd, none⟩) = .ok yearEnd := rfl
  have begun : reference yearEnd (.string "2000-01-01T00:00:00.000Z") =
      .ok ⟨2000, 1, 1, 0, 0, 0, 0, by decide⟩ := rfl
  have early := timestamp_of_micros parsed ended ⟨2000, 2, 29, 23, 59, 59, 999999, by decide⟩ (by decide)
  have late := timestamp_of_micros parsed begun ⟨2000, 3, 1, 0, 0, 0, 0, by decide⟩ (by decide)
  have order : yearEnd.instant ≤ (⟨2000, 1, 1, 0, 0, 0, 0, by decide⟩ : Moment).instant := by
    rw [Moment.instant_eq_micros, Moment.instant_eq_micros]
    decide
  obtain ⟨-, length, sorted⟩ := timestamps_sorted
  refine ⟨_, _, early, late, ?_, length _⟩
  exact sorted yearEnd "2mo" _ _ _ _ _ _ (refers_of_reference ended) (refers_of_reference begun) order early late

end RelativeTime

end TemplateBuiltins

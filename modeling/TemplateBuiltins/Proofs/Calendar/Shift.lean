/-
# Proofs.Calendar.Shift -- the moment an offset away is exact

A reference names an instant (`RelativeTime.Refers`), counted in microseconds
from the first moment of the calendar: a text names it by its fields, clocks that are
ahead of universal time show it as many seconds too late, and null names the instant
that the clock of the call shows.  Shifting by an offset adds its seconds to that
count.  Two things can be too large: the duration of the offset, and the moment it
leads to.  Both come to one condition, because a duration that does not exist leads
out of the calendar from wherever it starts (`duration_too_long`).  So the outcome
depends on the count alone, and references to one instant are the same
(`timestamp_exact`).
-/
import Mathlib.Tactic.ByContra
import TemplateBuiltins.Proofs.Calendar.Reading
import TemplateBuiltins.Proofs.Offset.Duration
import TemplateBuiltins.Proofs.Offset.Reading

set_option autoImplicit false

namespace TemplateBuiltins

namespace Moment

/-- The count of a moment, by the time that has passed before it. -/
def instant (m : Moment) : Int :=
  (elapsed m.year m.month m.day m.hour m.minute m.second m.micro : Nat)

theorem instant_eq_micros (m : Moment) : m.instant = m.micros := by
  rw [instant, micros_eq_elapsed]

theorem ofMicros?_instant (m : Moment) : ofMicros? m.instant = some m := by
  rw [instant_eq_micros, ofMicros?_micros]

/-- A moment is the one of its count. -/
theorem eq_of_ofMicros? {n : Int} {m : Moment} (found : ofMicros? n = some m) : m.instant = n := by
  have inside : 0 ≤ n ∧ n < calendarMicros := by
    by_contra outside
    rw [ofMicros?_eq_none outside] at found
    cases found
  obtain ⟨k, same, count⟩ := exists_ofMicros? inside
  rw [found, Option.some.injEq] at same
  rw [instant_eq_micros, same, count]

theorem instant_injective {m n : Moment} (same : m.instant = n.instant) : m = n := by
  rw [instant_eq_micros, instant_eq_micros] at same
  exact micros_injective (Int.ofNat.inj same)

end Moment

namespace RelativeTime

variable {clock : Moment} {base : Value} {m : Moment}

/-- A value names an instant at a reading of the clock, in microseconds since the first moment. -/
def Refers (clock : Moment) : Value → Int → Prop
  | .null, n => n = clock.instant
  | .moment z, n => n = z.clock.instant - z.ahead.getD 0 * 1000000
  | .string s, n => ∃ m, Timestamp.Names s.toList m ∧ n = m.instant
  | _, _ => False

theorem instant_of_universal? {z : ZonedMoment} {m : Moment} (shown : z.universal? = some m) :
    z.clock.instant - z.ahead.getD 0 * 1000000 = m.instant := by
  rw [ZonedMoment.universal?] at shown
  cases ahead : z.ahead with
  | none =>
      rw [ahead, Option.some.injEq] at shown
      rw [← shown, Option.getD_none]
      omega
  | some seconds =>
      rw [ahead] at shown
      rw [Moment.eq_of_ofMicros? shown, Moment.instant_eq_micros]
      rfl

theorem universal?_of_instant {z : ZonedMoment} {m : Moment}
    (named : z.clock.instant - z.ahead.getD 0 * 1000000 = m.instant) : z.universal? = some m := by
  rw [ZonedMoment.universal?]
  cases ahead : z.ahead with
  | none =>
      rw [ahead, Option.getD_none] at named
      rw [Moment.instant_injective (show z.clock.instant = m.instant by omega)]
  | some seconds =>
      rw [ahead, Option.getD_some, Moment.instant_eq_micros z.clock] at named
      show Moment.ofMicros? (z.clock.micros - seconds * 1000000) = some m
      rw [named, Moment.ofMicros?_instant]

/-- A reference names one instant, the one of its moment. -/
theorem refers_iff (accepted : reference clock base = .ok m) (n : Int) :
    Refers clock base n ↔ n = m.instant := by
  cases base with
  | null =>
      cases accepted
      rfl
  | moment z =>
      simp only [reference] at accepted
      cases shown : z.universal? with
      | none =>
          rw [shown] at accepted
          cases accepted
      | some k =>
          rw [shown] at accepted
          cases accepted
          rw [Refers, instant_of_universal? shown]
  | string s =>
      simp only [reference] at accepted
      cases read : Timestamp.read? s.toList with
      | none =>
          rw [read] at accepted
          cases accepted
      | some k =>
          rw [read] at accepted
          cases accepted
          simp only [Refers, ← Timestamp.read?_eq_some_iff, read, Option.some.injEq]
          exact ⟨fun ⟨j, same, count⟩ => same ▸ count, fun count => ⟨m, rfl, count⟩⟩
  | _ => cases accepted

theorem refers_of_reference (accepted : reference clock base = .ok m) : Refers clock base m.instant :=
  (refers_iff accepted _).2 rfl

/-- An instant of the calendar is accepted, whatever it is named by. -/
theorem reference_of_refers (named : Refers clock base m.instant) : reference clock base = .ok m := by
  cases base with
  | null => rw [reference, Moment.instant_injective named]
  | moment z => rw [reference, universal?_of_instant named.symm]
  | string s =>
      obtain ⟨k, names, count⟩ := named
      simp only [reference, Timestamp.read?_of_names names, Moment.instant_injective count]
  | _ => cases named

/-- The count lies in the calendar, from its first microsecond to its last. -/
def InCalendar (n : Int) : Prop := 0 ≤ n ∧ n ≤ Moment.lastMicro

theorem inCalendar_iff (n : Int) : InCalendar n ↔ 0 ≤ n ∧ n < Moment.calendarMicros := by
  rw [InCalendar, Moment.calendarMicros_eq]
  omega

/-- An offset without a duration leads out of the calendar. -/
theorem duration_too_long {o : Offset} {days : Int} (long : o.duration = .error days) (m : Moment) :
    ¬ InCalendar (m.instant + 1000000 * o.total) := by
  have last : Moment.calendarMicros = 3652059 * 86400000000 := by decide
  have here := m.micros_lt
  obtain ⟨-, many⟩ := (Duration.ofSeconds_eq_error_iff _ _).1 long
  unfold Duration.WithinLimit Duration.dayLimit at many
  rw [inCalendar_iff, Moment.instant_eq_micros]
  omega

/-- Both limits come to one: there is a moment where the count lies in the calendar. -/
theorem shifted?_eq (m : Moment) (o : Offset) :
    shifted? m o = Moment.ofMicros? (m.instant + 1000000 * o.total) := by
  unfold shifted?
  cases long : o.duration with
  | ok d =>
      have same : d.total = o.total := Offset.total_of_duration long
      show Moment.ofMicros? (m.micros + d.total * 1000000) = _
      rw [Moment.instant_eq_micros, same, Int.mul_comm]
  | error days =>
      have outside := duration_too_long long m
      rw [inCalendar_iff] at outside
      exact (Moment.ofMicros?_eq_none outside).symm

theorem timestamp_eq {text : String} {o : Offset} (parsed : offset text = .ok o)
    (accepted : reference clock base = .ok m) :
    timestamp clock text base =
      match shifted? m o with
      | some later => .ok (Timestamp.write later)
      | none => .error (.offsetOutOfRange text) := by
  rw [timestamp, parsed, accepted]
  rfl

/-- **Times an offset away are exact.**  A reference names one instant.  A timestamp is written
where the count leads from there to a moment of the calendar, and says the milliseconds of that count;
anywhere else the offset is out of range.  Whatever else names the instant has the same outcome. -/
theorem timestamp_exact {clock : Moment} {text : String} {o : Offset} {base : Value} {m : Moment}
    (parsed : offset text = .ok o) (accepted : reference clock base = .ok m) :
    ∃ instant : Int, (∀ n, Refers clock base n ↔ n = instant) ∧
      (InCalendar (instant + 1000000 * o.total) →
        ∃ written, timestamp clock text base = .ok written ∧ written.length = 24 ∧
          Timestamp.Tells written ((instant + 1000000 * o.total) / 1000).toNat) ∧
      (¬ InCalendar (instant + 1000000 * o.total) →
        (timestamp clock text base).mapError Failure.report =
          .error ⟨.relativeTime, s!"Offset '{text}' is out of range", [("builtin", .string "fromNow")]⟩) ∧
      ∀ other, Refers clock other instant → timestamp clock text other = timestamp clock text base := by
  refine ⟨m.instant, refers_iff accepted, ?_, ?_, ?_⟩
  · intro inside
    rw [inCalendar_iff] at inside
    obtain ⟨later, found, count⟩ := Moment.exists_ofMicros? inside
    have tells := Timestamp.tells_write later
    refine ⟨Timestamp.write later, ?_, tells.length, ?_⟩
    · rw [timestamp_eq parsed accepted, shifted?_eq, found]
    · have millis : ((later.micros : Int) / 1000).toNat = later.micros / 1000 := by omega
      rw [← count, millis]
      exact tells
  · intro outside
    rw [inCalendar_iff] at outside
    rw [timestamp_eq parsed accepted, shifted?_eq, Moment.ofMicros?_eq_none outside]
    rfl
  · intro other named
    rw [timestamp_eq parsed accepted, timestamp_eq parsed (reference_of_refers named)]

/-- Half past midnight on the last of February, two hours ahead of universal time. -/
def eastern : Value := .moment ⟨⟨2000, 2, 29, 0, 30, 0, 999, by decide⟩, some 7200⟩

/-- The same instant in universal time, almost a millisecond past the half hour. -/
def evening : Moment := ⟨2000, 2, 28, 22, 30, 0, 999, by decide⟩

theorem instant_evening : evening.instant = 63087373800000999 := by
  rw [Moment.instant_eq_micros]
  rfl

/-- A day later it is still the leap day, told by a short text, by clocks that are ahead or by the clock
of the call. -/
theorem timestamp_eastern :
    (∃ written, timestamp evening "1d" (.string "2000-2-28t22:30:0.000999z") = .ok written ∧
        Timestamp.Tells written 63087460200000) ∧
      timestamp evening "1d" eastern = timestamp evening "1d" (.string "2000-2-28t22:30:0.000999z") ∧
      timestamp evening "1d" .null = timestamp evening "1d" (.string "2000-2-28t22:30:0.000999z") := by
  have accepted : reference evening (.string "2000-2-28t22:30:0.000999z") = .ok evening := rfl
  obtain ⟨instant, named, inside, -, others⟩ := timestamp_exact offset_oneDay accepted
  obtain rfl := (named _).1 (refers_of_reference accepted)
  rw [instant_evening] at inside others
  refine ⟨?_, others _ ?_, others _ ?_⟩
  · obtain ⟨written, made, -, tells⟩ := inside (by rw [inCalendar_iff]; decide)
    exact ⟨written, made, tells⟩
  · rw [eastern, Refers, Moment.instant_eq_micros]
    rfl
  · exact instant_evening.symm

end RelativeTime

end TemplateBuiltins

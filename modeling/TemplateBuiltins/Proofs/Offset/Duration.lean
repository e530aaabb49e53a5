/-
# Proofs.Offset.Duration -- the duration of an offset is exact

A duration is the only way to write its seconds as whole days and a rest that is less than a
day, so a number of seconds has at most one (`Duration.ofSeconds_eq_ok_iff`), and none where
its days are too many (`Duration.ofSeconds_eq_error_iff`).  Durations are added by carrying the
whole days over, which comes to the same as counting everything in seconds
(`Duration.carried_eq`), and offsets count by count, so both sums have the seconds of the two
(`Duration.plus_eq`, `Offset.total_plus`).

Nothing is lost on the way, whatever the signs and sizes of the counts: counts that cancel
each other do no harm, and where the result is too long is decided by the seconds alone
(`RelativeTime.duration_exact`).
-/
import Mathlib.Data.Rat.Floor
import TemplateBuiltins.RelativeTime

set_option autoImplicit false

namespace TemplateBuiltins

namespace Duration

/-! ## Days and a rest -/

/-- The days are not too many for a duration. -/
def WithinLimit (days : Int) : Prop := -dayLimit ≤ days ∧ days ≤ dayLimit

instance (days : Int) : Decidable (WithinLimit days) := inferInstanceAs (Decidable (_ ∧ _))

/-- Days within the limit, and a rest that is less than a day. -/
structure Normal (d : Duration) : Prop where
  days : WithinLimit d.days
  seconds : d.seconds < 86400

/-- Days and a rest are the quotient and the remainder of the seconds. -/
theorem total_eq_iff {d : Duration} (rest : d.seconds < 86400) (n : Int) :
    d.total = n ↔ d.days = n / 86400 ∧ (d.seconds : Int) = n % 86400 := by
  unfold total
  omega

theorem ofSeconds_eq (n : Int) :
    ofSeconds n =
      if WithinLimit (n / 86400) then .ok ⟨n / 86400, (n % 86400).toNat⟩ else .error (n / 86400) := by
  have day : (0 : Int) ≤ 86400 := by decide
  simp only [ofSeconds, Int.fdiv_eq_ediv_of_nonneg n day, Int.fmod_eq_emod_of_nonneg n day]
  rfl

/-- A number of seconds has the duration that comes to it, and no other. -/
theorem ofSeconds_eq_ok_iff (n : Int) (d : Duration) :
    ofSeconds n = .ok d ↔ d.Normal ∧ d.total = n := by
  have whole : ((n % 86400).toNat : Int) = n % 86400 := by omega
  have rest : (n % 86400).toNat < 86400 := by omega
  rw [ofSeconds_eq]
  constructor
  · intro found
    split at found
    · rename_i within
      cases found
      exact ⟨⟨within, rest⟩, (total_eq_iff rest n).2 ⟨rfl, whole⟩⟩
    · cases found
  · rintro ⟨normal, total⟩
    obtain ⟨days, seconds⟩ := (total_eq_iff normal.seconds n).1 total
    rw [← days, if_pos normal.days, ← seconds]
    rfl

theorem ofSeconds_eq_error_iff (n days : Int) :
    ofSeconds n = .error days ↔ days = n / 86400 ∧ ¬ WithinLimit (n / 86400) := by
  rw [ofSeconds_eq]
  split
  · rename_i within
    exact ⟨nofun, fun ⟨_, many⟩ => absurd within many⟩
  · rename_i many
    rw [Except.error.injEq, eq_comm, and_iff_left many]

/-! ## Carrying and adding -/

/-- So many days and seconds, with the whole days that the seconds make carried over. -/
def carried (days seconds : Int) : Except Int Duration :=
  if WithinLimit (days + seconds / 86400) then
    .ok ⟨days + seconds / 86400, (seconds % 86400).toNat⟩
  else .error (days + seconds / 86400)

theorem carried_eq (days seconds : Int) : carried days seconds = ofSeconds (86400 * days + seconds) := by
  have whole : (86400 * days + seconds) / 86400 = days + seconds / 86400 := by omega
  have rest : (86400 * days + seconds) % 86400 = seconds % 86400 := by omega
  rw [ofSeconds_eq, whole, rest, carried]

/-- The sum of two durations, if it is none too long. -/
def plus (d e : Duration) : Except Int Duration := carried (d.days + e.days) (d.seconds + e.seconds)

theorem plus_eq (d e : Duration) : d.plus e = ofSeconds (d.total + e.total) := by
  have seconds : 86400 * (d.days + e.days) + (d.seconds + e.seconds) = d.total + e.total := by
    unfold total
    omega
  rw [plus, carried_eq, seconds]

end Duration

namespace Offset

variable {o p : Offset} {d e : Duration}

/-- The sum of two offsets, count by count. -/
def plus (o p : Offset) : Offset :=
  ⟨o.years + p.years, o.months + p.months, o.weeks + p.weeks, o.days + p.days, o.hours + p.hours,
    o.minutes + p.minutes, o.seconds + p.seconds⟩

theorem total_plus (o p : Offset) : (o.plus p).total = o.total + p.total := by
  simp only [total, plus]
  omega

theorem total_of_duration (found : o.duration = .ok d) : d.total = o.total :=
  ((Duration.ofSeconds_eq_ok_iff _ _).1 found).2

theorem duration_plus (first : o.duration = .ok d) (second : p.duration = .ok e) :
    (o.plus p).duration = d.plus e := by
  rw [duration, total_plus, Duration.plus_eq, total_of_duration first, total_of_duration second]

end Offset

namespace RelativeTime

variable {o : Offset} {d : Duration}

theorem duration_eq_mapError (o : Offset) :
    duration o = o.duration.mapError .durationOutOfRange := by
  unfold duration
  cases o.duration <;> rfl

theorem duration_eq_ok_iff : duration o = .ok d ↔ o.duration = .ok d := by
  unfold duration
  cases o.duration <;> simp

theorem floor_days (n : Int) : ⌊(n : ℚ) / 86400⌋ = n / 86400 :=
  Rat.floor_intCast_div_natCast n 86400

/-! ## The duration of an offset -/

/-- **The duration of an offset is exact, or there is none.**  All counts together come to a number of
seconds, of any size and either sign.  While the days in it, rounded down, are within the limit, the
duration has those days and the seconds that are left, less than a day; beyond it, and only there, the
duration is out of range.  Hence offsets of the same length have the same outcome, and where two durations
exist, the outcome for the sum of the offsets is the sum of the durations. -/
theorem duration_exact (o : Offset) {T : Int}
    (lasts : T = 86400 * (365 * o.years + 30 * o.months + 7 * o.weeks + o.days) + 3600 * o.hours +
      60 * o.minutes + o.seconds) :
    (-999999999 ≤ ⌊(T : ℚ) / 86400⌋ ∧ ⌊(T : ℚ) / 86400⌋ ≤ 999999999 →
      ∃ d, duration o = .ok d ∧ d.days = ⌊(T : ℚ) / 86400⌋ ∧
        (d.seconds : Int) = T - 86400 * d.days ∧ d.seconds < 86400) ∧
    (¬ (-999999999 ≤ ⌊(T : ℚ) / 86400⌋ ∧ ⌊(T : ℚ) / 86400⌋ ≤ 999999999) →
      duration o = .error (.durationOutOfRange ⌊(T : ℚ) / 86400⌋) ∧
        (Failure.durationOutOfRange ⌊(T : ℚ) / 86400⌋).report.family = .overflow) ∧
    (∀ p : Offset, p.total = T → duration p = duration o) ∧
    ∀ (p : Offset) (d e : Duration), duration o = .ok d → duration p = .ok e →
      duration (o.plus p) = (d.plus e).mapError .durationOutOfRange ∧
        ∀ f, d.plus e = .ok f → f.total = d.total + e.total := by
  have seconds : o.total = T := lasts.symm
  rw [floor_days]
  refine ⟨?_, ?_, ?_, ?_⟩
  · intro (within : Duration.WithinLimit (T / 86400))
    have found : o.duration = .ok ⟨T / 86400, (T % 86400).toNat⟩ := by
      rw [Offset.duration, seconds, Duration.ofSeconds_eq, if_pos within]
    have rest : ((T % 86400).toNat : Int) = T - 86400 * (T / 86400) := by omega
    have day : (T % 86400).toNat < 86400 := by omega
    exact ⟨_, duration_eq_ok_iff.2 found, rfl, rest, day⟩
  · intro (many : ¬ Duration.WithinLimit (T / 86400))
    have long : o.duration = .error (T / 86400) := by
      rw [Offset.duration, seconds, Duration.ofSeconds_eq, if_neg many]
    rw [duration_eq_mapError, long]
    exact ⟨rfl, rfl⟩
  · intro p same
    rw [duration_eq_mapError, duration_eq_mapError, Offset.duration, Offset.duration, same, seconds]
  · intro p d e first second
    have sum := Offset.duration_plus (duration_eq_ok_iff.1 first) (duration_eq_ok_iff.1 second)
    refine ⟨by rw [duration_eq_mapError, sum], fun f found => ?_⟩
    rw [Duration.plus_eq] at found
    exact ((Duration.ofSeconds_eq_ok_iff _ _).1 found).2

/-- As long as a duration can be, in counts of which the largest cancel each other. -/
def longest : Offset := ⟨10 ^ 30, 0, 0, 999999999 - 365 * 10 ^ 30, 24, -1, 59⟩

/-- The longest duration forward has seconds beside its days, and the longest one back has none.  A second
back is a day back and the rest of a day forward, and adding it to the longest duration carries a day. -/
theorem duration_exact_longest :
    (∃ d, duration longest = .ok d ∧ d.days = 999999999 ∧ d.seconds = 86399) ∧
    duration ⟨0, 0, 0, 999999999, 23, 59, 59⟩ = duration longest ∧
    duration ⟨0, 0, 0, 999999999, 24, 0, 0⟩ = .error (.durationOutOfRange 1000000000) ∧
    (∃ d, duration ⟨0, 0, 0, -999999999, 0, 0, 0⟩ = .ok d ∧ d.days = -999999999 ∧ d.seconds = 0) ∧
    duration ⟨0, 0, 0, -999999999, 0, 0, -1⟩ = .error (.durationOutOfRange (-1000000000)) ∧
    duration (longest.plus ⟨0, 0, 0, 0, 0, 0, -1⟩) = .ok ⟨999999999, 86398⟩ := by
  obtain ⟨forward, -, same, sum⟩ := duration_exact longest (T := 86399999999999) rfl
  obtain ⟨-, above, -⟩ := duration_exact ⟨0, 0, 0, 999999999, 24, 0, 0⟩ (T := 86400000000000) rfl
  obtain ⟨back, -⟩ := duration_exact ⟨0, 0, 0, -999999999, 0, 0, 0⟩ (T := -86399999913600) rfl
  obtain ⟨-, below, -⟩ := duration_exact ⟨0, 0, 0, -999999999, 0, 0, -1⟩ (T := -86399999913601) rfl
  simp only [floor_days] at forward above back below
  obtain ⟨d, found, days, rest, -⟩ := forward (by decide)
  obtain ⟨e, found', days', rest', -⟩ := back (by decide)
  refine ⟨⟨d, found, days, by omega⟩, same _ rfl, (above (by decide)).1, ⟨e, found', days', by omega⟩,
    (below (by decide)).1, ?_⟩
  exact (sum ⟨0, 0, 0, 0, 0, 0, -1⟩ ⟨999999999, 86399⟩ ⟨-1, 86399⟩ rfl rfl).1

end RelativeTime

end TemplateBuiltins

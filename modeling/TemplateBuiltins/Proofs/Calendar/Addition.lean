/-
# Proofs.Calendar.Addition -- offsets add up

A time that is told can be counted from again, but what is finer than a millisecond is
lost on the way.  Nothing depends on it: an offset is a number of whole seconds, and the
calendar begins and ends with a whole second, so counts within one millisecond are in the
calendar together (`inCalendar_millis_iff`) and are told the same.  Hence two ways of
counting that lead to the same millisecond are told the same, whatever they start from
(`timestamp_congr`).  That two offsets one after the other are told as their sum, that a
minus takes back what a plus has added, and that nothing changes a second time are three
cases of it (`timestamp_add`).

A sign in front of a text without one leaves its counts or reverses them all
(`Offset.read?_signed`).
-/
import TemplateBuiltins.Proofs.Calendar.RoundTrip

set_option autoImplicit false

namespace TemplateBuiltins

/-! ## Signs -/

namespace Offset

/-- A text in which no sign stands. -/
def Unsigned (s : List Char) : Prop := ∀ c ∈ s, ¬ (c = '+' ∨ c = '-')

/-- The offset with all its counts reversed. -/
def reversed (o : Offset) : Offset :=
  ⟨-o.years, -o.months, -o.weeks, -o.days, -o.hours, -o.minutes, -o.seconds⟩

theorem count_reversed (o : Offset) (u : TimeUnit) : o.reversed.count u = -o.count u := by
  cases u <;> rfl

theorem total_reversed (o : Offset) : o.reversed.total = -o.total := by
  simp only [total, reversed]
  omega

namespace Spelling

variable {p : Spelling} {o : Offset}

/-- The spelling with a sign in front of it. -/
def signed (p : Spelling) (c : Char) : Spelling := ⟨[], some c, p.before ++ p.behind, p.components⟩

theorem sign_of_unsigned (valid : p.Valid) (unsigned : Unsigned p.text) : p.sign = none := by
  cases signed : p.sign with
  | none => rfl
  | some c =>
      have inside : c ∈ p.text := by simp [text, signed]
      exact absurd (valid.sign c signed) (unsigned c inside)

theorem text_signed (plain : p.sign = none) (c : Char) : (p.signed c).text = c :: p.text := by
  simp [text, signed, plain]

theorem Valid.signed (valid : p.Valid) {c : Char} (sign : c = '+' ∨ c = '-') : (p.signed c).Valid := by
  refine ⟨by simp [Spelling.signed], ?_, ?_, valid.components⟩
  · intro d given
    cases given
    exact sign
  · intro d inside
    rcases List.mem_append.1 inside with before | behind
    · exact valid.before d before
    · exact valid.behind d behind

theorem Denotes.plus (denotes : p.Denotes o) (plain : p.sign = none) : (p.signed '+').Denotes o := by
  refine ⟨denotes.named, denotes.descending, ?_, denotes.others⟩
  intro w inside u named
  have count := denotes.counts w inside u named
  simp only [negative, plain] at count
  exact count

theorem Denotes.minus (denotes : p.Denotes o) (plain : p.sign = none) :
    (p.signed '-').Denotes o.reversed := by
  refine ⟨denotes.named, denotes.descending, ?_, ?_⟩
  · intro w inside u named
    have count := denotes.counts w inside u named
    simp only [negative, plain] at count
    rw [count_reversed, count]
    rfl
  · intro u unnamed
    rw [count_reversed, denotes.others u unnamed]
    rfl

end Spelling

/-- A plus leaves what a text denotes, a minus reverses it. -/
theorem read?_signed {s : List Char} {o : Offset} (read : read? s = some o) (unsigned : Unsigned s) :
    read? ('+' :: s) = some o ∧ read? ('-' :: s) = some o.reversed := by
  obtain ⟨p, valid, within, rfl, denotes⟩ := (read?_eq_some_iff s o).1 read
  have plain := Spelling.sign_of_unsigned valid unsigned
  constructor
  · apply (read?_eq_some_iff _ _).2
    exact ⟨p.signed '+', valid.signed (.inl rfl), within, Spelling.text_signed plain '+',
      denotes.plus plain⟩
  · apply (read?_eq_some_iff _ _).2
    exact ⟨p.signed '-', valid.signed (.inr rfl), within, Spelling.text_signed plain '-',
      denotes.minus plain⟩

end Offset

namespace RelativeTime

variable {first second : String} {o p : Offset} {base other : Value} {clock m k : Moment}

theorem offset_plus {text : String} (parsed : offset text = .ok o)
    (unsigned : Offset.Unsigned text.toList) : offset ("+" ++ text) = .ok o := by
  rw [offset_iff_read?, String.toList_append]
  exact (Offset.read?_signed ((offset_iff_read? _ _).1 parsed) unsigned).1

theorem offset_minus {text : String} (parsed : offset text = .ok o)
    (unsigned : Offset.Unsigned text.toList) : offset ("-" ++ text) = .ok o.reversed := by
  rw [offset_iff_read?, String.toList_append]
  exact (Offset.read?_signed ((offset_iff_read? _ _).1 parsed) unsigned).2

/-! ## Counts within one millisecond -/

theorem inCalendar_instant (m : Moment) : InCalendar m.instant := by
  rw [inCalendar_iff, Moment.instant_eq_micros]
  have inside := m.micros_lt
  omega

/-- The calendar begins and ends with a whole millisecond. -/
theorem inCalendar_millis_iff (n : Int) : InCalendar (n / 1000 * 1000) ↔ InCalendar n := by
  have last : Moment.calendarMicros = 3652059 * 86400000000 := by decide
  rw [inCalendar_iff, inCalendar_iff, last]
  omega

theorem instant_inMillis (m : Moment) : m.inMillis.instant = m.instant / 1000 * 1000 := by
  rw [Moment.instant_eq_micros, Moment.instant_eq_micros, Moment.micros_inMillis]
  simp

/-- Moments within one millisecond have one timestamp. -/
theorem write_eq_of_millis (same : m.instant / 1000 = k.instant / 1000) :
    Timestamp.write m = Timestamp.write k := by
  have cut : m.inMillis = k.inMillis := by
    apply Moment.instant_injective
    rw [instant_inMillis, instant_inMillis, same]
  rw [← Timestamp.write_inMillis m, cut, Timestamp.write_inMillis]

/-- What is told is told as well by any other count that leads into the same millisecond. -/
theorem timestamp_congr (parsed : offset first = .ok o) (accepted : reference clock base = .ok m)
    (others : offset second = .ok p) (counted : reference clock other = .ok k)
    (same : (m.instant + 1000000 * o.total) / 1000 = (k.instant + 1000000 * p.total) / 1000)
    {written : List Char} (told : timestamp clock first base = .ok written) :
    timestamp clock second other = .ok written := by
  obtain ⟨later, leads, rfl⟩ := instant_of_timestamp parsed accepted told
  have inside : InCalendar (k.instant + 1000000 * p.total) := by
    have here : InCalendar (m.instant + 1000000 * o.total) := leads ▸ inCalendar_instant later
    rw [← inCalendar_millis_iff, ← same, inCalendar_millis_iff]
    exact here
  rw [inCalendar_iff] at inside
  obtain ⟨reached, -, count⟩ := Moment.exists_ofMicros? inside
  rw [← Moment.instant_eq_micros] at count
  have millis : reached.instant / 1000 = later.instant / 1000 := by rw [count, leads, same]
  rw [timestamp_of_instant others counted reached count.symm, write_eq_of_millis millis]

/-! ## Addition -/

/-- **Offsets add up on timestamps.**  Where an offset is told from a reference, and another from
the time that is told, an offset as long as both is told from the reference as the same time; a minus
leads back to where a plus has come from; and the time that no offset leads to stays. -/
theorem timestamp_add {clock : Moment} {base : Value} {m : Moment} (accepted : reference clock base = .ok m) :
    (∀ (first second both : String) (o₁ o₂ o : Offset), offset first = .ok o₁ →
        offset second = .ok o₂ → offset both = .ok o → o.total = o₁.total + o₂.total →
        ∀ midway last, timestamp clock first base = .ok midway →
          timestamp clock second (.ofText midway) = .ok last → timestamp clock both base = .ok last) ∧
      (∀ (text : String) (o : Offset), offset text = .ok o → Offset.Unsigned text.toList →
        ∀ there, timestamp clock ("+" ++ text) base = .ok there →
          ∃ back, timestamp clock ("-" ++ text) (.ofText there) = .ok back ∧
            timestamp clock "" base = .ok back) ∧
      ∃ start, timestamp clock "" base = .ok start ∧ timestamp clock "" (.ofText start) = .ok start := by
  have none : offset "" = .ok Offset.zero := (offset_iff_read? _ _).2 (by decide +kernel)
  have nothing : Offset.zero.total = 0 := rfl
  have start : timestamp clock "" base = .ok (Timestamp.write m) :=
    timestamp_of_instant none accepted m (by omega)
  refine ⟨?_, ?_, Timestamp.write m, start, ?_⟩
  · intro first second both o₁ o₂ o parsed₁ parsed₂ parsed sum midway last told₁ told₂
    obtain ⟨later, leads, rfl⟩ := instant_of_timestamp parsed₁ accepted told₁
    apply timestamp_congr parsed₂ (reference_write clock later) parsed accepted ?_ told₂
    rw [instant_inMillis, leads, sum]
    omega
  · intro text o parsed unsigned there told
    obtain ⟨later, leads, rfl⟩ := instant_of_timestamp (offset_plus parsed unsigned) accepted told
    refine ⟨Timestamp.write m, ?_, start⟩
    apply timestamp_congr none accepted (offset_minus parsed unsigned) (reference_write clock later) ?_ start
    rw [instant_inMillis, leads, Offset.total_reversed, nothing]
    omega
  · apply timestamp_congr none accepted none (reference_write clock m) ?_ start
    rw [instant_inMillis]
    omega

/-- Thirty days on and forty days back are ten days back, and thirty days on and thirty days back lose
nothing but the microseconds. -/
theorem timestamp_add_month :
    timestamp evening "-10d" (.moment ⟨evening, none⟩) = .ok "2000-02-18T22:30:00.000Z".toList ∧
      timestamp evening "-1mo" (.ofText "2000-03-29T22:30:00.000Z".toList) =
        .ok "2000-02-28T22:30:00.000Z".toList := by
  have accepted : reference evening (.moment ⟨evening, none⟩) = .ok evening := rfl
  have month : offset "1mo" = .ok ⟨0, 1, 0, 0, 0, 0, 0⟩ :=
    (offset_iff_read? _ _).2 (by decide +kernel)
  have unsigned : Offset.Unsigned "1mo".toList := by simp [Offset.Unsigned]
  have back : offset "- 40 days" = .ok ⟨0, 0, 0, -40, 0, 0, 0⟩ :=
    (offset_iff_read? _ _).2 (by decide +kernel)
  have both : offset "-10d" = .ok ⟨0, 0, 0, -10, 0, 0, 0⟩ :=
    (offset_iff_read? _ _).2 (by decide +kernel)
  have midway : Timestamp.write ⟨2000, 3, 29, 22, 30, 0, 999, by decide⟩ =
      "2000-03-29T22:30:00.000Z".toList := by decide +kernel
  have last : Timestamp.write ⟨2000, 2, 18, 22, 30, 0, 0, by decide⟩ =
      "2000-02-18T22:30:00.000Z".toList := by decide +kernel
  have start : Timestamp.write evening = "2000-02-28T22:30:00.000Z".toList := by decide +kernel
  have onward {text : String} (parsed : offset text = .ok ⟨0, 1, 0, 0, 0, 0, 0⟩) :
      timestamp evening text (.moment ⟨evening, none⟩) = .ok "2000-03-29T22:30:00.000Z".toList := by
    rw [← midway]
    exact timestamp_of_micros parsed accepted _ (by decide)
  have backward : timestamp evening "- 40 days" (.ofText "2000-03-29T22:30:00.000Z".toList) =
      .ok "2000-02-18T22:30:00.000Z".toList := by
    rw [← midway, ← last]
    exact timestamp_of_micros back (reference_write evening _) _ (by decide)
  have nothing : offset "" = .ok Offset.zero := (offset_iff_read? _ _).2 (by decide +kernel)
  have stays : timestamp evening "" (.moment ⟨evening, none⟩) = .ok (Timestamp.write evening) :=
    timestamp_of_micros nothing accepted _ (by decide)
  obtain ⟨adds, returns, -⟩ := timestamp_add accepted
  refine ⟨adds "1mo" "- 40 days" "-10d" _ _ _ month back both rfl _ _ (onward month) backward, ?_⟩
  obtain ⟨there, leads, same⟩ := returns "1mo" _ month unsigned _ (onward (offset_plus month unsigned))
  rw [stays, Except.ok.injEq] at same
  rw [← start, same]
  exact leads

end RelativeTime

end TemplateBuiltins

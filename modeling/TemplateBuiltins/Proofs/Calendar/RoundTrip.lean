/-
# Proofs.Calendar.RoundTrip -- timestamps as references

What is told as a timestamp can be counted from again.  Whatever a timestamp is written
for, reading it gives that moment to the millisecond (`reference_write`).  All that is told
for an offset and a reference is the timestamp of some moment (`exists_of_timestamp`), so
it is a reference itself.
-/
import TemplateBuiltins.Proofs.Calendar.Reading
import TemplateBuiltins.Proofs.Calendar.Shift

set_option autoImplicit false

namespace TemplateBuiltins

namespace RelativeTime

variable {clock : Moment}

theorem reference_write (clock m : Moment) : reference clock (.ofText (Timestamp.write m)) = .ok m.inMillis := by
  simp only [Value.ofText, reference, String.toList_ofList, Timestamp.read?_write]

theorem read?_of_reference {s : String} {m : Moment} (accepted : reference clock (.string s) = .ok m) :
    Timestamp.read? s.toList = some m := by
  simp only [reference] at accepted
  split at accepted
  · rename_i n read
    cases accepted
    exact read
  · cases accepted

/-- What is told is the timestamp of the moment that the offset leads to. -/
theorem exists_of_timestamp {text : String} {base : Value} {written : List Char}
    (told : timestamp clock text base = .ok written) :
    ∃ o m later, offset text = .ok o ∧ reference clock base = .ok m ∧ shifted? m o = some later ∧
      written = Timestamp.write later := by
  cases parsed : offset text with
  | error f =>
      rw [timestamp, parsed] at told
      cases told
  | ok o =>
      cases accepted : reference clock base with
      | error f =>
          rw [timestamp, parsed, accepted] at told
          cases told
      | ok m =>
          rw [timestamp_eq parsed accepted] at told
          cases moved : shifted? m o with
          | none =>
              rw [moved] at told
              cases told
          | some later =>
              rw [moved] at told
              cases told
              exact ⟨o, m, later, rfl, rfl, moved, rfl⟩

/-- What is told for an offset and a reference is the timestamp of the count that they lead to. -/
theorem instant_of_timestamp {text : String} {o : Offset} {base : Value} {m : Moment}
    {written : List Char} (parsed : offset text = .ok o) (accepted : reference clock base = .ok m)
    (told : timestamp clock text base = .ok written) :
    ∃ later : Moment, later.instant = m.instant + 1000000 * o.total ∧ written = Timestamp.write later := by
  obtain ⟨p, n, later, parsed', accepted', moved, rfl⟩ := exists_of_timestamp told
  rw [parsed, Except.ok.injEq] at parsed'
  rw [accepted, Except.ok.injEq] at accepted'
  subst parsed' accepted'
  rw [shifted?_eq] at moved
  exact ⟨later, Moment.eq_of_ofMicros? moved, rfl⟩

/-- Where the count is that of a moment, that is told. -/
theorem timestamp_of_instant {text : String} {o : Offset} {base : Value} {m : Moment}
    (parsed : offset text = .ok o) (accepted : reference clock base = .ok m) (later : Moment)
    (leads : m.instant + 1000000 * o.total = later.instant) :
    timestamp clock text base = .ok (Timestamp.write later) := by
  rw [timestamp_eq parsed accepted, shifted?_eq, leads, Moment.ofMicros?_instant]

/-- The count that a moment is made from can be computed where the time that has passed cannot. -/
theorem timestamp_of_micros {text : String} {o : Offset} {base : Value} {m : Moment}
    (parsed : offset text = .ok o) (accepted : reference clock base = .ok m) (later : Moment)
    (leads : (m.micros : Int) + 1000000 * o.total = later.micros) :
    timestamp clock text base = .ok (Timestamp.write later) := by
  apply timestamp_of_instant parsed accepted later
  rw [Moment.instant_eq_micros, Moment.instant_eq_micros]
  exact leads

/-- **Timestamps and the moments they name determine each other to the millisecond.**  A written
timestamp is read as its moment with the rest cut off; a text of the written form is written
again as it was read; any text that is read at all names the moment that it is read as, and the
timestamp of that moment names the same, to the millisecond; and a time that is told can be counted
from. -/
theorem reference_timestamps (clock : Moment) :
    (∀ m : Moment, reference clock (.ofText (Timestamp.write m)) = .ok m.inMillis) ∧
      (∀ f : Timestamp.Fields, f.Valid →
        ∃ m, reference clock (.ofText f.form) = .ok m ∧ Timestamp.write m = f.form) ∧
      (∀ (s : String) (m : Moment), reference clock (.string s) = .ok m →
        Timestamp.Names s.toList m ∧ reference clock (.ofText (Timestamp.write m)) = .ok m.inMillis ∧
          Timestamp.Names (Timestamp.write m) m.inMillis) ∧
      ∀ (text : String) (base : Value) (written : List Char), timestamp clock text base = .ok written →
        ∃ m, reference clock (.ofText written) = .ok m := by
  refine ⟨reference_write clock, ?_, ?_, ?_⟩
  · intro f valid
    obtain ⟨m, read, written⟩ := valid.exists_write
    exact ⟨m, by simp only [Value.ofText, reference, String.toList_ofList, read], written⟩
  · intro s m accepted
    have read := read?_of_reference accepted
    exact ⟨Timestamp.names_of_read? read, reference_write clock m,
      Timestamp.names_of_read? (Timestamp.read?_write m)⟩
  · intro text base written told
    obtain ⟨o, m, later, -, -, -, rfl⟩ := exists_of_timestamp told
    exact ⟨_, reference_write clock later⟩

/-- The last millisecond of a leap day, by the fields of its timestamp. -/
def leapDayEnd : Timestamp.Fields :=
  ⟨"0004".toList, "02".toList, "29".toList, "23".toList, "59".toList, "59".toList, "099".toList⟩

/-- Short fields and a fraction of four digits name a moment that a timestamp tells to the millisecond,
and a day later it can be counted from again. -/
theorem reference_timestamps_leapDay :
    (∃ m, reference evening (.ofText leapDayEnd.form) = .ok m ∧ Timestamp.write m = leapDayEnd.form) ∧
      (Timestamp.Names "2000-2-29t6:07:8.0456z".toList ⟨2000, 2, 29, 6, 7, 8, 45600, by decide⟩ ∧
        reference evening (.ofText "2000-02-29T06:07:08.045Z".toList) =
          .ok ⟨2000, 2, 29, 6, 7, 8, 45000, by decide⟩) ∧
      ∃ m, reference evening (.ofText "2000-03-01T06:07:08.045Z".toList) = .ok m := by
  have field {width : Nat} {ds : List Char} (long : ds.length = width)
      (digits : ds.all Text.isAsciiDigit = true) : Timestamp.Field width ds :=
    ⟨long, List.all_eq_true.1 digits⟩
  have valid : leapDayEnd.Valid :=
    ⟨field rfl (by decide), field rfl (by decide), field rfl (by decide), field rfl (by decide),
      field rfl (by decide), field rfl (by decide), field rfl (by decide), by decide⟩
  have short : reference evening (.string "2000-2-29t6:07:8.0456z") =
      .ok ⟨2000, 2, 29, 6, 7, 8, 45600, by decide⟩ := rfl
  have millis : Timestamp.write ⟨2000, 2, 29, 6, 7, 8, 45600, by decide⟩ =
      "2000-02-29T06:07:08.045Z".toList := by decide +kernel
  have parsed : offset "1d" = .ok ⟨0, 0, 0, 1, 0, 0, 0⟩ := (offset_iff_read? _ _).2 (by decide +kernel)
  have later := timestamp_of_micros parsed short ⟨2000, 3, 1, 6, 7, 8, 45600, by decide⟩ (by decide)
  have told : Timestamp.write ⟨2000, 3, 1, 6, 7, 8, 45600, by decide⟩ =
      "2000-03-01T06:07:08.045Z".toList := by decide +kernel
  obtain ⟨-, formed, read, counted⟩ := reference_timestamps evening
  obtain ⟨names, written, -⟩ := read _ _ short
  rw [millis] at written
  rw [told] at later
  exact ⟨formed leapDayEnd valid, ⟨names, written⟩, counted _ _ _ later⟩

end RelativeTime

end TemplateBuiltins

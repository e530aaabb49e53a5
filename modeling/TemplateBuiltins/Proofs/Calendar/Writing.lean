/-
# Proofs.Calendar.Writing -- what a written timestamp says

A timestamp has 24 characters: the digits of a date and of a time of day in fields
of a fixed width, with their separators (`Timestamp.text`).  It says how many
milliseconds have passed since the first moment (`Timestamp.Tells`), which is the
count of the moment that it is written for with the rest cut off (`tells_write`).
-/
import TemplateBuiltins.Calendar.Timestamp
import TemplateBuiltins.Proofs.Calendar.Count
import TemplateBuiltins.Proofs.Text.Digits

set_option autoImplicit false

namespace TemplateBuiltins.Timestamp

open Text (lastDigits padded padded_eq_lastDigits)

/-- The timestamp `YYYY-MM-DDTHH:MM:SS.mmmZ` of some fields. -/
def text (year month day hour minute second milli : Nat) : List Char :=
  lastDigits 4 year ++ ['-'] ++ lastDigits 2 month ++ ['-'] ++ lastDigits 2 day ++ ['T'] ++
    lastDigits 2 hour ++ [':'] ++ lastDigits 2 minute ++ [':'] ++ lastDigits 2 second ++ ['.'] ++
    lastDigits 3 milli ++ ['Z']

/-- A text is the timestamp of an existing date and a time of day, before which so many
milliseconds have passed. -/
def Tells (written : List Char) (millis : Nat) : Prop :=
  ∃ year month day hour minute second milli : Nat,
    Moment.Valid year month day hour minute second (milli * 1000) ∧
    written = text year month day hour minute second milli ∧
    Moment.elapsed year month day hour minute second (milli * 1000) = millis * 1000

theorem Tells.length {written : List Char} {millis : Nat} (tells : Tells written millis) :
    written.length = 24 := by
  obtain ⟨year, month, day, hour, minute, second, milli, -, same, -⟩ := tells
  rw [same]
  simp [text, Text.length_lastDigits]

theorem monthLength_le (year month : Nat) : Calendar.monthLength year month ≤ 31 := by
  unfold Calendar.monthLength
  split <;> (try split) <;> decide

/-- Every field of a moment has room. -/
theorem write_eq_text (m : Moment) :
    write m = text m.year m.month m.day m.hour m.minute m.second (m.micro / 1000) := by
  have valid := m.valid
  unfold Moment.Valid at valid
  obtain ⟨-, year, -, month, -, day, hour, minute, second, micro⟩ := valid
  have := monthLength_le m.year m.month
  unfold Moment.lastYear at year
  unfold write text
  rw [padded_eq_lastDigits 3 m.year (by omega), padded_eq_lastDigits 1 m.month (by omega),
    padded_eq_lastDigits 1 m.day (by omega), padded_eq_lastDigits 1 m.hour (by omega),
    padded_eq_lastDigits 1 m.minute (by omega), padded_eq_lastDigits 1 m.second (by omega),
    padded_eq_lastDigits 2 (m.micro / 1000) (by omega)]
  simp

/-- What is finer than a millisecond is cut off. -/
theorem tells_write (m : Moment) : Tells (write m) (m.micros / 1000) := by
  have valid := m.valid
  unfold Moment.Valid at valid
  obtain ⟨year, last, month, december, day, inMonth, hour, minute, second, micro⟩ := valid
  refine ⟨m.year, m.month, m.day, m.hour, m.minute, m.second, m.micro / 1000, ?_, write_eq_text m, ?_⟩
  · exact ⟨year, last, month, december, day, inMonth, hour, minute, second, by omega⟩
  · rw [Moment.micros_eq_elapsed]
    unfold Moment.elapsed
    omega

end TemplateBuiltins.Timestamp

/-
# Proofs.Calendar.Reading -- timestamps are read as they are written

The reader finds each field in front of its separator.  No digit is a separator, so a
field of digits ends where its separator stands (`field?_lastDigits`), and each field that
a date or a time of day can have fits one of the shapes that its place admits.  A written
timestamp is therefore read as its fields (`read?_text`): as the moment it was written for,
with what is finer than a millisecond cut off (`read?_write`).

A text of the written form is given by its fields alone (`Fields`).  It is the timestamp of
the moment that its digits name (`Fields.Valid.exists_write`), so nothing in it is lost when it is
read and written again.  Of the other texts that are read, shorter fields, other letters and more
or fewer digits of a fraction, it is told as a relation which moment they name (`Names`).  A text is
read as a moment if and only if it names it (`read?_eq_some_iff`): no shape admits a separator, so the
fields that a text is made of are the ones that are found.
-/
import Mathlib.Tactic.ByContra
import TemplateBuiltins.Proofs.Calendar.Writing
import TemplateBuiltins.Proofs.Text.Runs

set_option autoImplicit false

namespace TemplateBuiltins

namespace Moment

/-- The moment with what is finer than a millisecond cut off. -/
def inMillis (m : Moment) : Moment where
  year := m.year
  month := m.month
  day := m.day
  hour := m.hour
  minute := m.minute
  second := m.second
  micro := m.micro / 1000 * 1000
  valid := by
    have valid := m.valid
    unfold Valid at valid ⊢
    omega

theorem micros_inMillis (m : Moment) : m.inMillis.micros = m.micros / 1000 * 1000 := by
  rw [micros_eq_elapsed, micros_eq_elapsed]
  unfold elapsed
  simp only [inMillis]
  omega

end Moment

namespace Timestamp

open Text (lastDigits digitChar digitsValue)

/-! ## Fields -/

theorem field?_append {shapes : List Shape} {separates : Char → Bool} {field rest : List Char}
    {separator : Char} (inside : ∀ c ∈ field, separates c = false) (stands : separates separator = true)
    (admitted : shapes.any (·.admits field) = true) :
    field? shapes separates (field ++ separator :: rest) = some (digitsValue field, rest) := by
  have run : ∀ c ∈ field, (!separates c) = true := by
    intro c member
    simp [inside c member]
  have stops : Text.Stops (!separates ·) (separator :: rest) := Text.stops_cons (by simp [stands])
  simp only [field?, Text.takeWhile_append_of_stops run stops,
    Text.dropWhile_append_of_stops run stops, number?, admitted, if_true, Option.map_some]

/-- A field of digits is read up to its separator. -/
theorem field?_lastDigits {shapes : List Shape} {separates : Char → Bool} {width n : Nat}
    {separator : Char} {rest : List Char} (other : ∀ d < 10, separates (digitChar d) = false)
    (stands : separates separator = true) (fits : n < 10 ^ width)
    (admitted : shapes.any (·.admits (lastDigits width n)) = true) :
    field? shapes separates (lastDigits width n ++ separator :: rest) = some (n, rest) := by
  have inside : ∀ c ∈ lastDigits width n, separates c = false := by
    intro c member
    obtain ⟨d, small, rfl⟩ := Text.exists_digitChar (Text.isAsciiDigit_of_mem_lastDigits member)
    exact other d small
  rw [field?_append inside stands admitted, Text.digitsValue_lastDigits fits]

/-! ## Shapes -/

theorem admits_year (n : Nat) : yearShapes.any (·.admits (lastDigits 4 n)) = true := by
  have digit (k : Nat) : Text.isDigit (digitChar (k % 10)) = true :=
    Text.isDigit_of_isAsciiDigit (Text.isAsciiDigit_digitChar (Nat.mod_lt k (by decide)))
  simp [yearShapes, lastDigits, Shape.admits, Spot.admits, digit]

theorem admits_month {n : Nat} (some : 1 ≤ n) (last : n ≤ 12) :
    monthShapes.any (·.admits (lastDigits 2 n)) = true := by
  have all : ∀ n < 13, 1 ≤ n → monthShapes.any (·.admits (lastDigits 2 n)) = true := by decide
  exact all n (by omega) some

theorem admits_day {n : Nat} (some : 1 ≤ n) (last : n ≤ 31) :
    dayShapes.any (·.admits (lastDigits 2 n)) = true := by
  have all : ∀ n < 32, 1 ≤ n → dayShapes.any (·.admits (lastDigits 2 n)) = true := by decide
  exact all n (by omega) some

theorem admits_hour {n : Nat} (small : n < 24) : hourShapes.any (·.admits (lastDigits 2 n)) = true := by
  have all : ∀ n < 24, hourShapes.any (·.admits (lastDigits 2 n)) = true := by decide
  exact all n small

theorem admits_minute {n : Nat} (small : n < 60) :
    minuteShapes.any (·.admits (lastDigits 2 n)) = true := by
  have all : ∀ n < 60, minuteShapes.any (·.admits (lastDigits 2 n)) = true := by decide
  exact all n small

theorem admits_second {n : Nat} (small : n < 60) :
    secondShapes.any (·.admits (lastDigits 2 n)) = true := by
  have all : ∀ n < 60, secondShapes.any (·.admits (lastDigits 2 n)) = true := by decide
  exact all n small

/-! ## Written timestamps -/

theorem fraction?_lastDigits {milli : Nat} (small : milli < 1000) :
    fraction? (lastDigits 3 milli) = some (milli * 1000) := by
  have digits : (lastDigits 3 milli).all Text.isAsciiDigit = true := by
    rw [List.all_eq_true]
    intro c member
    exact Text.isAsciiDigit_of_mem_lastDigits member
  have value : digitsValue (lastDigits 3 milli) = milli := Text.digitsValue_lastDigits small
  simp [fraction?, Text.length_lastDigits, digits, value]

theorem seconds?_text {second milli : Nat} (inMinute : second < 60) (small : milli < 1000) :
    seconds? (lastDigits 2 second ++ '.' :: (lastDigits 3 milli ++ ['Z'])) =
      some (second, milli * 1000) := by
  have point : field? secondShapes (· == '.')
      (lastDigits 2 second ++ '.' :: (lastDigits 3 milli ++ ['Z'])) =
        some (second, lastDigits 3 milli ++ ['Z']) :=
    field?_lastDigits (by decide) rfl (by omega) (admits_second inMinute)
  simp [seconds?, point, isZ, fraction?_lastDigits small]

/-- A written timestamp is read as the moment of its fields. -/
theorem read?_text {year month day hour minute second milli : Nat}
    (valid : Moment.Valid year month day hour minute second (milli * 1000)) :
    read? (text year month day hour minute second milli) =
      some ⟨year, month, day, hour, minute, second, milli * 1000, valid⟩ := by
  have bounds := valid
  unfold Moment.Valid Moment.lastYear at bounds
  obtain ⟨-, year_le, month_pos, month_le, day_pos, day_le, hour_lt, minute_lt, second_lt, milli_lt⟩ :=
    bounds
  have month_length := monthLength_le year month
  have spelled : text year month day hour minute second milli =
      lastDigits 4 year ++ '-' :: (lastDigits 2 month ++ '-' :: (lastDigits 2 day ++ 'T' ::
        (lastDigits 2 hour ++ ':' :: (lastDigits 2 minute ++ ':' :: (lastDigits 2 second ++ '.' ::
          (lastDigits 3 milli ++ ['Z'])))))) := by
    simp [text]
  have yearRead (rest : List Char) :
      field? yearShapes (· == '-') (lastDigits 4 year ++ '-' :: rest) = some (year, rest) :=
    field?_lastDigits (by decide) rfl (by omega) (admits_year year)
  have monthRead (rest : List Char) :
      field? monthShapes (· == '-') (lastDigits 2 month ++ '-' :: rest) = some (month, rest) :=
    field?_lastDigits (by decide) rfl (by omega) (admits_month month_pos month_le)
  have dayRead (rest : List Char) :
      field? dayShapes isT (lastDigits 2 day ++ 'T' :: rest) = some (day, rest) :=
    field?_lastDigits (by decide) rfl (by omega) (admits_day day_pos (by omega))
  have hourRead (rest : List Char) :
      field? hourShapes (· == ':') (lastDigits 2 hour ++ ':' :: rest) = some (hour, rest) :=
    field?_lastDigits (by decide) rfl (by omega) (admits_hour hour_lt)
  have minuteRead (rest : List Char) :
      field? minuteShapes (· == ':') (lastDigits 2 minute ++ ':' :: rest) = some (minute, rest) :=
    field?_lastDigits (by decide) rfl (by omega) (admits_minute minute_lt)
  have secondsRead :
      seconds? (lastDigits 2 second ++ '.' :: (lastDigits 3 milli ++ ['Z'])) =
        some (second, milli * 1000) :=
    seconds?_text second_lt (by omega)
  simp only [read?, spelled, yearRead, monthRead, dayRead, hourRead, minuteRead, secondsRead,
    Option.bind_eq_bind, Option.bind_some]
  exact dif_pos valid

/-- **A timestamp is read back** as the moment it was written for, to the millisecond. -/
theorem read?_write (m : Moment) : read? (write m) = some m.inMillis := by
  rw [write_eq_text]
  exact read?_text m.inMillis.valid

theorem write_inMillis (m : Moment) : write m.inMillis = write m := by
  have micro : m.micro / 1000 * 1000 / 1000 = m.micro / 1000 := Nat.mul_div_cancel _ (by decide)
  rw [write_eq_text, write_eq_text]
  simp only [Moment.inMillis, micro]

/-! ## The written form -/

/-- The digits of a timestamp, field by field. -/
structure Fields where
  year : List Char
  month : List Char
  day : List Char
  hour : List Char
  minute : List Char
  second : List Char
  milli : List Char

/-- A field of as many ASCII digits as its width. -/
def Field (width : Nat) (ds : List Char) : Prop :=
  ds.length = width ∧ ∀ c ∈ ds, Text.isAsciiDigit c = true

namespace Fields

/-- The form `YYYY-MM-DDTHH:MM:SS.mmmZ`. -/
def form (f : Fields) : List Char :=
  f.year ++ ['-'] ++ f.month ++ ['-'] ++ f.day ++ ['T'] ++ f.hour ++ [':'] ++ f.minute ++ [':'] ++
    f.second ++ ['.'] ++ f.milli ++ ['Z']

/-- The digits are as many as the form has, and name an existing date and a time of day. -/
structure Valid (f : Fields) : Prop where
  year : Field 4 f.year
  month : Field 2 f.month
  day : Field 2 f.day
  hour : Field 2 f.hour
  minute : Field 2 f.minute
  second : Field 2 f.second
  milli : Field 3 f.milli
  exist : Moment.Valid (digitsValue f.year) (digitsValue f.month) (digitsValue f.day)
    (digitsValue f.hour) (digitsValue f.minute) (digitsValue f.second) (digitsValue f.milli * 1000)

theorem lastDigits_of_field {width : Nat} {ds : List Char} (field : Field width ds) :
    lastDigits width (digitsValue ds) = ds := by
  rw [← field.1]
  exact Text.lastDigits_digitsValue field.2

theorem Valid.form_eq_text {f : Fields} (valid : f.Valid) :
    f.form = text (digitsValue f.year) (digitsValue f.month) (digitsValue f.day)
      (digitsValue f.hour) (digitsValue f.minute) (digitsValue f.second) (digitsValue f.milli) := by
  rw [text, lastDigits_of_field valid.year, lastDigits_of_field valid.month,
    lastDigits_of_field valid.day, lastDigits_of_field valid.hour, lastDigits_of_field valid.minute,
    lastDigits_of_field valid.second, lastDigits_of_field valid.milli]
  rfl

/-- A text of the form is the timestamp of the moment that it is read as. -/
theorem Valid.exists_write {f : Fields} (valid : f.Valid) :
    ∃ m, read? f.form = some m ∧ write m = f.form := by
  refine ⟨_, by rw [valid.form_eq_text, read?_text valid.exist], ?_⟩
  rw [write_eq_text, valid.form_eq_text]
  simp

end Fields

/-! ## Texts that are read -/

/-- How a timestamp ends: with its letter, or with a fraction of one to six ASCII digits before
that, so many microseconds. -/
inductive Ending : List Char → Nat → Prop
  | whole {z : Char} (letter : z = 'Z' ∨ z = 'z') : Ending [z] 0
  | fraction {ds : List Char} {z : Char} (some : 1 ≤ ds.length) (few : ds.length ≤ 6)
      (digits : ∀ c ∈ ds, Text.isAsciiDigit c = true) (letter : z = 'Z' ∨ z = 'z') :
      Ending ('.' :: (ds ++ [z])) (digitsValue ds * 10 ^ (6 - ds.length))

/-- A field of one of the shapes that its place admits, with its number. -/
structure Shows (shapes : List Shape) (field : List Char) (n : Nat) : Prop where
  admitted : shapes.any (·.admits field) = true
  value : digitsValue field = n

/-- A text names a moment: its fields show those of the moment, and it ends with the fraction. -/
def Names (s : List Char) (m : Moment) : Prop :=
  ∃ (year month day hour minute second ending : List Char) (t : Char),
    s = year ++ '-' :: (month ++ '-' :: (day ++ t :: (hour ++ ':' :: (minute ++ ':' :: (second ++
      ending))))) ∧
    Shows yearShapes year m.year ∧ Shows monthShapes month m.month ∧ Shows dayShapes day m.day ∧
    (t = 'T' ∨ t = 't') ∧ Shows hourShapes hour m.hour ∧ Shows minuteShapes minute m.minute ∧
    Shows secondShapes second m.second ∧ Ending ending m.micro

theorem field?_eq_some {shapes : List Shape} {separates : Char → Bool} {s behind : List Char} {n : Nat}
    (found : field? shapes separates s = some (n, behind)) :
    ∃ field separator, s = field ++ separator :: behind ∧ separates separator = true ∧
      Shows shapes field n := by
  unfold field? at found
  split at found
  · rename_i separator rest dropped
    have whole : s.takeWhile (!separates ·) ++ separator :: rest = s := by
      rw [← dropped, List.takeWhile_append_dropWhile]
    have stops := Text.stops_dropWhile (!separates ·) s
    rw [dropped] at stops
    have stands : separates separator = true := by simpa using stops separator rfl
    simp only [number?] at found
    split at found
    · rename_i admitted
      simp only [Option.map_some, Option.some.injEq, Prod.mk.injEq] at found
      obtain ⟨value, rfl⟩ := found
      exact ⟨_, separator, whole.symm, stands, admitted, value⟩
    · cases found
  · cases found

theorem field?_eq_some_of_eq {shapes : List Shape} {separator : Char} {s behind : List Char} {n : Nat}
    (found : field? shapes (· == separator) s = some (n, behind)) :
    ∃ field, s = field ++ separator :: behind ∧ Shows shapes field n := by
  obtain ⟨field, c, whole, stands, shows⟩ := field?_eq_some found
  rw [beq_iff_eq] at stands
  exact ⟨field, stands ▸ whole, shows⟩

theorem isT_iff (c : Char) : isT c = true ↔ c = 'T' ∨ c = 't' := by simp [isT]

theorem isZ_iff (c : Char) : isZ c = true ↔ c = 'Z' ∨ c = 'z' := by simp [isZ]

theorem fraction?_eq_some {ds : List Char} {micro : Nat} (found : fraction? ds = some micro) :
    1 ≤ ds.length ∧ ds.length ≤ 6 ∧ (∀ c ∈ ds, Text.isAsciiDigit c = true) ∧
      micro = digitsValue ds * 10 ^ (6 - ds.length) := by
  unfold fraction? at found
  split at found
  · rename_i given
    obtain ⟨some, few, digits⟩ := given
    rw [Option.some.injEq] at found
    exact ⟨some, few, List.all_eq_true.1 digits, found.symm⟩
  · cases found

theorem seconds?_eq_some {s : List Char} {second micro : Nat} (found : seconds? s = some (second, micro)) :
    ∃ field ending, s = field ++ ending ∧ Shows secondShapes field second ∧ Ending ending micro := by
  unfold seconds? at found
  split at found
  · rename_i n behind point
    obtain ⟨field, rfl, shows⟩ := field?_eq_some_of_eq point
    split at found
    · rename_i z text reversed
      have whole : behind = text.reverse ++ [z] := by
        rw [← List.reverse_reverse behind, reversed, List.reverse_cons]
      split at found
      · rename_i letter
        simp only [Option.map_eq_some_iff, Prod.mk.injEq] at found
        obtain ⟨k, fraction, rfl, rfl⟩ := found
        obtain ⟨some, few, digits, rfl⟩ := fraction?_eq_some fraction
        exact ⟨field, _, rfl, shows, whole ▸ .fraction some few digits ((isZ_iff z).1 letter)⟩
      · cases found
    · cases found
  · split at found
    · rename_i n letter
      obtain ⟨field, z, rfl, stands, shows⟩ := field?_eq_some letter
      simp only [Option.some.injEq, Prod.mk.injEq] at found
      obtain ⟨rfl, rfl⟩ := found
      exact ⟨field, [z], rfl, shows, .whole ((isZ_iff z).1 stands)⟩
    · cases found

/-- A text that is read names the moment that it is read as. -/
theorem names_of_read? {s : List Char} {m : Moment} (found : read? s = some m) : Names s m := by
  simp only [read?, Option.bind_eq_bind, Option.bind_eq_some_iff, Prod.exists] at found
  obtain ⟨y, s₁, yearRead, mo, s₂, monthRead, d, s₃, dayRead, h, s₄, hourRead, mi, s₅, minuteRead, sec,
    micro, secondsRead, exist⟩ := found
  obtain ⟨year, rfl, showsYear⟩ := field?_eq_some_of_eq yearRead
  obtain ⟨month, rfl, showsMonth⟩ := field?_eq_some_of_eq monthRead
  obtain ⟨day, t, rfl, isT, showsDay⟩ := field?_eq_some dayRead
  obtain ⟨hour, rfl, showsHour⟩ := field?_eq_some_of_eq hourRead
  obtain ⟨minute, rfl, showsMinute⟩ := field?_eq_some_of_eq minuteRead
  obtain ⟨second, ending, rfl, showsSecond, ends⟩ := seconds?_eq_some secondsRead
  unfold Moment.ofFields? at exist
  split at exist
  · rw [Option.some.injEq] at exist
    subst exist
    exact ⟨year, month, day, hour, minute, second, ending, t, rfl, showsYear, showsMonth, showsDay,
      (isT_iff t).1 isT, showsHour, showsMinute, showsSecond, ends⟩
  · cases exist

/-- No separator is a character that a shape admits. -/
theorem not_separates_of_admits {separates : Char → Bool} {shape : Shape} {field : List Char}
    (apart : ∀ c, separates c = true → ∀ spot ∈ shape, spot.admits c = false)
    (admitted : shape.admits field = true) : ∀ c ∈ field, separates c = false := by
  induction shape generalizing field with
  | nil =>
      cases field with
      | nil => simp
      | cons c field => cases admitted
  | cons spot shape ih =>
      cases field with
      | nil => cases admitted
      | cons c field =>
          rw [Shape.admits, Bool.and_eq_true] at admitted
          obtain ⟨fits, rest⟩ := admitted
          rw [List.forall_mem_cons]
          refine ⟨?_, ih (fun c stands spot inside => apart c stands spot (.tail _ inside)) rest⟩
          by_contra stands
          rw [Bool.not_eq_false] at stands
          rw [apart c stands spot List.mem_cons_self] at fits
          cases fits

variable {shapes : List Shape} {separates : Char → Bool} {field : List Char} {n : Nat}

theorem Shows.not_separates (shows : Shows shapes field n)
    (apart : ∀ c, separates c = true → ∀ shape ∈ shapes, ∀ spot ∈ shape, spot.admits c = false) :
    ∀ c ∈ field, separates c = false := by
  obtain ⟨shape, given, admitted⟩ := List.any_eq_true.1 shows.admitted
  exact not_separates_of_admits (fun c stands => apart c stands shape given) admitted

/-- A field that shows a number is found as this number. -/
theorem Shows.field? (shows : Shows shapes field n) {separator : Char} (stands : separates separator = true)
    (apart : ∀ c, separates c = true → ∀ shape ∈ shapes, ∀ spot ∈ shape, spot.admits c = false)
    (rest : List Char) : field? shapes separates (field ++ separator :: rest) = some (n, rest) := by
  rw [field?_append (shows.not_separates apart) stands shows.admitted, shows.value]

/-- What is told of one separator, told of the characters that are equal to it. -/
theorem apart_of_eq {separator : Char}
    (apart : ∀ shape ∈ shapes, ∀ spot ∈ shape, spot.admits separator = false) :
    ∀ c, (c == separator) = true → ∀ shape ∈ shapes, ∀ spot ∈ shape, spot.admits c = false := by
  intro c same
  rw [beq_iff_eq.1 same]
  exact apart

theorem Shows.field?_of_eq (shows : Shows shapes field n) (separator : Char)
    (apart : ∀ shape ∈ shapes, ∀ spot ∈ shape, spot.admits separator = false) (rest : List Char) :
    Timestamp.field? shapes (· == separator) (field ++ separator :: rest) = some (n, rest) := by
  refine shows.field? ?_ (apart_of_eq apart) rest
  exact beq_self_eq_true separator

/-- The letter behind a day is in none of its shapes. -/
theorem day_apart (c : Char) (stands : isT c = true) :
    ∀ shape ∈ dayShapes, ∀ spot ∈ shape, spot.admits c = false := by
  rcases (isT_iff c).1 stands with rfl | rfl <;> decide +kernel

theorem second_apart (c : Char) (stands : isZ c = true) :
    ∀ shape ∈ secondShapes, ∀ spot ∈ shape, spot.admits c = false := by
  rcases (isZ_iff c).1 stands with rfl | rfl <;> decide +kernel

/-- The seconds and the ending of a text are read as what they show. -/
theorem Shows.seconds? {second micro : Nat} {ending : List Char} (shows : Shows secondShapes field second)
    (ends : Ending ending micro) : seconds? (field ++ ending) = some (second, micro) := by
  have points : ∀ shape ∈ secondShapes, ∀ spot ∈ shape, spot.admits '.' = false := by decide +kernel
  cases ends with
  | @whole z letter =>
      have isLetter := (isZ_iff z).2 letter
      have noPoint : ∀ c ∈ field ++ [z], (!(c == '.')) = true := by
        intro c inside
        rcases List.mem_append.1 inside with before | last
        · simpa using shows.not_separates (apart_of_eq points) c before
        · obtain rfl := List.mem_singleton.1 last
          rcases letter with rfl | rfl <;> rfl
      have missing : Timestamp.field? secondShapes (· == '.') (field ++ [z]) = none := by
        rw [Timestamp.field?, List.dropWhile_eq_nil_iff.2 noPoint]
      have found : Timestamp.field? secondShapes isZ (field ++ [z]) = some (second, []) :=
        shows.field? isLetter second_apart []
      rw [Timestamp.seconds?, missing, found]
  | @fraction ds z some few digits letter =>
      have value : fraction? ds = .some (digitsValue ds * 10 ^ (6 - ds.length)) :=
        if_pos ⟨some, few, List.all_eq_true.2 digits⟩
      rw [Timestamp.seconds?, shows.field?_of_eq '.' points]
      simp [(isZ_iff z).2 letter, value]

/-- A text that names a moment is read as this moment. -/
theorem read?_of_names {s : List Char} {m : Moment} (names : Names s m) : read? s = some m := by
  obtain ⟨year, month, day, hour, minute, second, ending, t, rfl, showsYear, showsMonth, showsDay,
    isT, showsHour, showsMinute, showsSecond, ends⟩ := names
  have yearRead := showsYear.field?_of_eq '-' (by decide +kernel)
  have monthRead := showsMonth.field?_of_eq '-' (by decide +kernel)
  have dayRead := showsDay.field? ((isT_iff t).2 isT) day_apart
  have hourRead := showsHour.field?_of_eq ':' (by decide +kernel)
  have minuteRead := showsMinute.field?_of_eq ':' (by decide +kernel)
  simp only [read?, yearRead, monthRead, dayRead, hourRead, minuteRead, showsSecond.seconds? ends,
    Option.bind_eq_bind, Option.bind_some]
  exact dif_pos m.valid

/-- **A text is read as a moment if and only if it names it.** -/
theorem read?_eq_some_iff (s : List Char) (m : Moment) : read? s = some m ↔ Names s m :=
  ⟨names_of_read?, read?_of_names⟩

end Timestamp

end TemplateBuiltins

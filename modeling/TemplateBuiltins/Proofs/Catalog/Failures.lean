/-
# Proofs.Catalog.Failures -- which failures are outside the family of failed calls

A call that fails is reported in the family of failed calls, with exceptions of four sorts
(`Builtin.Escape`).  Arguments that cannot be shown fail every function.  An item of a
joined array can have a key that JSON text has no name for.  And the function that tells
times does not answer for what its context has for the present if that is a moment whose
clocks, set to universal time, leave the calendar (`ZonedMoment.Lost`), nor if it is no
time at all and cannot be shown, since the report on it shows it.  A timestamp has no failure
else that is outside the family (`RelativeTime.timestamp_cases`), and no other function has
any failure behind its check (`Builtin.call_cases`).
-/
import TemplateBuiltins.Proofs.Calendar.Shift
import TemplateBuiltins.Proofs.Catalog.Results

set_option autoImplicit false

namespace TemplateBuiltins

open RelativeTime (InCalendar)

/-! ## Lost moments -/

/-- In universal time the moment is before the first year of the calendar or behind the last. -/
def ZonedMoment.Lost (z : ZonedMoment) : Prop :=
  ¬ InCalendar (z.clock.instant - z.ahead.getD 0 * 1000000)

theorem ZonedMoment.universal?_eq_none_iff (z : ZonedMoment) : z.universal? = none ↔ z.Lost := by
  unfold Lost
  constructor
  · intro none inside
    rw [RelativeTime.inCalendar_iff] at inside
    obtain ⟨m, -, count⟩ := Moment.exists_ofMicros? inside
    rw [← Moment.instant_eq_micros] at count
    rw [RelativeTime.universal?_of_instant count.symm] at none
    cases none
  · intro outside
    cases shown : z.universal? with
    | none => rfl
    | some m =>
        have within := m.micros_lt
        rw [RelativeTime.instant_of_universal? shown, RelativeTime.inCalendar_iff,
          Moment.instant_eq_micros] at outside
        exact absurd ⟨by omega, by omega⟩ outside

namespace RelativeTime

variable (clock : Moment) (text : String) (base : Value)

/-- What names no moment is refused in the family of failed calls, if it can be shown. -/
theorem refusal_cases (v : Value) :
    (v.isShowable = false ∧ refusal v = .tooLong none) ∨ (refusal v).report.family.isInvocation = true := by
  cases showable : v.isShowable with
  | false => exact .inl ⟨rfl, by rw [refusal, Value.shown_of_hidden showable]⟩
  | true => exact .inr (by rw [refusal, Value.shown_of_isShowable showable]; rfl)

theorem reference_cases :
    (∃ m, reference clock base = .ok m) ∨
      (∃ z, base = .moment z ∧ z.Lost ∧ reference clock base = .error .momentOutOfRange) ∨
      (base.isShowable = false ∧ reference clock base = .error (.tooLong none)) ∨
      ∃ f, reference clock base = .error f ∧ f.report.family.isInvocation = true := by
  have refused (failed : reference clock base = .error (refusal base)) :
      (base.isShowable = false ∧ reference clock base = .error (.tooLong none)) ∨
        ∃ f, reference clock base = .error f ∧ f.report.family.isInvocation = true := by
    rcases refusal_cases base with ⟨hidden, long⟩ | family
    · exact .inl ⟨hidden, failed.trans (congrArg Except.error long)⟩
    · exact .inr ⟨_, failed, family⟩
  cases base with
  | null => exact .inl ⟨_, rfl⟩
  | moment z =>
      cases shown : z.universal? with
      | none => exact .inr (.inl ⟨z, rfl, z.universal?_eq_none_iff.1 shown, by rw [reference, shown]⟩)
      | some m => exact .inl ⟨m, by rw [reference, shown]⟩
  | string s =>
      cases read : Timestamp.read? s.toList with
      | none => exact .inr (.inr (refused (by rw [reference, read])))
      | some m => exact .inl ⟨m, by rw [reference, read]⟩
  | _ => exact .inr (.inr (refused rfl))

theorem offset_cases :
    (∃ o, offset text = .ok o) ∨ ∃ f, offset text = .error f ∧ f.report.family.isInvocation = true := by
  cases read : Offset.read? text.toList with
  | none => exact .inr ⟨_, by rw [offset, read], rfl⟩
  | some o => exact .inl ⟨o, by rw [offset, read]⟩

variable {clock text base} {o : Offset}

theorem timestamp_of_refused {f : Failure} (parsed : offset text = .ok o)
    (refused : reference clock base = .error f) : timestamp clock text base = .error f := by
  rw [timestamp, parsed, refused]
  rfl

theorem reference_of_lost {z : ZonedMoment} (lost : z.Lost) :
    reference clock (.moment z) = .error .momentOutOfRange := by
  simp only [reference, z.universal?_eq_none_iff.2 lost]

theorem reference_of_hidden (hidden : base.isShowable = false) :
    reference clock base = .error (.tooLong none) := by
  cases base with
  | null | moment | string => cases hidden
  | _ => exact congrArg Except.error (by rw [refusal, Value.shown_of_hidden hidden])

/-- A timestamp is told, or its reference is lost or cannot be shown, or it is refused with a failure of
the family of failed calls. -/
theorem timestamp_cases (clock : Moment) (text : String) (base : Value) :
    (∃ written, timestamp clock text base = .ok written) ∨
      (∃ o z, offset text = .ok o ∧ base = .moment z ∧ z.Lost ∧
        timestamp clock text base = .error .momentOutOfRange) ∨
      (∃ o, offset text = .ok o ∧ base.isShowable = false ∧
        timestamp clock text base = .error (.tooLong none)) ∨
      ∃ f, timestamp clock text base = .error f ∧ f.report.family.isInvocation = true := by
  rcases offset_cases text with ⟨o, parsed⟩ | ⟨f, refused, family⟩
  · rcases reference_cases clock base with
      ⟨m, accepted⟩ | ⟨z, rfl, lost, refused⟩ | ⟨hidden, refused⟩ | ⟨f, refused, family⟩
    · cases moved : shifted? m o with
      | some later => exact .inl ⟨_, by rw [timestamp_eq parsed accepted, moved]⟩
      | none => exact .inr (.inr (.inr ⟨_, by rw [timestamp_eq parsed accepted, moved], rfl⟩))
    · exact .inr (.inl ⟨o, z, parsed, rfl, lost, timestamp_of_refused parsed refused⟩)
    · exact .inr (.inr (.inl ⟨o, parsed, hidden, timestamp_of_refused parsed refused⟩))
    · exact .inr (.inr (.inr ⟨f, timestamp_of_refused parsed refused, family⟩))
  · refine .inr (.inr (.inr ⟨f, ?_, family⟩))
    rw [timestamp, refused]
    rfl

end RelativeTime

/-! ## Calls -/

namespace Catalog

/-- Times are counted from what the context has for the present where no text is given instead. -/
theorem base_eq_now {context : Value} {rest : List Value} (missing : rest = [] ∨ rest.head? = some (.string "")) :
    base context rest = context.now := by
  rcases missing with rfl | empty
  · rfl
  · obtain ⟨v, rest⟩ := rest
    · rfl
    · cases empty
      rfl

/-- What a time is counted from is a text, or it is what the context has for the present. -/
theorem base_cases (context : Value) {rest : List Value} (texts : ∀ v ∈ rest, ∃ s, v = .string s) :
    (∃ s, base context rest = .string s) ∨ rest = [] ∨ rest.head? = some (.string "") := by
  cases rest with
  | nil => exact .inr (.inl rfl)
  | cons v rest =>
      obtain ⟨s, rfl⟩ := texts v (by simp)
      by_cases empty : s = ""
      · exact .inr (.inr (by rw [empty]; rfl))
      · have given : (Value.string s).isTruthy = true := by simpa [Value.isTruthy] using empty
        exact .inl ⟨s, if_pos given⟩

end Catalog

namespace Builtin

open RelativeTime (offset timestamp)

variable {clock : Moment} {b : Builtin} {context : Value} {args : List Value}

/-- The call asks for the time at an offset from what the context has for the present. -/
def CountsFrom (b : Builtin) (context : Value) (args : List Value) (present : Value) : Prop :=
  b = .fromNow ∧ context.now = present ∧ ∃ text rest, args = .string text :: rest ∧
    (∀ v ∈ rest, ∃ s, v = .string s) ∧ (rest = [] ∨ rest.head? = some (.string "")) ∧
    ∃ o, offset text = .ok o

/-- The call asks for items to be joined. -/
def Joins (b : Builtin) (args items : List Value) : Prop :=
  b = .join ∧ ∃ v w rest, args = v :: w :: rest ∧ v.Lists items ∧ w.IsTextual

/-- What a call is reported with outside the family of failed calls. -/
inductive Escape (b : Builtin) (context : Value) (args : List Value) : Failure.Report → Prop
  | unshown (hidden : ¬ Shown args) : Escape b context args Failure.unwritable
  | unnamed {items : List Value} {typeName : String} (shown : Shown args) (joins : b.Joins args items)
      (refused : refusedKeyOfItems? items = some typeName) :
      Escape b context args ⟨.other "TypeError",
        s!"keys must be str, int, float, bool or None, not {typeName}", []⟩
  | lost {z : ZonedMoment} (counts : b.CountsFrom context args (.moment z)) (lost : z.Lost) :
      Escape b context args ⟨.overflow, "date value out of range", []⟩
  | unshownPresent {present : Value} (counts : b.CountsFrom context args present)
      (hidden : present.isShowable = false) : Escape b context args Failure.unwritable

theorem tellable (clock : Moment) (b : Builtin) : (b.definition clock).Tellable := by
  have one : Text.isWritable 1 = true := by decide +kernel
  cases b with
  | max | min | split | fromNow =>
      rintro least ⟨⟩
      exact one
  | _ => rintro least ⟨⟩

/-- A call that counts from what is no text counts from the present. -/
theorem countsFrom_of_base {text : String} {rest : List Value} {o : Offset} {present : Value}
    (texts : ∀ v ∈ rest, ∃ s, v = .string s) (parsed : offset text = .ok o)
    (counted : Catalog.base context rest = present) (other : ∀ s, present ≠ .string s) :
    fromNow.CountsFrom context (.string text :: rest) present := by
  rcases Catalog.base_cases context texts with ⟨s, given⟩ | missing
  · exact absurd (counted.symm.trans given) (other s)
  · exact ⟨rfl, (Catalog.base_eq_now missing).symm.trans counted, text, rest, rfl, texts, missing, o, parsed⟩

theorem fromNow_cases (accepts : (fromNow.definition clock).Accepts args) (shown : Shown args)
    (context : Value) :
    (∃ v, fromNow.call clock context args = .ok v ∧ v.IsResult) ∨
      (∃ f, fromNow.call clock context args = .error f ∧ fromNow.Escape context args f.report) ∨
      ∃ f, fromNow.call clock context args = .error f ∧ f.report.family.isInvocation = true := by
  obtain ⟨text, rest, rfl, texts, told⟩ := fromNow_of_accepts accepts context
  have same : fromNow.call clock context (.string text :: rest) =
      (timestamp clock text (Catalog.base context rest)).map .ofText :=
    (accepts.call_eq shown context).trans told
  rw [same]
  rcases RelativeTime.timestamp_cases clock text (Catalog.base context rest) with
    ⟨written, told⟩ | ⟨o, z, parsed, counted, lost, told⟩ | ⟨o, parsed, hidden, told⟩ | ⟨f, failed, family⟩
  · exact .inl ⟨_, by rw [told]; rfl, Value.isResult_ofText written⟩
  · have counts := countsFrom_of_base texts parsed counted nofun
    exact .inr (.inl ⟨.momentOutOfRange, by rw [told]; rfl, .lost counts lost⟩)
  · have other : ∀ s, Catalog.base context rest ≠ .string s := by
      intro s given
      rw [given] at hidden
      cases hidden
    refine .inr (.inl ⟨.tooLong none, by rw [told]; rfl, ?_⟩)
    rw [Failure.report_tooLong]
    exact .unshownPresent (countsFrom_of_base texts parsed rfl other) hidden
  · exact .inr (.inr ⟨f, by rw [failed]; rfl, family⟩)

theorem join_cases (accepts : (join.definition clock).Accepts args) (shown : Shown args) (context : Value) :
    (∃ v, join.call clock context args = .ok v ∧ v.IsResult) ∨
      ∃ f, join.call clock context args = .error f ∧ join.Escape context args f.report := by
  obtain ⟨v, items, w, rest, rfl, lists, textual, joined⟩ := join_of_accepts accepts context
  have settled := Catalog.joinTexts_settled w (lists.isShowable ▸ shown v (by simp))
  have same : join.call clock context (v :: w :: rest) = Catalog.joinTexts w items :=
    (accepts.call_eq shown context).trans joined
  rw [same]
  cases result : Catalog.joinTexts w items with
  | ok v =>
      simp only [Catalog.joinTexts, Except.map] at result
      split at result
      · cases result
      · cases result
        exact .inl ⟨_, rfl, Value.isResult_ofText _⟩
  | error f =>
      obtain ⟨typeName, refused, rfl⟩ := settled.error_eq result
      exact .inr ⟨_, rfl, .unnamed shown ⟨rfl, v, w, rest, rfl, lists, textual⟩ refused⟩

/-- **A call is answered with a result, or it escapes, or it fails in the family of failed calls.** -/
theorem call_cases (clock : Moment) (b : Builtin) (context : Value) (args : List Value) :
    (∃ v, b.call clock context args = .ok v ∧ v.IsResult) ∨
      (∃ f, b.call clock context args = .error f ∧ b.Escape context args f.report) ∨
      ∃ f, b.call clock context args = .error f ∧ f.report.family.isInvocation = true := by
  by_cases shown : Shown args
  · rcases Definition.call_cases shown (tellable clock b) context with ⟨accepts, ran⟩ | refused
    · by_cases timeless : b = .fromNow
      · subst timeless
        exact fromNow_cases accepts shown context
      by_cases apart : b = .join
      · subst apart
        rcases join_cases accepts shown context with answered | escaped
        · exact .inl answered
        · exact .inr (.inl escaped)
      · obtain ⟨v, answered, result⟩ := run_of_accepts timeless apart accepts context
        exact .inl ⟨v, ran.trans answered, result⟩
    · exact .inr (.inr refused)
  · refine .inr (.inl ⟨.tooLong none, Definition.call_of_hidden shown _ context, ?_⟩)
    rw [Failure.report_tooLong]
    exact .unshown shown

/-- A call that counts from the present fails as its reference does. -/
theorem call_of_countsFrom {present : Value} {f : Failure} (counts : b.CountsFrom context args present)
    (refused : RelativeTime.reference clock present = .error f) : b.call clock context args = .error f := by
  obtain ⟨rfl, now, text, rest, rfl, texts, missing, o, parsed⟩ := counts
  have strings : ∀ v ∈ Value.string text :: rest, ∃ s, v = .string s := List.forall_mem_cons.2 ⟨⟨text, rfl⟩, texts⟩
  have shown : Shown (.string text :: rest) := by
    intro v inside
    obtain ⟨s, rfl⟩ := strings v inside
    rfl
  have accepts : (fromNow.definition clock).Accepts (.string text :: rest) :=
    accepts_several rfl (by simp) fun v inside => (Signature.matchesValue_string_iff v).2 (strings v inside)
  rw [call, accepts.call_eq shown]
  show (timestamp clock text (Catalog.base context rest)).map _ = _
  rw [Catalog.base_eq_now missing, now, RelativeTime.timestamp_of_refused parsed refused]
  rfl

/-- Every escape is that of a failed call. -/
theorem Escape.exists_failure {r : Failure.Report} (escape : b.Escape context args r) (clock : Moment) :
    ∃ f, b.call clock context args = .error f ∧ f.report = r ∧ r.family.isInvocation = false := by
  cases escape with
  | unshown hidden => exact ⟨_, Definition.call_of_hidden hidden _ context, Failure.report_tooLong, rfl⟩
  | unnamed shown joins refused =>
      obtain ⟨rfl, v, w, rest, rfl, lists, textual⟩ := joins
      have settled := Catalog.joinTexts_settled w (lists.isShowable ▸ shown v (by simp))
      exact ⟨.keyRefused _, (call_join lists textual shown context).trans (settled.eq_error refused), rfl, rfl⟩
  | lost counts lost => exact ⟨_, call_of_countsFrom counts (RelativeTime.reference_of_lost lost), rfl, rfl⟩
  | unshownPresent counts hidden =>
      exact ⟨_, call_of_countsFrom counts (RelativeTime.reference_of_hidden hidden), Failure.report_tooLong, rfl⟩

/-- **The failures outside the family of failed calls are the escapes.**  Every other call of every
function has a result or a failure of the family. -/
theorem fails_outside_family_iff (clock : Moment) (b : Builtin) (context : Value) (args : List Value)
    (r : Failure.Report) :
    ((b.call clock context args).mapError Failure.report = .error r ∧ r.family.isInvocation = false) ↔
      b.Escape context args r := by
  constructor
  · rintro ⟨failed, outside⟩
    rcases b.call_cases clock context args with ⟨v, answered, -⟩ | ⟨f, escaped, escape⟩ | ⟨f, refused, family⟩
    · rw [answered] at failed
      cases failed
    · rw [escaped] at failed
      cases failed
      exact escape
    · rw [refused] at failed
      cases failed
      rw [family] at outside
      cases outside
  · intro escape
    obtain ⟨f, failed, rfl, outside⟩ := escape.exists_failure clock
    exact ⟨by rw [failed]; rfl, outside⟩

/-- The first moment of the calendar, on clocks an hour ahead of universal time. -/
def firstHour : ZonedMoment := ⟨⟨1, 1, 1, 0, 0, 0, 0, by decide⟩, some 3600⟩

theorem lost_firstHour : firstHour.Lost := by
  rw [ZonedMoment.Lost, Moment.instant_eq_micros, RelativeTime.inCalendar_iff]
  decide

/-- A context whose present is lost. -/
def lostPresent : Value := .ofFields (.ofEntries [(.text "now", .moment firstHour)])

/-- Not every failure is of the family of failed calls: a day from a lost present is not told. -/
theorem fails_outside_family_firstHour :
    ∃ r : Failure.Report, r.family.isInvocation = false ∧
      (fromNow.call .midnight lostPresent [.string "1d"]).mapError Failure.report = .error r := by
  have counts : fromNow.CountsFrom lostPresent [.string "1d"] (.moment firstHour) :=
    ⟨rfl, rfl, "1d", [], rfl, by simp, .inl rfl, _, RelativeTime.offset_oneDay⟩
  have refused : RelativeTime.reference .midnight (.moment firstHour) = .error .momentOutOfRange :=
    RelativeTime.reference_of_lost lost_firstHour
  exact ⟨_, rfl, congrArg (Except.mapError Failure.report) (call_of_countsFrom counts refused)⟩

end Builtin

end TemplateBuiltins

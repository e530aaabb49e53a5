/-
# RelativeTime -- moments an offset away

A reference names a moment: a timestamp does, a moment is turned into universal
time, and null stands for what the clock shows, in universal time.  The moment an offset
away from it is found by counting microseconds, so the result depends on the reference
only through the moment it names, and on the offset only through its length in seconds.
-/
import TemplateBuiltins.Calendar.Timestamp
import TemplateBuiltins.Failure
import TemplateBuiltins.Offset.Reader

set_option autoImplicit false

namespace TemplateBuiltins

namespace Moment

/-- The moment a duration away, if the calendar has it. -/
def after? (m : Moment) (d : Duration) : Option Moment :=
  ofMicros? (m.micros + d.total * microsPerSecond)

end Moment

namespace RelativeTime

/-- The offset that a text denotes. -/
def offset (text : String) : Except Failure Offset :=
  match Offset.read? text.toList with
  | some o => .ok o
  | none => .error (.notAnOffset text)

/-- What a value that names no moment is refused with: the message shows the value. -/
def refusal (v : Value) : Failure :=
  match v.shown with
  | .ok literal => .notATimestamp literal
  | .error f => f

/-- The moment that a value names, at a clock that shows `clock`. -/
def reference (clock : Moment) : Value → Except Failure Moment
  | .null => .ok clock
  | .moment z =>
    match z.universal? with
    | some m => .ok m
    | none => .error .momentOutOfRange
  | .string s =>
    match Timestamp.read? s.toList with
    | some m => .ok m
    | none => .error (refusal (.string s))
  | v => .error (refusal v)

/-- The moment an offset away from another, if there is such a duration and such a moment. -/
def shifted? (m : Moment) (o : Offset) : Option Moment :=
  match o.duration with
  | .ok d => m.after? d
  | .error _ => none

/-- The duration of an offset. -/
def duration (o : Offset) : Except Failure Duration :=
  match o.duration with
  | .ok d => .ok d
  | .error days => .error (.durationOutOfRange days)

/-- The timestamp an offset away from what a value names. -/
def timestamp (clock : Moment) (offsetText : String) (base : Value) : Except Failure (List Char) := do
  let o ← offset offsetText
  let m ← reference clock base
  match shifted? m o with
  | some m => .ok (Timestamp.write m)
  | none => .error (.offsetOutOfRange offsetText)

end RelativeTime

end TemplateBuiltins

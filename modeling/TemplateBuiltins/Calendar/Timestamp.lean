/-
# Calendar.Timestamp -- timestamps as text

A timestamp is written `YYYY-MM-DDTHH:MM:SS.mmmZ`; what is finer than a
millisecond is cut off.  It is read more freely: fields but the year may have one
digit, a day may have a space before its digit, the fraction has one to six
digits or is missing with its point, the letters may be small, and the second
digit of a field may come from any script where it may be any digit at all.  The
fields of a timestamp are found by their separators, which no field contains.
-/
import TemplateBuiltins.Calendar.Moment
import TemplateBuiltins.Text.Digit

set_option autoImplicit false

namespace TemplateBuiltins.Timestamp

/-- What may stand at one place of a field. -/
inductive Spot where
  /-- An ASCII character between two others, these included. -/
  | between (low high : Char)
  /-- A digit of any script. -/
  | digit

def Spot.admits : Spot → Char → Bool
  | .between low high, c => low ≤ c && c ≤ high
  | .digit, c => Text.isDigit c

/-- A field that is written one character per spot. -/
abbrev Shape := List Spot

def Shape.admits : Shape → List Char → Bool
  | [], [] => true
  | spot :: shape, c :: cs => spot.admits c && Shape.admits shape cs
  | _, _ => false

/-- The spot that only one character fits. -/
def Spot.only (c : Char) : Spot := .between c c

def yearShapes : List Shape := [[.digit, .digit, .digit, .digit]]

def monthShapes : List Shape :=
  [[.only '1', .between '0' '2'], [.only '0', .between '1' '9'], [.between '1' '9']]

def dayShapes : List Shape :=
  [[.only '3', .between '0' '1'], [.between '1' '2', .digit], [.only '0', .between '1' '9'],
    [.between '1' '9'], [.only ' ', .between '1' '9']]

def hourShapes : List Shape := [[.only '2', .between '0' '3'], [.between '0' '1', .digit], [.digit]]

def minuteShapes : List Shape := [[.between '0' '5', .digit], [.digit]]

def secondShapes : List Shape := [[.only '6', .between '0' '1'], [.between '0' '5', .digit], [.digit]]

/-- The number in a field of one of the shapes. -/
def number? (shapes : List Shape) (text : List Char) : Option Nat :=
  if shapes.any (·.admits text) then some (Text.digitsValue text) else none

/-- The number in the field before a separator, and the text behind the separator. -/
def field? (shapes : List Shape) (separates : Char → Bool) (s : List Char) : Option (Nat × List Char) :=
  match s.dropWhile (!separates ·) with
  | _ :: behind => (number? shapes (s.takeWhile (!separates ·))).map fun n => (n, behind)
  | [] => none

def isT (c : Char) : Bool := c == 'T' || c == 't'

def isZ (c : Char) : Bool := c == 'Z' || c == 'z'

/-- The microseconds of a fraction of one to six ASCII digits. -/
def fraction? (text : List Char) : Option Nat :=
  if 1 ≤ text.length ∧ text.length ≤ 6 ∧ text.all Text.isAsciiDigit then
    some (Text.digitsValue text * Nat.pow 10 (6 - text.length))
  else none

/-- The seconds and microseconds at the end of a timestamp. -/
def seconds? (s : List Char) : Option (Nat × Nat) :=
  match field? secondShapes (· == '.') s with
  | some (second, behind) =>
    match behind.reverse with
    | z :: text => if isZ z then (fraction? text.reverse).map fun micro => (second, micro) else none
    | [] => none
  | none =>
    match field? secondShapes isZ s with
    | some (second, []) => some (second, 0)
    | _ => none

/-- The moment that a text is a timestamp of. -/
def read? (s : List Char) : Option Moment := do
  let (year, s) ← field? yearShapes (· == '-') s
  let (month, s) ← field? monthShapes (· == '-') s
  let (day, s) ← field? dayShapes isT s
  let (hour, s) ← field? hourShapes (· == ':') s
  let (minute, s) ← field? minuteShapes (· == ':') s
  let (second, micro) ← seconds? s
  Moment.ofFields? year month day hour minute second micro

def write (m : Moment) : List Char :=
  Text.padded 4 m.year ++ '-' :: Text.padded 2 m.month ++ '-' :: Text.padded 2 m.day ++
    'T' :: Text.padded 2 m.hour ++ ':' :: Text.padded 2 m.minute ++ ':' :: Text.padded 2 m.second ++
    '.' :: Text.padded 3 (m.micro / 1000) ++ ['Z']

end TemplateBuiltins.Timestamp

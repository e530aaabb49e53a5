/-
# Value.Literal -- values as messages show them

A literal shows a value so that its structure can be seen: texts are quoted,
arrays stand in brackets and tuples in parentheses (with a comma behind a single
item), mappings show their entries in braces, and a chain lists its mappings.  The
plain text of a value (`plain`) is its literal, except that a text is itself, a
signature is its text, a moment is written as a date and a time of day, and a
read-only mapping shows nothing but its entries.

Not every literal can be written: an integer in it can be too long, and a foreign value
or a key in it can be one that is not shown at all (`Value.isShowable`).  What is written
here is meant for values that can be shown.
-/
import TemplateBuiltins.Number.Layout
import TemplateBuiltins.Text.Pieces
import TemplateBuiltins.Text.Quoted
import TemplateBuiltins.Value.Basic

set_option autoImplicit false

namespace TemplateBuiltins

/-- Texts between parentheses or the like, with commas between them. -/
def listed (opening : String) (texts : List (List Char)) (closing : String) : List Char :=
  opening.toList ++ Text.glue [',', ' '] texts ++ closing.toList

/-- How a number stands in a message. -/
def Number.literal : Number → List Char
  | .int n => Text.signedDigits n
  | .double x => Layout.message.double x

def Function.literal : Function → List Char
  | .builtin b => "<function ".toList ++ b.name.toList ++ ['>']
  | .native => "<built-in function len>".toList

/-- How a foreign value stands in a message; it is left blank if it cannot be shown. -/
def Foreign.text (f : Foreign) : List Char := (f.literal.getD "").toList

/-- How a key stands in a message; it is left blank if it cannot be shown. -/
def Key.literal : Key → List Char
  | .text s => Text.quoted s.toList
  | .other k => (k.literal.getD "").toList

namespace Signature

/-- The kinds of a signature, each once. -/
def distinct (s : Signature) : List Kind := Kind.all.filter s.admits

def kindLiteral (k : Kind) : List Char :=
  "<ValueKind.".toList ++ k.name.toList.map Char.toUpper ++ [':', ' '] ++ Text.quoted k.name.toList ++ ['>']

/-- The kinds of a signature as a set. -/
def kindsLiteral (s : Signature) : List Char := listed "frozenset(\x7b" (s.distinct.map kindLiteral) "\x7d)"

def literal (s : Signature) : List Char :=
  listed "TypeSignature(" ["text=".toList ++ Text.quoted s.text, "kinds=".toList ++ s.kindsLiteral] ")"

end Signature

namespace ZonedMoment

/-- A distance from universal time, with seconds only if there are any. -/
def zoneText (seconds : Int) : List Char :=
  let n := seconds.natAbs
  (if seconds < 0 then '-' else '+') :: Text.padded 2 (n / 3600) ++ ':' :: Text.padded 2 (n / 60 % 60) ++
    (if n % 60 = 0 then [] else ':' :: Text.padded 2 (n % 60))

/-- A moment as a date and a time of day, with microseconds only if there are any. -/
def plain (z : ZonedMoment) : List Char :=
  let m := z.clock
  Text.padded 4 m.year ++ '-' :: Text.padded 2 m.month ++ '-' :: Text.padded 2 m.day ++
    ' ' :: Text.padded 2 m.hour ++ ':' :: Text.padded 2 m.minute ++ ':' :: Text.padded 2 m.second ++
    (if m.micro = 0 then [] else '.' :: Text.padded 6 m.micro) ++
    (z.ahead.map zoneText).getD []

/-- A distance from universal time as days and seconds, without those that are zero. -/
def zoneLiteral (seconds : Int) : List Char :=
  if seconds = 0 then "tzinfo=datetime.timezone.utc".toList
  else
    let days := seconds.fdiv 86400
    let rest := seconds.fmod 86400
    let parts :=
      (if days = 0 then [] else ["days=".toList ++ Text.signedDigits days]) ++
        (if rest = 0 then [] else ["seconds=".toList ++ Text.signedDigits rest])
    listed "tzinfo=datetime.timezone(datetime.timedelta(" parts "))"

def literal (z : ZonedMoment) : List Char :=
  let m := z.clock
  let fine := if m.micro ≠ 0 then [m.second, m.micro] else if m.second ≠ 0 then [m.second] else []
  listed "datetime.datetime("
    (([m.year, m.month, m.day, m.hour, m.minute] ++ fine).map Text.digits ++
      (z.ahead.map zoneLiteral).toList) ")"

end ZonedMoment

mutual

def Value.literal : Value → List Char
  | .null => "None".toList
  | .boolean b => if b then "True".toList else "False".toList
  | .string s => Text.quoted s.toList
  | .number n => n.literal
  | .array items => listed "[" (literals items) "]"
  | .tuple items =>
    match literals items with
    | [one] => listed "(" [one] ",)"
    | several => listed "(" several ")"
  | .object m => m.literal
  | .function f => f.literal
  | .signature s => s.literal
  | .moment z => z.literal
  | .record ⟨attributes⟩ => listed "namespace(" (attributeLiterals attributes) ")"
  | .foreign f _ => f.text

def Mapping.literal : Mapping → List Char
  | .entries .readOnly ⟨fields⟩ => listed "mappingproxy(\x7b" (fieldLiterals fields) "\x7d)"
  | .entries _ ⟨fields⟩ => listed "\x7b" (fieldLiterals fields) "\x7d"
  | .chain own parents => listed "ChainMap(" (own.literal :: mappingLiterals parents) ")"

def literals : List Value → List (List Char)
  | [] => []
  | v :: rest => v.literal :: literals rest

def fieldLiterals {keys : List Key} : Entries Key Value keys → List (List Char)
  | .nil => []
  | .cons key _ v rest => (key.literal ++ [':', ' '] ++ v.literal) :: fieldLiterals rest

/-- Attributes as a plain object shows them; one whose name is empty it does not show. -/
def attributeLiterals {names : List String} : Entries String Value names → List (List Char)
  | .nil => []
  | .cons name _ v rest =>
    if name.isEmpty then attributeLiterals rest
    else (name.toList ++ '=' :: v.literal) :: attributeLiterals rest

def mappingLiterals : List Mapping → List (List Char)
  | [] => []
  | m :: rest => m.literal :: mappingLiterals rest

end

/-- A value as plain text. -/
def Value.plain : Value → List Char
  | .string s => s.toList
  | .signature s => s.text
  | .moment z => z.plain
  | .foreign f _ => f.plain.toList
  | .object (.entries .readOnly ⟨fields⟩) => listed "\x7b" (fieldLiterals fields) "\x7d"
  | v => v.literal

/-! ## What can be shown -/

def Number.isShowable : Number → Bool
  | .int n => Text.isWritable n
  | .double _ => true

def Key.isShowable : Key → Bool
  | .text _ => true
  | .other k => k.literal.isSome

mutual

/-- Whether the literal of a value can be written: all integers in it are short enough, and whatever
else stands in it can be shown. -/
def Value.isShowable : Value → Bool
  | .number n => n.isShowable
  | .array items => allShowable items
  | .tuple items => allShowable items
  | .object m => m.isShowable
  | .record ⟨attributes⟩ => attributesShowable attributes
  | .foreign f _ => f.literal.isSome
  | .null | .boolean _ | .string _ | .function _ | .signature _ | .moment _ => true

def Mapping.isShowable : Mapping → Bool
  | .entries _ ⟨fields⟩ => fieldsShowable fields
  | .chain own parents => own.isShowable && mappingsShowable parents

def allShowable : List Value → Bool
  | [] => true
  | v :: rest => v.isShowable && allShowable rest

def fieldsShowable {keys : List Key} : Entries Key Value keys → Bool
  | .nil => true
  | .cons key _ v rest => key.isShowable && v.isShowable && fieldsShowable rest

def attributesShowable {names : List String} : Entries String Value names → Bool
  | .nil => true
  | .cons name _ v rest => (name.isEmpty || v.isShowable) && attributesShowable rest

def mappingsShowable : List Mapping → Bool
  | [] => true
  | m :: rest => m.isShowable && mappingsShowable rest

end

end TemplateBuiltins

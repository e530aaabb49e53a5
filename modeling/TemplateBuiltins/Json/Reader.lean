/-
# Json.Reader -- reading JSON text

The reader accepts JSON and the words `NaN`, `Infinity` and `-Infinity`.  An
integer is read exactly, a number with a fraction or an exponent as the double
nearest to it; an integer with too many digits is refused where it is met, also if
the text behind it is not JSON.  A text that is not JSON has a fault, which says what
is wrong and at which character; a fault is found by what is left of the text there.
-/
import TemplateBuiltins.Json.Basic
import TemplateBuiltins.Number.Numeral

set_option autoImplicit false

namespace TemplateBuiltins.Json

/-- What can be wrong with a text that should be JSON. -/
inductive Fault where
  | byteOrderMark
  | noValue
  | noName
  | noColon
  | noComma
  | extra
  | unterminated
  | control
  | escape
  | unitEscape
  deriving DecidableEq

def Fault.message : Fault → String
  | .byteOrderMark => "Unexpected UTF-8 BOM (decode using utf-8-sig)"
  | .noValue => "Expecting value"
  | .noName => "Expecting property name enclosed in double quotes"
  | .noColon => "Expecting ':' delimiter"
  | .noComma => "Expecting ',' delimiter"
  | .extra => "Extra data"
  | .unterminated => "Unterminated string starting at"
  | .control => "Invalid control character at"
  | .escape => "Invalid \\escape"
  | .unitEscape => "Invalid \\uXXXX escape"

/-- A fault, and what is left of the text where it lies. -/
structure FaultAt where
  fault : Fault
  left : List Char
  deriving DecidableEq

/-- Why a text is not read. -/
inductive Refusal where
  | fault (f : FaultAt)
  /-- An integer with so many digits, which are too many. -/
  | tooLong (digits : Nat)
  deriving DecidableEq

def failAt {α : Type} (fault : Fault) (left : List Char) : Except Refusal α := .error (.fault ⟨fault, left⟩)

def isSpace (c : Char) : Bool := c == ' ' || c == '\t' || c == '\n' || c == '\r'

def skip (s : List Char) : List Char := s.dropWhile isSpace

/-! ## Texts -/

def hexValue? (c : Char) : Option Nat := Number.baseDigit? 16 c

/-- The 16-bit unit of four hexadecimal digits. -/
def unit? (a b c d : Char) : Option Nat := do
  let a ← hexValue? a
  let b ← hexValue? b
  let c ← hexValue? c
  let d ← hexValue? d
  some (((a * 16 + b) * 16 + c) * 16 + d)

/-- The character that a letter behind a backslash stands for. -/
def escaped? (c : Char) : Option Char :=
  if c = '"' ∨ c = '\\' ∨ c = '/' then some c
  else if c = 'b' then some '\x08'
  else if c = 'f' then some '\x0c'
  else if c = 'n' then some '\n'
  else if c = 'r' then some '\r'
  else if c = 't' then some '\t'
  else none

/-- The code points and units of a text up to its closing quote; `opening` begins with its quote. -/
def readUnits (opening : List Char) : List Char → Except Refusal (List Nat × List Char)
  | [] => failAt .unterminated opening
  | c :: rest =>
    if c = '"' then .ok ([], rest)
    else if c = '\\' then
      match rest with
      | [] => failAt .unterminated opening
      | e :: behind =>
        if e = 'u' then
          match behind with
          | h₁ :: h₂ :: h₃ :: h₄ :: more =>
            match unit? h₁ h₂ h₃ h₄ with
            | some unit =>
              if more.isEmpty then failAt .unitEscape (e :: behind)
              else (readUnits opening more).map fun r => (unit :: r.1, r.2)
            | none => failAt .unitEscape (e :: behind)
          | _ => failAt .unitEscape (e :: behind)
        else
          match escaped? e with
          | some x => (readUnits opening behind).map fun r => (x.toNat :: r.1, r.2)
          | none => failAt .escape (c :: rest)
    else if c < ' ' then failAt .control (c :: rest)
    else (readUnits opening rest).map fun r => (c.toNat :: r.1, r.2)

def isHighSurrogate (n : Nat) : Bool := 0xD800 ≤ n && n < 0xDC00

def isLowSurrogate (n : Nat) : Bool := 0xDC00 ≤ n && n < 0xE000

/-- The character of a code point; a half of a pair that stands alone is replaced. -/
def charOf (n : Nat) : Char :=
  if isHighSurrogate n || isLowSurrogate n then '\ufffd' else Char.ofNat n

/-- The characters of code points and units, two halves of a pair together. -/
def joinUnits : List Nat → List Char
  | [] => []
  | [n] => [charOf n]
  | h :: l :: rest =>
    if isHighSurrogate h && isLowSurrogate l then
      Char.ofNat (0x10000 + (h - 0xD800) * 0x400 + (l - 0xDC00)) :: joinUnits rest
    else charOf h :: joinUnits (l :: rest)

/-- The text behind an opening quote. -/
def readString (opening rest : List Char) : Except Refusal (String × List Char) :=
  (readUnits opening rest).map fun r => (String.ofList (joinUnits r.1), r.2)

/-! ## Numbers -/

/-- The digits of a whole number, without superfluous zeros. -/
def takeWhole (s : List Char) : Option (List Char × List Char) :=
  match s with
  | c :: rest =>
    if c = '0' then some ([c], rest)
    else if Text.isAsciiDigit c then some (s.takeWhile Text.isAsciiDigit, s.dropWhile Text.isAsciiDigit)
    else none
  | [] => none

/-- The digits of a fraction, if there is one. -/
def takeFraction (s : List Char) : Option (List Char) × List Char :=
  match s with
  | c :: rest =>
    let ds := rest.takeWhile Text.isAsciiDigit
    if c = '.' ∧ !ds.isEmpty then (some ds, rest.dropWhile Text.isAsciiDigit) else (none, s)
  | [] => (none, s)

/-- The exponent, if there is one. -/
def takeExponent (s : List Char) : Option Int × List Char :=
  match s with
  | c :: rest =>
    let (negative, rest) := Numeral.takeSign rest
    let ds := rest.takeWhile Text.isAsciiDigit
    if (c = 'e' ∨ c = 'E') ∧ !ds.isEmpty then
      (some (Text.withSign negative (Text.digitsValue ds)), rest.dropWhile Text.isAsciiDigit)
    else (none, s)
  | [] => (none, s)

/-- A number without words; an integer is exact whatever its size. -/
def readNumber? (s : List Char) : Option (Number × List Char) := do
  let (negative, s) := match s with
    | '-' :: rest => (true, rest)
    | s => (false, s)
  let (whole, s) ← takeWhole s
  let (fraction, s) := takeFraction s
  let (exponent, s) := takeExponent s
  let number := if fraction.isNone ∧ exponent.isNone then
      Number.int (Text.withSign negative (Text.digitsValue whole))
    else .double (Numeral.decimal ⟨negative, whole, fraction, exponent⟩).toDouble
  some (number, s)

/-! ## Values -/

/-- The words and what they denote. -/
def words : List (String × Json) := [
  ("null", .null), ("true", .boolean true), ("false", .boolean false),
  ("NaN", .number (.double .nan)), ("Infinity", .number (.double (.infinite false))),
  ("-Infinity", .number (.double (.infinite true)))]

/-- A number, unless it is an integer with too many digits; JSON text has no superfluous ones. -/
def admitted : Number → Except Refusal Json
  | .int n =>
    if Text.isWritable n then .ok (.number (.int n)) else .error (.tooLong (Text.digits n.natAbs).length)
  | n => .ok (.number n)

/-- A word or a number. -/
def readAtom (s : List Char) : Except Refusal (Json × List Char) :=
  let word := words.findSome? fun w => (w.1.toList.isPrefixOf? s).map fun rest => (w.2, rest)
  match word with
  | some r => .ok r
  | none =>
    match readNumber? s with
    | some (n, rest) => (admitted n).map fun j => (j, rest)
    | none => failAt .noValue s

mutual

/-- A value; the first argument bounds the depth and the number of steps. -/
def readValue : Nat → List Char → Except Refusal (Json × List Char)
  | 0, s => failAt .noValue s
  | _ + 1, [] => failAt .noValue []
  | steps + 1, c :: rest =>
    if c = '"' then (readString (c :: rest) rest).map fun r => (.string r.1, r.2)
    else if c = '[' then
      match skip rest with
      | ']' :: behind => .ok (.array [], behind)
      | s => (readItems steps s).map fun r => (.array r.1, r.2)
    else if c = '\x7b' then
      match skip rest with
      | '\x7d' :: behind => .ok (.object [], behind)
      | s => (readMembers steps s).map fun r => (.object r.1, r.2)
    else readAtom (c :: rest)

/-- At least one item, and the bracket behind the last. -/
def readItems : Nat → List Char → Except Refusal (List Json × List Char)
  | 0, s => failAt .noValue s
  | steps + 1, s => do
    let (v, s) ← readValue steps s
    match skip s with
    | ']' :: behind => .ok ([v], behind)
    | ',' :: behind => (readItems steps (skip behind)).map fun r => (v :: r.1, r.2)
    | s => failAt .noComma s

/-- At least one member, and the brace behind the last. -/
def readMembers : Nat → List Char → Except Refusal (List (String × Json) × List Char)
  | 0, s => failAt .noName s
  | _ + 1, [] => failAt .noName []
  | steps + 1, c :: rest =>
    if c = '"' then do
      let (name, s) ← readString (c :: rest) rest
      match skip s with
      | ':' :: behind =>
        let (v, s) ← readValue steps (skip behind)
        match skip s with
        | '\x7d' :: behind => .ok ([(name, v)], behind)
        | ',' :: behind => (readMembers steps (skip behind)).map fun r => ((name, v) :: r.1, r.2)
        | s => failAt .noComma s
      | s => failAt .noColon s
    else failAt .noName (c :: rest)

end

/-- Enough steps for any text of a length. -/
def stepsFor (s : List Char) : Nat := 2 * s.length + 2

/-- The JSON value that a whole text denotes. -/
def read (s : List Char) : Except Refusal Json :=
  if s.head? = some '\ufeff' then failAt .byteOrderMark s
  else do
    let (v, rest) ← readValue (stepsFor s) (skip s)
    match skip rest with
    | [] => .ok v
    | rest => failAt .extra rest

/-! ## Places of faults -/

/-- A fault in words, with its line, its column and its place in the text. -/
def FaultAt.message (f : FaultAt) (text : List Char) : List Char :=
  let place := text.length - f.left.length
  let before := text.take place
  let line := before.count '\n' + 1
  let column := (before.reverse.takeWhile (· ≠ '\n')).length + 1
  f.fault.message.toList ++ ": line ".toList ++ Text.digits line ++ " column ".toList ++
    Text.digits column ++ " (char ".toList ++ Text.digits place ++ [')']

end TemplateBuiltins.Json

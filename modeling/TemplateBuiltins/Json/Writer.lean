/-
# Json.Writer -- JSON values as text

Texts are written in printable ASCII: what is outside it, and the quote and the
backslash, are written as escapes, a character beyond U+FFFF as the two halves of
its UTF-16 form.  A style says what stands behind a comma and behind a colon.
The indented form gives every item a line of its own.
-/
import TemplateBuiltins.Json.Basic
import TemplateBuiltins.Number.Layout
import TemplateBuiltins.Text.Pieces
import TemplateBuiltins.Text.Quoted

set_option autoImplicit false

namespace TemplateBuiltins.Json

/-- What separates items, and names from their values. -/
structure Style where
  comma : List Char
  colon : List Char

/-- No blanks at all. -/
def Style.compact : Style := ⟨[','], [':']⟩

/-- A space behind every comma and colon. -/
def Style.spaced : Style := ⟨[',', ' '], [':', ' ']⟩

/-- The escape of a 16-bit unit. -/
def unitEscape (unit : Nat) : List Char := '\\' :: 'u' :: Text.hexDigits 4 unit

def highSurrogate (n : Nat) : Nat := 0xD800 + (n - 0x10000) / 0x400

def lowSurrogate (n : Nat) : Nat := 0xDC00 + (n - 0x10000) % 0x400

/-- One character of a text, inside the quotes. -/
def writeChar (c : Char) : List Char :=
  if c = '"' then ['\\', '"']
  else if c = '\\' then ['\\', '\\']
  else if c = '\n' then ['\\', 'n']
  else if c = '\r' then ['\\', 'r']
  else if c = '\t' then ['\\', 't']
  else if c = '\x0c' then ['\\', 'f']
  else if c = '\x08' then ['\\', 'b']
  else if ' ' ≤ c ∧ c ≤ '~' then [c]
  else if c.toNat < 0x10000 then unitEscape c.toNat
  else unitEscape (highSurrogate c.toNat) ++ unitEscape (lowSurrogate c.toNat)

def writeString (s : List Char) : List Char := '"' :: s.flatMap writeChar ++ ['"']

def writeNumber : Number → List Char
  | .int n => Text.signedDigits n
  | .double x => Layout.json.double x

def writeWord : Option Bool → List Char
  | none => "null".toList
  | some true => "true".toList
  | some false => "false".toList

mutual

def write (style : Style) : Json → List Char
  | .null => writeWord none
  | .boolean b => writeWord (some b)
  | .number n => writeNumber n
  | .string s => writeString s.toList
  | .array items => '[' :: Text.glue style.comma (writeItems style items) ++ [']']
  | .object members => '\x7b' :: Text.glue style.comma (writeMembers style members) ++ ['\x7d']

def writeItems (style : Style) : List Json → List (List Char)
  | [] => []
  | v :: rest => write style v :: writeItems style rest

def writeMembers (style : Style) : List (String × Json) → List (List Char)
  | [] => []
  | (name, v) :: rest => (writeString name.toList ++ style.colon ++ write style v) :: writeMembers style rest

end

/-- A line break and the indentation of a level. -/
def lineBreak (level : Nat) : List Char := '\n' :: List.replicate (2 * level) ' '

/-- Lines one level deeper than the brackets around them; nothing between brackets around nothing. -/
def block (opening closing : Char) (level : Nat) (lines : List (List Char)) : List Char :=
  if lines.isEmpty then [opening, closing]
  else
    opening :: lineBreak (level + 1) ++ Text.glue (',' :: lineBreak (level + 1)) lines ++
      lineBreak level ++ [closing]

mutual

def writeIndented (level : Nat) : Json → List Char
  | .array items => block '[' ']' level (indentedItems (level + 1) items)
  | .object members => block '\x7b' '\x7d' level (indentedMembers (level + 1) members)
  | .null => writeWord none
  | .boolean b => writeWord (some b)
  | .number n => writeNumber n
  | .string s => writeString s.toList

def indentedItems (level : Nat) : List Json → List (List Char)
  | [] => []
  | v :: rest => writeIndented level v :: indentedItems level rest

def indentedMembers (level : Nat) : List (String × Json) → List (List Char)
  | [] => []
  | (name, v) :: rest =>
    (writeString name.toList ++ [':', ' '] ++ writeIndented level v) :: indentedMembers level rest

end

end TemplateBuiltins.Json

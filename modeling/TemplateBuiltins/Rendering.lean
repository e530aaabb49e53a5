/-
# Rendering -- the text of values in a template

A text is itself, null, true and false have their words, and numbers have the text
of a template.  Inside a joined array null is empty, arrays are joined in turn with
commas, and mappings are written as JSON, in which anything that is no JSON value
becomes a text (`Value.json`).  JSON text has names for some keys that are no texts, and
it has limits: writing a mapping fails at a key without a name and at an integer that is
too long.
-/
import TemplateBuiltins.Failure
import TemplateBuiltins.Json.Writer
import TemplateBuiltins.Number.Text

set_option autoImplicit false

namespace TemplateBuiltins

namespace Signature

/-- A signature as the pair that it is: its text and its kinds. -/
def pairText (s : Signature) : List (List Char) := [s.text, s.kindsLiteral]

end Signature

/-- A number as JSON. -/
def Number.json (n : Number) : Except Failure Json :=
  if n.isShowable then .ok (.number n) else .error (.tooLong none)

/-- The name of a key in JSON text. -/
def Key.json : Key → Except Failure String
  | .text s => .ok s
  | .other k =>
    match k.member, k.literal with
    | some name, some _ => .ok name
    | some _, none => .error (.tooLong none)
    | none, _ => .error (.keyRefused k.typeName)

/-- The plain text of a value that has no other form in JSON. -/
def Value.jsonText (v : Value) : Except Failure Json := v.shown.map fun _ => .string (String.ofList v.plain)

mutual

/-- A value as JSON. -/
def Value.json : Value → Except Failure Json
  | .null => .ok .null
  | .boolean b => .ok (.boolean b)
  | .string s => .ok (.string s)
  | .number n => n.json
  | .array items => (jsonItems items).map .array
  | .tuple items => (jsonItems items).map .array
  | .signature s => .ok (.array (s.pairText.map fun t => .string (String.ofList t)))
  | .object (.entries .plain ⟨fields⟩) => (jsonFields fields).map .object
  | .object (.entries .callable ⟨fields⟩) => (jsonFields fields).map .object
  | v => v.jsonText

def jsonItems : List Value → Except Failure (List Json)
  | [] => .ok []
  | v :: rest => do
    let j ← v.json
    let more ← jsonItems rest
    .ok (j :: more)

def jsonFields {keys : List Key} : Entries Key Value keys → Except Failure (List (String × Json))
  | .nil => .ok []
  | .cons key _ v rest => do
    let name ← key.json
    let j ← v.json
    let more ← jsonFields rest
    .ok ((name, j) :: more)

end

mutual

/-- The value that a JSON value denotes; of several members of one name the last counts, in the place of
the first. -/
def Value.ofJson : Json → Value
  | .null => .null
  | .boolean b => .boolean b
  | .number n => .number n
  | .string s => .string s
  | .array items => .array (valuesOfItems items)
  | .object members => .ofFields (.ofEntries (valuesOfMembers members))

def valuesOfItems : List Json → List Value
  | [] => []
  | j :: rest => Value.ofJson j :: valuesOfItems rest

def valuesOfMembers : List (String × Json) → Bindings Key Value
  | [] => []
  | (name, j) :: rest => (.text name, Value.ofJson j) :: valuesOfMembers rest

end

namespace Value

/-- The text of a value that stands by itself. -/
def text : Value → List Char
  | .null => "null".toList
  | .boolean b => if b then "true".toList else "false".toList
  | .number n => n.text
  | v => v.plain

end Value

mutual

/-- The text of an item of a joined array. -/
def Value.itemText : Value → Except Failure (List Char)
  | .null => .ok []
  | .number n => .ok n.text
  | .array items => (itemTexts items).map (Text.glue [','])
  | .tuple items => (itemTexts items).map (Text.glue [','])
  | .signature s => .ok (Text.glue [','] s.pairText)
  | .object m => (Value.object m).json.map (·.write .compact)
  | v => v.shown.map fun _ => v.text

def itemTexts : List Value → Except Failure (List (List Char))
  | [] => .ok []
  | v :: rest => do
    let text ← v.itemText
    let more ← itemTexts rest
    .ok (text :: more)

end

end TemplateBuiltins

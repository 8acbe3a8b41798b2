import WdmNet.Log.Record
import WdmNet.Text.Quoted
import WdmNet.Text.Blank
import WdmNet.Text.Duration
import WdmNet.Json.Canonical
/-!
Log records as lines.

A record is written as one line in one of two formats, both starting with the level and the
message and then the attributes in order (a repeated key is written again):

* key-value text: `level=INFO msg="two words" count=3`. A key or value is written as it is
  unless it is empty or holds a blank, `=`, `"`, a control character, a character that is not
  printable or not valid; then it is quoted (`Text.quote`). Numbers take their shortest
  general notation, durations their unit text (`1.5ms`), and free-form values the nested
  notation `[a b]`, `map[k:v]`, `<nil>`;
* a JSON object with the members `level`, `msg` and one per attribute. Durations are whole
  nanoseconds; a number that JSON cannot hold is written as the text of the error it causes.
-/

namespace WdmNet.Log

/-- Whether a character forces quoting in key-value text. The replacement character counts
as a character that was not valid, wherever it came from. -/
def forcesQuote (c : Char) : Bool :=
  let n := c.toNat
  if n < 0x80 then c == ' ' || c == '=' || c == '"' || n < 0x20
  else n == 0xFFFD || Text.isSpace c || !Text.isPrintable c

/-- A key or value of key-value text. -/
def textWord (s : String) : String :=
  if s.isEmpty || s.toList.any forcesQuote then Text.quote s else s

/-- A JSON number literal as a double. -/
def literalValue (lit : String) : Float :=
  match Decimal.Scaled.ofNumeral? lit with
  | some d => d.toFloat
  | none => 0

mutual

/-- Nested notation of a free-form value: lists in brackets and maps with sorted keys, the
items separated by blanks, text as it is and nothing as `<nil>`. -/
def nestedText : Json → String
  | .null => "<nil>"
  | .bool b => toString b
  | .num lit => Decimal.generalText (literalValue lit)
  | .str s => s
  | .arr items => "[" ++ " ".intercalate (nestedItems items) ++ "]"
  | .obj ms =>
    let sorted := (nestedMembers ms).mergeSort fun a b => decide (a.1 ≤ b.1)
    "map[" ++ " ".intercalate (sorted.map fun (k, v) => k ++ ":" ++ v) ++ "]"

/-- The nested notation of each item. -/
def nestedItems : List Json → List String
  | [] => []
  | j :: js => nestedText j :: nestedItems js

/-- Each member's key with the nested notation of its value. -/
def nestedMembers : List (String × Json) → List (String × String)
  | [] => []
  | (k, j) :: ms => (k, nestedText j) :: nestedMembers ms

end

/-- A value in key-value text. -/
def Value.text : Value → String
  | .str s => textWord s
  | .int i => toString i
  | .count n => toString n
  | .float x => Decimal.generalText x
  | .bool b => toString b
  | .duration ns => Text.durationText ns
  | .any j => textWord (nestedText j)

/-- The key-value text of a record. -/
def Record.text (r : Record) : String :=
  let front := "level=" ++ r.level.name ++ " msg=" ++ textWord r.msg
  r.attrs.foldl (fun acc a => acc ++ " " ++ textWord a.key ++ "=" ++ a.value.text) front

/-- The error text of a double that JSON cannot hold. -/
def unsupportedFloat (x : Float) : String :=
  "json: unsupported value: " ++ Decimal.generalText x

/-- A value as a JSON member. -/
def Value.json : Value → Json
  | .str s => .str s
  | .int i => .ofInt i
  | .count n => .ofNat n
  | .float x => if x.isNaN || x.isInf then .str ("!ERROR:" ++ unsupportedFloat x) else .ofFloat x
  | .bool b => .bool b
  | .duration ns => .ofInt ns
  | .any j => j

/-- The JSON object of a record. -/
def Record.json (r : Record) : List (String × Json) :=
  [("level", .str r.level.name), ("msg", .str r.msg)] ++ r.attrs.map fun a => (a.key, a.value.json)

/-- A decoded JSON value as an attribute value: text, numbers (as doubles) and truth values
keep their kind, everything else is free-form, in the form a generic decoder leaves it
(numbers as doubles, one member per key). -/
def Value.ofJson : Json → Value
  | .str s => .str s
  | .num lit => .float (literalValue lit)
  | .bool b => .bool b
  | j => .any (Json.canonical j)

/-- The two line formats. -/
inductive Format where
  | text
  | json
  deriving DecidableEq, Repr, Inhabited

/-- The format of this name in any case; key-value text for any other name. -/
def Format.parse (s : String) : Format := if Text.lower s == "json" then .json else .text

/-- A written line. -/
inductive Line where
  | text (s : String)
  | json (members : List (String × Json))
  deriving Repr, Inhabited

/-- A record written in a format. -/
def Record.line (r : Record) : Format → Line
  | .text => .text r.text
  | .json => .json r.json

end WdmNet.Log

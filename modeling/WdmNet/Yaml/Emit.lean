import WdmNet.Yaml.Resolve
import WdmNet.Yaml.Source
import WdmNet.Schema.Basic
import WdmNet.Decimal.Notation
/-!
Writing values as a YAML document.

A value becomes a tree of scalars, sequences and mappings (`Out`): a record is a mapping of
its fields in declaration order, empty `omitEmpty` fields left out; an integer map is a
mapping sorted by key; an absent optional value is `null`.

The tree is written in block style with an indentation step of four: a collection under a
key is indented to the next multiple of four, one in a sequence item two past the dash, and
empty collections are written `[]` and `{}`. Lines are never folded.

Numbers, truth values and `null` are plain. Text is plain when it would read back as the same
text (it resolves to a string and is no sexagesimal number or old truth word such as `yes`);
text with a line feed is a literal block; anything else is double-quoted. The chosen style
then gives way when the characters do not allow it: plain to single-quoted (leading or
trailing blanks or breaks, indicators, other line breaks), single-quoted to double-quoted
(tabs, characters that cannot be printed, a space next to a break), literal to double-quoted
(characters that cannot be printed, trailing spaces). Double quotes escape what cannot be
printed, line breaks, quotes and backslashes, and every character of a text that starts with
a byte order mark.
-/

namespace WdmNet.Yaml

open Schema

/-- A tree to write. -/
inductive Out where
  /-- A number, truth value or null, written as given. -/
  | plain (text : String)
  /-- Text, quoted as it needs to be to read back as text. -/
  | text (s : String)
  | seq (items : List Out)
  | map (entries : List (Out × Out))
  deriving Repr, Inhabited

/-! ### From values -/

/-- Words that older readers take for truth values. -/
def oldBoolWords : List String :=
  ["y", "Y", "yes", "Yes", "YES", "on", "On", "ON", "n", "N", "no", "No", "NO", "off", "Off", "OFF"]

/-- Whether text reads as a sexagesimal number: digits and underscores, then groups of `:`
and one or two digits (the first below 6), then an optional fraction; an optional sign. -/
def isSexagesimal (s : String) : Bool :=
  let cs := match s.toList with
    | '+' :: r | '-' :: r => r
    | r => r
  match cs with
  | d :: rest =>
    if !d.isDigit then false
    else
      let rest := rest.dropWhile fun c => c.isDigit || c == '_'
      let rec groups : Nat → List Char → Bool → Bool
        | 0, _, _ => false
        | fuel + 1, cs, any =>
          match cs with
          | ':' :: a :: b :: r =>
            if a.isDigit && b.isDigit && a ≤ '5' then groups fuel r true
            else if a.isDigit then groups fuel (b :: r) true
            else false
          | [':', a] => a.isDigit
          | '.' :: r => any && r.all fun c => c.isDigit || c == '_'
          | [] => any
          | _ => false
      groups (s.length + 1) rest false
  | [] => false

/-- Whether text can be written plain and read back as the same text. -/
def readsAsText (s : String) : Bool :=
  resolvedTag s == "!!str" && !isSexagesimal s && !oldBoolWords.contains s

/-- A double as YAML writes it. -/
def floatScalar (x : Float) : String :=
  if x.isNaN then ".nan" else if x.isInf then (if x > 0 then ".inf" else "-.inf")
  else Decimal.generalText x

/-- Whether a field value of this shape is left out when `omitEmpty` is set. -/
def emptyAt (s : Shape) (v : Value) : Bool :=
  match s with
  | .opt _ => v.isNil
  | _ => v.isEmpty

/-- The tree of a value, at most `fuel` levels deep. -/
def toOut : Nat → Shape → Value → Out
  | 0, _, _ => .plain "null"
  | fuel + 1, shape, v =>
    match shape, v with
    | .opt _, .nil => .plain "null"
    | .list _, .nil => .seq []
    | .intMap _, .nil => .map []
    | .text _, .str s => .text s
    | .int, .int i => .plain (toString i)
    | .float, .float x => .plain (floatScalar x)
    | .bool, .bool b => .plain (if b then "true" else "false")
    | .list s, .list xs _ => .seq (xs.map (toOut fuel s))
    | .intMap s, .map es =>
      .map ((es.mergeSort fun a b => a.1 ≤ b.1).map fun (k, x) => (.plain (toString k), toOut fuel s x))
    | .record t, v =>
      .map (t.fields.filterMap fun f =>
        let x := v.get f.key
        let x := if x.isNil then Value.zero f.shape else x
        if f.omitEmpty && emptyAt f.shape x then none else some (.text f.key, toOut fuel f.shape x))
    | .opt s, v => toOut fuel s v
    | s, _ => toOut fuel s (Value.zero s)

/-! ### Scalar styles -/

/-- What the characters of a scalar allow. -/
structure Allowed where
  multiline : Bool
  plain : Bool
  singleQuoted : Bool
  block : Bool
  deriving Repr

/-- Looks at the characters of a scalar for the styles they allow in block context. -/
def allowedStyles (s : String) : Allowed :=
  let cs := s.toList.toArray
  let n := cs.size
  if n == 0 then ⟨false, true, true, false⟩ else
  let ch (i : Nat) : Char := cs.getD i '\x00'
  let marker := n ≥ 3 && ((ch 0 == '-' && ch 1 == '-' && ch 2 == '-') || (ch 0 == '.' && ch 1 == '.' && ch 2 == '.'))
  let step (acc : Bool × Bool × Bool × Bool × Bool × Bool × Bool × Bool) (i : Nat) :=
    let (indicators, breaks, special, tabs, breakSpace, spaceBreak, prevSpace, prevBreak) := acc
    let c := ch i
    let followedByBlank := i + 1 ≥ n || isBlank (ch (i + 1))
    let precededByBlank := i == 0 || isBlankOrEnd (ch (i - 1))
    let indicator :=
      if i == 0 then
        "#,[]\x7b\x7d&*!|>'\"%@".toList.contains c || c == Char.ofNat 96 ||
          ((c == '?' || c == ':' || c == '-') && followedByBlank)
      else (c == ':' && followedByBlank) || (c == '#' && precededByBlank)
    let tabs := tabs || c == '\t'
    let special := special || (c != '\t' && !isPrintableChar c)
    if c == ' ' then
      (indicators || indicator, breaks, special, tabs, breakSpace || prevBreak, spaceBreak, true, false)
    else if isBreak c then
      (indicators || indicator, true, special, tabs, breakSpace, spaceBreak || prevSpace, false, true)
    else (indicators || indicator, breaks, special, tabs, breakSpace, spaceBreak, false, false)
  let (indicators, breaks, special, tabs, breakSpace, spaceBreak, _, _) :=
    (List.range n).foldl step (marker, false, false, false, false, false, false, false)
  let first := ch 0
  let last := ch (n - 1)
  let edges := first == ' ' || isBreak first || last == ' ' || isBreak last
  { multiline := breaks
    plain := !(edges || breakSpace || spaceBreak || tabs || special || breaks || indicators)
    singleQuoted := !(breakSpace || spaceBreak || tabs || special)
    block := !(last == ' ' || spaceBreak || special) }

/-- The style a scalar is written in: the one asked for, given way as its characters demand. -/
def chooseStyle (asked : ScalarStyle) (a : Allowed) (empty simpleKey : Bool) : ScalarStyle :=
  let st : ScalarStyle := if simpleKey && a.multiline then .doubleQuoted else asked
  let st : ScalarStyle := match st with
    | .plain => if !a.plain || (empty && simpleKey) then .singleQuoted else .plain
    | st => st
  let st : ScalarStyle := match st with
    | .singleQuoted => if !a.singleQuoted then .doubleQuoted else .singleQuoted
    | st => st
  match st with
  | .literal | .folded => if !a.block || simpleKey then .doubleQuoted else st
  | st => st

/-! ### The writer -/

/-- Where writing stands: the text so far, the column, whether the last thing written was
whitespace, and whether only indentation stands on the current line. -/
structure Writer where
  out : String
  column : Nat
  whitespace : Bool
  indention : Bool

/-- Writing steps. -/
abbrev WriteM := StateM Writer

namespace WriteM

/-- Writes a character that is not a line break. -/
def put (c : Char) : WriteM Unit :=
  modify fun w => { w with out := w.out.push c, column := w.column + 1 }

/-- Starts a new line. -/
def newLine : WriteM Unit :=
  modify fun w => { w with out := w.out.push '\n', column := 0, indention := true }

/-- Writes a line break of a scalar: a line feed starts a new line; other breaks are written
as they are and count as starting one. -/
def lineBreak (c : Char) : WriteM Unit :=
  if c == '\n' then newLine
  else modify fun w => { w with out := w.out.push c, column := 0, indention := true }

/-- Moves to an indentation on a line of its own, unless the current line holds nothing but
less indentation. -/
def indentTo (indent : Nat) : WriteM Unit := do
  let w ← get
  if !w.indention || w.column > indent || (w.column == indent && !w.whitespace) then newLine
  let w ← get
  for _ in [w.column:indent] do put ' '
  modify fun w => { w with whitespace := true }

/-- Writes an indicator, after a space if one is needed and none precedes. -/
def indicator (s : String) (needSpace isSpace isIndention : Bool) : WriteM Unit := do
  if needSpace && !(← get).whitespace then put ' '
  for c in s.toList do put c
  modify fun w => { w with whitespace := isSpace, indention := w.indention && isIndention }

/-- Writes a plain scalar. -/
def plainScalar (s : String) : WriteM Unit := do
  if !s.isEmpty && !(← get).whitespace then put ' '
  for c in s.toList do put c
  modify fun w => { w with whitespace := w.whitespace && s.isEmpty, indention := false }

/-- The escape of a character in a double-quoted scalar. -/
def escapeText (c : Char) : String :=
  let n := c.toNat
  let hex (width : Nat) : String :=
    String.ofList ((List.range width).reverse.map fun k =>
      let d := n / Nat.pow 16 k % 16
      if d < 10 then Char.ofNat (48 + d) else Char.ofNat (55 + d))
  if n == 0 then "0" else if n == 7 then "a" else if n == 8 then "b" else if n == 9 then "t"
  else if n == 10 then "n" else if n == 11 then "v" else if n == 12 then "f"
  else if n == 13 then "r" else if n == 0x1b then "e" else if n == 0x22 then "\""
  else if n == 0x5c then "\\" else if n == 0x85 then "N" else if n == 0xA0 then "_"
  else if n == 0x2028 then "L" else if n == 0x2029 then "P"
  else if n ≤ 0xFF then "x" ++ hex 2 else if n ≤ 0xFFFF then "u" ++ hex 4 else "U" ++ hex 8

/-- Writes a double-quoted scalar. -/
def doubleQuoted (s : String) : WriteM Unit := do
  indicator "\"" true false false
  let all := s.toList.head? == some bom
  for c in s.toList do
    if all || !isPrintableChar c || isBreak c || c == '"' || c == '\\' then
      put '\\'
      for e in (escapeText c).toList do put e
    else put c
  indicator "\"" false false false
  modify fun w => { w with whitespace := false, indention := false }

/-- Writes a single-quoted scalar at an indentation. -/
def singleQuoted (indent : Nat) (s : String) : WriteM Unit := do
  indicator "'" true false false
  let mut breaks := false
  for c in s.toList do
    if c == ' ' then put c
    else if isBreak c then
      if !breaks && c == '\n' then newLine
      lineBreak c
      breaks := true
    else
      if breaks then indentTo indent
      if c == '\'' then put '\''
      put c
      modify fun w => { w with indention := false }
      breaks := false
  indicator "'" false false false
  modify fun w => { w with whitespace := false, indention := false }

/-- The header hints of a literal scalar: an indentation digit when it starts with a space or
break, and `-` to strip a missing final break or `+` to keep more than one. -/
def blockHints (s : String) : String :=
  let cs := s.toList
  let indentHint := match cs.head? with
    | some c => if c == ' ' || isBreak c then "4" else ""
    | none => ""
  let chomp := match cs.reverse with
    | [] => "-"
    | [c] => if isBreak c then "+" else "-"
    | c :: d :: _ => if !isBreak c then "-" else if isBreak d then "+" else ""
  indentHint ++ chomp

/-- Writes a literal scalar at an indentation. -/
def literal (indent : Nat) (s : String) : WriteM Unit := do
  indicator "|" true false false
  let hints := blockHints s
  if !hints.isEmpty then indicator hints false false false
  modify fun w => { w with whitespace := true }
  let mut breaks := true
  for c in s.toList do
    if isBreak c then
      lineBreak c
      breaks := true
    else
      if breaks then indentTo indent
      put c
      modify fun w => { w with indention := false }
      breaks := false

/-- The indentation of a node nested in one at `indent`: four for a scalar at the top,
nothing for a collection there, two past the dash in a sequence item, else the next multiple
of four. -/
def nestedIndent (indent : Int) (scalar inItem : Bool) : Int :=
  if indent < 0 then (if scalar then 4 else 0)
  else if inItem then indent + 2
  else 4 * ((indent + 4) / 4)

/-- Writes a scalar asked for in a style, as a key or not, at the indentation of its parent. -/
def scalar (asked : ScalarStyle) (s : String) (indent : Int) (inItem simpleKey : Bool) :
    WriteM Unit := do
  let style := chooseStyle asked (allowedStyles s) s.isEmpty simpleKey
  let i := (nestedIndent indent true inItem).toNat
  match style with
  | .plain => plainScalar s
  | .singleQuoted => singleQuoted i s
  | .literal | .folded => literal i s
  | .doubleQuoted => doubleQuoted s

/-- Writes a tree at the indentation of its parent; `inItem` when it is a sequence item, and
`simpleKey` when it is a mapping key. -/
def tree : Nat → Out → Int → Bool → Bool → WriteM Unit
  | 0, _, _, _, _ => pure ()
  | fuel + 1, t, indent, inItem, simpleKey =>
    match t with
    | .plain s => scalar .plain s indent inItem simpleKey
    | .text s =>
      let asked : ScalarStyle :=
        if s.contains '\n' then .literal else if readsAsText s then .plain else .doubleQuoted
      scalar asked s indent inItem simpleKey
    | .seq [] => do
      indicator "[" true true false
      if (← get).column == 0 then indentTo 0
      indicator "]" false false false
    | .map [] => do
      indicator "\x7b" true true false
      if (← get).column == 0 then indentTo 0
      indicator "\x7d" false false false
    | .seq items => do
      let i := nestedIndent indent false inItem
      for x in items do
        indentTo i.toNat
        indicator "-" true false true
        tree fuel x i true false
    | .map entries => do
      let i := nestedIndent indent false inItem
      for (k, v) in entries do
        indentTo i.toNat
        tree fuel k i false true
        indicator ":" false false false
        tree fuel v i false false

end WriteM

/-- A tree as a YAML document. -/
def writeDocument (t : Out) : String :=
  let run : WriteM Unit := do
    WriteM.tree 64 t (-1) false false
    WriteM.indentTo 0
  (run.run ⟨"", 0, true, true⟩).2.out

/-- A record as a YAML document. -/
def encode (t : Ty) (v : Value) : String := writeDocument (toOut 32 (.record t) v)

end WdmNet.Yaml

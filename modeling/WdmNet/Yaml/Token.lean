/-!
The tokens of a YAML character stream, where they stand, and what goes wrong reading them.

A `Mark` counts characters read, lines and columns from zero; a line break of two characters
(carriage return and line feed) counts as two characters and one line. A `Token` is one of
the YAML 1.1 tokens with the marks of its first character and of the character after it.

A `SyntaxError` records the stage that found the problem (decoding characters, scanning
tokens, or parsing events), the problem, and two marks: where the construct that failed began
(the context, absent for most parse errors) and where the problem was noticed. Its message
names one line, counted from one for scanning errors and from zero otherwise: the context's
line if that is not the first line, else the problem's line if that is not the first line,
else none at all.
-/

namespace WdmNet.Yaml

/-- A position in the character stream, every part counted from zero. -/
structure Mark where
  index : Nat
  line : Nat
  column : Nat
  deriving Repr, Inhabited, BEq, DecidableEq

/-- The stage that found a problem. -/
inductive Stage where
  | reader
  | scanner
  | parser
  deriving Repr, Inhabited, BEq, DecidableEq

/-- A problem in the syntax of a document. -/
structure SyntaxError where
  stage : Stage
  problem : String
  context : Mark
  place : Mark
  deriving Repr, Inhabited

namespace SyntaxError

/-- The line a message names, zero for none. -/
def line (e : SyntaxError) : Nat :=
  let bump := if e.stage == .scanner then 1 else 0
  if e.context.line != 0 then e.context.line + bump
  else if e.place.line != 0 then e.place.line + bump
  else 0

/-- The message of a syntax error. -/
def message (e : SyntaxError) : String :=
  "yaml: " ++ (if e.line == 0 then "" else "line " ++ toString e.line ++ ": ") ++ e.problem

end SyntaxError

/-- The origin, where nothing has been read yet. -/
def Mark.start : Mark := ⟨0, 0, 0⟩

/-- How a scalar is written. -/
inductive ScalarStyle where
  | plain
  | singleQuoted
  | doubleQuoted
  | literal
  | folded
  deriving Repr, Inhabited, BEq, DecidableEq

/-- The kinds of tokens, with what they carry. Tag handles, suffixes and prefixes are bytes,
since percent escapes may spell any byte. -/
inductive TokenKind where
  | streamStart
  | streamEnd
  | versionDirective (major minor : Nat)
  | tagDirective (handle pfx : List Nat)
  | documentStart
  | documentEnd
  | blockSequenceStart
  | blockMappingStart
  | blockEnd
  | flowSequenceStart
  | flowSequenceEnd
  | flowMappingStart
  | flowMappingEnd
  | blockEntry
  | flowEntry
  | key
  | value
  | alias (name : String)
  | anchor (name : String)
  | tag (handle suffix : List Nat)
  | scalar (text : String) (style : ScalarStyle)
  deriving Repr, Inhabited, BEq

/-- A token with the marks of its first character and of the character after it. -/
structure Token where
  kind : TokenKind
  start : Mark
  stop : Mark
  deriving Repr, Inhabited

/-- Whether the token is of the kind given by a test. -/
def Token.is (t : Token) (k : TokenKind) : Bool := t.kind == k

end WdmNet.Yaml

import WdmNet.Yaml.Token.Cursor
/-!
Scanning scalars: plain, quoted and block.

Line folding is shared by plain and quoted scalars. Blanks between words are kept; a single
line break between two lines becomes a space, and each further break is kept as a line
feed (a line or paragraph separator stands for itself and is never folded). Leading blanks of
continuation lines are dropped.

* A plain scalar ends at `: ` (a colon before a blank or the end), at ` #`, at a document
  marker at the start of a line, in flow context at `,?[]{}`, and in block context at a line
  indented no deeper than the enclosing block. A tab among the indentation of a continuation
  line that is not yet deep enough is an error.
* A single-quoted scalar writes a quote as two; a double-quoted one knows the escapes
  `\0 \a \b \t \n \v \f \r \e \  \" \' \\ \N \_ \L \P`, `\xNN`, `\uNNNN` and `\UNNNNNNNN`
  (no surrogates, nothing past U+10FFFF), and a backslash at the end of a line joins the lines
  without a space. Both fail at a document marker or at the end of the stream.
* A block scalar (`|` literal, `>` folded) takes an optional chomping indicator (`-` strip,
  `+` keep) and indentation indicator (1 to 9) in either order, then a comment or the end of
  the line. Without an indicator the indentation is that of the first non-empty line, at
  least one more than the enclosing block's. Folded scalars join lines that do not start
  with a blank by a space.
-/

namespace WdmNet.Yaml

namespace ScanM

/-- The texts a folding scalar collects. -/
structure Folding where
  text : String
  /-- The first line break of the blank run being read. -/
  leadingBreak : String
  /-- The further line breaks of that run. -/
  trailingBreaks : String
  /-- Blanks after the last word, not yet known to be inside the scalar. -/
  whitespaces : String
  /-- Whether a line break was read since the last word. -/
  leadingBlanks : Bool
  deriving Inhabited

/-- The text with the pending blanks or line breaks joined onto it. -/
def Folding.join (f : Folding) : Folding :=
  if f.leadingBlanks then
    let text :=
      if f.leadingBreak.startsWith "\n" then
        (if f.trailingBreaks.isEmpty then f.text.push ' ' else f.text ++ f.trailingBreaks)
      else f.text ++ f.leadingBreak ++ f.trailingBreaks
    { f with text, leadingBreak := "", trailingBreaks := "", leadingBlanks := false }
  else { f with text := f.text ++ f.whitespaces, whitespaces := "" }

/-- Whether a document marker (`---` or `...` before a blank) starts here. -/
def atDocumentMarker : ScanM Bool := do
  let s ← get
  let c0 ← peek 0
  let c1 ← peek 1
  let c2 ← peek 2
  let c3 ← peek 3
  pure (s.mark.column == 0 && ((c0 == '-' && c1 == '-' && c2 == '-') ||
    (c0 == '.' && c1 == '.' && c2 == '.')) && isBlankOrEnd c3)

/-! ### Plain scalars -/

/-- Reads the words of a plain scalar on the current line, recording the mark after the last
character read. -/
def plainWords : Nat → Folding → Mark → ScanM (Folding × Mark)
  | 0, f, m => pure (f, m)
  | fuel + 1, f, m => do
    let c ← peek 0
    if isBlankOrEnd c then return (f, m)
    let d ← peek 1
    let s ← get
    if (c == ':' && isBlankOrEnd d) ||
        (s.flowLevel > 0 && (c == ',' || c == '?' || c == '[' || c == ']' || c == '{' || c == '}'))
    then return (f, m)
    let f := if f.leadingBlanks || !f.whitespaces.isEmpty then f.join else f
    let text ← readInto f.text
    let m ← here
    need 2
    plainWords fuel { f with text } m

/-- Reads the blanks and line breaks after the words of a plain scalar. -/
def plainBlanks (start : Mark) (indent : Int) : Nat → Folding → ScanM Folding
  | 0, f => pure f
  | fuel + 1, f => do
    let c ← peek 0
    if isBlank c then
      let s ← get
      if f.leadingBlanks && (s.mark.column : Int) < indent && c == '\t' then
        fail start "found a tab character that violates indentation"
      let f ← if !f.leadingBlanks then do pure { f with whitespaces := ← readInto f.whitespaces }
        else do skip; pure f
      need 1
      plainBlanks start indent fuel f
    else if isBreak c then
      need 2
      let f ← if !f.leadingBlanks then do
          pure { f with whitespaces := "", leadingBreak := ← readLineInto f.leadingBreak,
                        leadingBlanks := true }
        else do pure { f with trailingBreaks := ← readLineInto f.trailingBreaks }
      need 1
      plainBlanks start indent fuel f
    else pure f

/-- Reads the lines of a plain scalar. -/
def plainLines (start : Mark) (indent : Int) : Nat → Folding → Mark → ScanM (Folding × Mark)
  | 0, f, m => pure (f, m)
  | fuel + 1, f, m => do
    need 4
    if ← atDocumentMarker then return (f, m)
    if (← peek 0) == '#' then return (f, m)
    let budget ← budget
    let (f, m) ← plainWords budget f m
    let c ← peek 0
    if !(isBlank c || isBreak c) then return (f, m)
    need 1
    let f ← plainBlanks start indent budget f
    let s ← get
    if s.flowLevel == 0 && (s.mark.column : Int) < indent then return (f, m)
    plainLines start indent fuel f m

/-- Scans a plain scalar. A line break inside it lets a simple key start after it. -/
def plainScalar : ScanM Token := do
  let s ← get
  let start := s.mark
  let budget ← budget
  let (f, stop) ← plainLines start (s.indent + 1) budget ⟨"", "", "", "", false⟩ start
  if f.leadingBlanks then modify fun s => { s with keyAllowed := true }
  pure ⟨.scalar f.text .plain, start, stop⟩

/-! ### Quoted scalars -/

/-- The character a one-letter escape stands for, if the letter is one. -/
def escapeChar (c : Char) : Option Char :=
  match c with
  | '0' => some '\x00'
  | 'a' => some '\x07'
  | 'b' => some '\x08'
  | 't' => some '\t'
  | '\t' => some '\t'
  | 'n' => some '\n'
  | 'v' => some '\x0B'
  | 'f' => some '\x0C'
  | 'r' => some '\r'
  | 'e' => some '\x1B'
  | ' ' => some ' '
  | '"' => some '"'
  | '\'' => some '\''
  | '\\' => some '\\'
  | 'N' => some (Char.ofNat 0x85)
  | '_' => some (Char.ofNat 0xA0)
  | 'L' => some (Char.ofNat 0x2028)
  | 'P' => some (Char.ofNat 0x2029)
  | _ => none

/-- Moves past `n` characters. -/
def skipN : Nat → ScanM Unit
  | 0 => pure ()
  | n + 1 => do skip; skipN n

/-- The number of hex digits a numeric escape letter takes. -/
def escapeDigits (c : Char) : Nat :=
  if c == 'x' then 2 else if c == 'u' then 4 else if c == 'U' then 8 else 0

/-- The value of `n` hex digits from the current character on, if all are hex digits. -/
def hexCode (n : Nat) : ScanM (Option Nat) := do
  let s ← get
  let ds := (List.range n).map fun k => s.src.charAt (s.mark.index + k)
  if ds.all isHexChar then pure (some (ds.foldl (fun v c => 16 * v + hexValue c) 0))
  else pure none

/-- Reads the non-blank characters of a quoted scalar up to a blank, a line break, the closing
quote or an escaped line break; tells whether it stopped at an escaped line break. -/
def quotedWords (start : Mark) (single : Bool) : Nat → String → ScanM (String × Bool)
  | 0, text => pure (text, false)
  | fuel + 1, text => do
    let c ← peek 0
    if isBlankOrEnd c then return (text, false)
    let d ← peek 1
    if single && c == '\'' && d == '\'' then
      skip; skip
      need 2
      quotedWords start single fuel (text.push '\'')
    else if single && c == '\'' then pure (text, false)
    else if !single && c == '"' then pure (text, false)
    else if !single && c == '\\' && isBreak d then
      need 3
      skip
      skipLine
      pure (text, true)
    else if !single && c == '\\' then
      let n := escapeDigits d
      let text ← match escapeChar d with
        | some e => pure (text.push e)
        | none =>
          if n == 0 then fail start "found unknown escape character" else pure text
      skip; skip
      let text ← if n > 0 then do
          need n
          match ← hexCode n with
          | none => fail start "did not find expected hexdecimal number"
          | some v =>
            if (0xD800 ≤ v && v ≤ 0xDFFF) || v > 0x10FFFF then
              fail start "found invalid Unicode character escape code"
            skipN n
            pure (text.push (Char.ofNat v))
        else pure text
      need 2
      quotedWords start single fuel text
    else
      let text ← readInto text
      need 2
      quotedWords start single fuel text

/-- Reads the blanks and line breaks between the words of a quoted scalar. -/
def quotedBlanks : Nat → Folding → ScanM Folding
  | 0, f => pure f
  | fuel + 1, f => do
    let c ← peek 0
    if isBlank c then
      let f ← if !f.leadingBlanks then do pure { f with whitespaces := ← readInto f.whitespaces }
        else do skip; pure f
      need 1
      quotedBlanks fuel f
    else if isBreak c then
      need 2
      let f ← if !f.leadingBlanks then do
          pure { f with whitespaces := "", leadingBreak := ← readLineInto f.leadingBreak,
                        leadingBlanks := true }
        else do pure { f with trailingBreaks := ← readLineInto f.trailingBreaks }
      need 1
      quotedBlanks fuel f
    else pure f

/-- Reads the lines of a quoted scalar up to its closing quote. -/
def quotedLines (start : Mark) (single : Bool) : Nat → String → ScanM String
  | 0, text => pure text
  | fuel + 1, text => do
    need 4
    if ← atDocumentMarker then fail start "found unexpected document indicator"
    if isNul (← peek 0) then fail start "found unexpected end of stream"
    let budget ← budget
    let (text, escapedBreak) ← quotedWords start single budget text
    need 1
    let c ← peek 0
    if (single && c == '\'') || (!single && c == '"') then return text
    let f ← quotedBlanks budget ⟨text, "", "", "", escapedBreak⟩
    let f := f.join
    quotedLines start single fuel f.text

/-- Scans a single-quoted or double-quoted scalar. -/
def quotedScalar (single : Bool) : ScanM Token := do
  let start ← here
  skip
  let budget ← budget
  let text ← quotedLines start single budget ""
  skip
  let stop ← here
  pure ⟨.scalar text (if single then .singleQuoted else .doubleQuoted), start, stop⟩

/-! ### Block scalars -/

/-- Moves past indentation spaces, up to the indentation when it is known (not `0`). -/
def indentSpaces (indent : Nat) : Nat → ScanM Unit
  | 0 => pure ()
  | k + 1 => do
    let s ← get
    if (indent == 0 || s.mark.column < indent) && (← peek 0) == ' ' then
      skip
      need 1
      indentSpaces indent k

/-- Reads indentation spaces and empty lines before a line of a block scalar, fixing the
indentation from the deepest blank line seen when it is not known yet (`0`): at least one
more than the enclosing block's, and at least one. Returns the indentation, the breaks read
and the mark after the last break. -/
def blockBreaks (start : Mark) (enclosing : Int) : Nat → Nat → Nat → String → Mark →
    ScanM (Nat × String × Mark)
  | 0, indent, _, breaks, m => pure (indent, breaks, m)
  | fuel + 1, indent, maxIndent, breaks, m => do
    need 1
    indentSpaces indent (← budget)
    let s ← get
    let maxIndent := max maxIndent s.mark.column
    let c ← peek 0
    if (indent == 0 || s.mark.column < indent) && c == '\t' then
      fail start "found a tab character where an indentation space is expected"
    if !isBreak c then
      let indent :=
        if indent == 0 then max (max maxIndent (enclosing + 1).toNat) 1 else indent
      return (indent, breaks, m)
    need 2
    let breaks ← readLineInto breaks
    let m ← here
    blockBreaks start enclosing fuel indent maxIndent breaks m

/-- Reads the lines of a block scalar while they are indented to its indentation. -/
def blockLines (start : Mark) (literal : Bool) (enclosing : Int) : Nat → Nat → String →
    String → String → Bool → Mark → ScanM (String × String × String × Mark)
  | 0, _, text, leading, trailing, _, m => pure (text, leading, trailing, m)
  | fuel + 1, indent, text, leading, trailing, leadingBlank, m => do
    let s ← get
    let c ← peek 0
    if !(s.mark.column == indent && !isNul c) then return (text, leading, trailing, m)
    let trailingBlank := isBlank c
    let text :=
      if !literal && !leadingBlank && !trailingBlank && leading.startsWith "\n" then
        (if trailing.isEmpty then text.push ' ' else text)
      else text ++ leading
    let text := text ++ trailing
    let leadingBlank := isBlank c
    let budget ← budget
    let rec line : Nat → String → ScanM String
      | 0, t => pure t
      | k + 1, t => do
        if isBreakOrEnd (← peek 0) then pure t
        else
          let t ← readInto t
          need 1
          line k t
    let text ← line budget text
    need 2
    let leading ← readLineInto ""
    let (indent, trailing, m) ← blockBreaks start enclosing budget indent 0 "" (← here)
    blockLines start literal enclosing fuel indent text leading trailing leadingBlank m

/-- Reads a chomping indicator, if one is here: `-` strips, `+` keeps. -/
def chompIndicator : ScanM Int := do
  let c ← peek 0
  if c == '+' then skip; pure 1
  else if c == '-' then skip; pure (-1)
  else pure 0

/-- Reads an indentation indicator, if one is here. -/
def indentIndicator (start : Mark) : ScanM Nat := do
  let c ← peek 0
  if isDigitChar c then
    if c == '0' then fail start "found an indentation indicator equal to 0"
    skip
    pure (c.toNat - 48)
  else pure 0

/-- Scans a literal or folded block scalar. -/
def blockScalar (literal : Bool) : ScanM Token := do
  let start ← here
  skip
  need 1
  let c ← peek 0
  let (chomping, increment) ← if c == '+' || c == '-' then do
      let ch ← chompIndicator
      need 1
      pure (ch, ← indentIndicator start)
    else if isDigitChar c then do
      let inc ← indentIndicator start
      need 1
      pure (← chompIndicator, inc)
    else pure (0, 0)
  need 1
  skipBlanks (← budget)
  if (← peek 0) == '#' then skipToBreak (← budget)
  if !isBreakOrEnd (← peek 0) then fail start "did not find expected comment or line break"
  if isBreak (← peek 0) then
    need 2
    skipLine
  let s ← get
  let indent : Nat :=
    if increment > 0 then (if s.indent ≥ 0 then (s.indent + increment).toNat else increment)
    else 0
  let budget ← budget
  let (indent, trailing, m) ← blockBreaks start s.indent budget indent 0 "" (← here)
  need 1
  let (text, leading, trailing, m) ← blockLines start literal s.indent budget indent "" "" trailing false m
  let text := if chomping != -1 then text ++ leading else text
  let text := if chomping == 1 then text ++ trailing else text
  pure ⟨.scalar text (if literal then .literal else .folded), start, m⟩

end ScanM

end WdmNet.Yaml

import WdmNet.Yaml.Token.Cursor
import WdmNet.Text.Utf8
/-!
Scanning directives, anchors, aliases and tags.

* A directive is `%YAML major.minor` (one or two digits each) or `%TAG handle prefix`; any
  other name is an error. A directive ends with an optional comment and a line break.
* An anchor `&name` or alias `*name` takes every printable character that is not blank, a
  line break or a flow indicator, and must be followed by a blank, the end of a line, or one
  of `?:,]}%@` and the backquote.
* A tag is verbatim `!<uri>`, a handle and suffix `!!suffix` or `!name!suffix`, a local tag
  `!suffix`, or the non-specific `!`. URIs take letters, digits and `-_;/?:@&=+$.!~*'()%`
  (flow indicators too in verbatim tags and directive prefixes), and `%` escapes spell the
  bytes of one UTF-8 character each. Handles, suffixes and prefixes are kept as bytes.
-/

namespace WdmNet.Yaml

namespace ScanM

/-- Moves past the current character, appending its UTF-8 bytes. -/
def readBytes (acc : List Nat) : ScanM (List Nat) := do
  let c ← peek 0
  skip
  pure (acc ++ Text.encodeChar c)

/-- Moves past the word characters here, appending them to a text. -/
def readWord : Nat → String → ScanM String
  | 0, acc => pure acc
  | fuel + 1, acc => do
    if isWordChar (← peek 0) then
      let acc ← readInto acc
      need 1
      readWord fuel acc
    else pure acc

/-- Moves past the word characters here, appending their bytes. -/
def readWordBytes : Nat → List Nat → ScanM (List Nat)
  | 0, acc => pure acc
  | fuel + 1, acc => do
    if isWordChar (← peek 0) then
      let acc ← readBytes acc
      need 1
      readWordBytes fuel acc
    else pure acc

/-! ### Directives -/

/-- Scans the name of a directive. -/
def directiveName (start : Mark) : ScanM String := do
  need 1
  let name ← readWord (← budget) ""
  if name.isEmpty then fail start "could not find expected directive name"
  if !isBlankOrEnd (← peek 0) then fail start "found unexpected non-alphabetical character"
  pure name

/-- Scans one number of a version: one or two digits. -/
def versionNumber (start : Mark) : Nat → Nat → Nat → ScanM Nat
  | 0, value, _ => pure value
  | fuel + 1, value, length => do
    let c ← peek 0
    if isDigitChar c then
      if length + 1 > 2 then fail start "found extremely long version number"
      skip
      need 1
      versionNumber start fuel (10 * value + (c.toNat - 48)) (length + 1)
    else if length == 0 then fail start "did not find expected version number"
    else pure value

/-- Scans the value of a `%YAML` directive. -/
def versionValue (start : Mark) : ScanM (Nat × Nat) := do
  need 1
  skipBlanks (← budget)
  need 1
  let major ← versionNumber start 3 0 0
  if (← peek 0) != '.' then fail start "did not find expected digit or '.' character"
  skip
  need 1
  let minor ← versionNumber start 3 0 0
  pure (major, minor)

/-- Scans a tag handle: `!`, `!!` or `!name!`. Outside a directive, a `!` followed by a word
without a closing `!` is taken too: it is the start of a local tag. -/
def tagHandle (directive : Bool) (start : Mark) : ScanM (List Nat) := do
  need 1
  if (← peek 0) != '!' then fail start "did not find expected '!'"
  let h ← readBytes []
  need 1
  let h ← readWordBytes (← budget) h
  if (← peek 0) == '!' then readBytes h
  else if directive && h != [33] then fail start "did not find expected '!'"
  else pure h

/-- Width in bytes of the UTF-8 sequence a leading byte starts, `0` for no leading byte. -/
def sequenceWidth (b : Nat) : Nat :=
  if b < 0x80 then 1 else if b / 32 == 6 then 2 else if b / 16 == 14 then 3
  else if b / 8 == 30 then 4 else 0

/-- Scans the percent escapes of one UTF-8 character, appending its bytes. -/
def uriEscapes (start : Mark) : Nat → Nat → List Nat → ScanM (List Nat)
  | 0, _, acc => pure acc
  | fuel + 1, width, acc => do
    need 3
    let c0 ← peek 0
    let c1 ← peek 1
    let c2 ← peek 2
    if !(c0 == '%' && isHexChar c1 && isHexChar c2) then fail start "did not find URI escaped octet"
    let octet := 16 * hexValue c1 + hexValue c2
    let width ← if width == 0 then do
        let w := sequenceWidth octet
        if w == 0 then fail start "found an incorrect leading UTF-8 octet"
        pure w
      else do
        if octet / 64 != 2 then fail start "found an incorrect trailing UTF-8 octet"
        pure width
    skip; skip; skip
    if width > 1 then uriEscapes start fuel (width - 1) (acc ++ [octet])
    else pure (acc ++ [octet])

/-- Whether a character may stand in a tag URI; flow indicators only where `flowChars`. -/
def isUriChar (flowChars : Bool) (c : Char) : Bool :=
  isWordChar c || ";/?:@&=+$.%!~*'()".toList.contains c ||
    (flowChars && (c == ',' || c == '[' || c == ']'))

/-- Scans the characters of a tag URI, after the part of it already read as a handle (its
leading `!` dropped). At least one character is required in all. -/
def tagUri (flowChars : Bool) (head : List Nat) (start : Mark) : ScanM (List Nat) := do
  need 1
  let rec chars : Nat → List Nat → Bool → ScanM (List Nat × Bool)
    | 0, acc, any => pure (acc, any)
    | fuel + 1, acc, any => do
      let c ← peek 0
      if isUriChar flowChars c then
        let acc ← if c == '%' then uriEscapes start 4 0 acc else readBytes acc
        need 1
        chars fuel acc true
      else pure (acc, any)
  let (uri, any) ← chars (← budget) (head.drop 1) (!head.isEmpty)
  if !any then fail start "did not find expected tag URI"
  pure uri

/-- Scans the value of a `%TAG` directive: a handle and a prefix. -/
def tagDirectiveValue (start : Mark) : ScanM (List Nat × List Nat) := do
  need 1
  skipBlanks (← budget)
  let handle ← tagHandle true start
  need 1
  if !isBlank (← peek 0) then fail start "did not find expected whitespace"
  skipBlanks (← budget)
  let pfx ← tagUri true [] start
  need 1
  if !isBlankOrEnd (← peek 0) then fail start "did not find expected whitespace or line break"
  pure (handle, pfx)

/-- Scans a directive with the rest of its line. -/
def directive : ScanM Token := do
  let start ← here
  skip
  let name ← directiveName start
  let kind ← if name == "YAML" then do
      let (major, minor) ← versionValue start
      pure (TokenKind.versionDirective major minor)
    else if name == "TAG" then do
      let (handle, pfx) ← tagDirectiveValue start
      pure (TokenKind.tagDirective handle pfx)
    else fail start "found unknown directive name"
  let stop ← here
  need 1
  skipBlanks (← budget)
  if (← peek 0) == '#' then skipToBreak (← budget)
  if !isBreakOrEnd (← peek 0) then fail start "did not find expected comment or line break"
  if isBreak (← peek 0) then
    need 2
    skipLine
  pure ⟨kind, start, stop⟩

/-! ### Anchors, aliases and tags -/

/-- Scans an anchor or an alias. -/
def anchorOrAlias (isAlias : Bool) : ScanM Token := do
  let start ← here
  skip
  need 1
  let rec name : Nat → String → ScanM String
    | 0, acc => pure acc
    | fuel + 1, acc => do
      if isAnchorChar (← peek 0) then
        let acc ← readInto acc
        need 1
        name fuel acc
      else pure acc
  let n ← name (← budget) ""
  let stop ← here
  let c ← peek 0
  if n.isEmpty || !(isBlankOrEnd c || "?:,]\x7d%@".toList.contains c || c == Char.ofNat 96) then
    fail start "did not find expected alphabetic or numeric character"
  pure ⟨if isAlias then .alias n else .anchor n, start, stop⟩

/-- Scans a tag. The non-specific tag `!` has an empty handle and the suffix `!`. -/
def tag : ScanM Token := do
  let start ← here
  need 2
  let (handle, suffix) ← if (← peek 1) == '<' then do
      skip; skip
      let suffix ← tagUri true [] start
      if (← peek 0) != '>' then fail start "did not find the expected '>'"
      skip
      pure ([], suffix)
    else do
      let handle ← tagHandle false start
      if handle.head? == some 33 && handle.length > 1 && handle.getLast? == some 33 then
        pure (handle, ← tagUri false [] start)
      else
        let suffix ← tagUri false handle start
        if suffix.isEmpty then pure ([], [33]) else pure ([33], suffix)
  need 1
  let c ← peek 0
  if !isBlankOrEnd c then
    let s ← get
    if s.flowLevel == 0 || c != ',' then fail start "did not find expected whitespace or line break"
  let stop ← here
  pure ⟨.tag handle suffix, start, stop⟩

end ScanM

end WdmNet.Yaml

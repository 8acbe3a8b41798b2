import WdmNet.Yaml.Token.Scalar
import WdmNet.Yaml.Token.Property
/-!
The token stream of a YAML document.

`ScanM.nextToken` gives the next token, scanning as far as needed; `ScanM.takeToken` moves
past it. The scanner keeps at least three tokens queued before it hands out the first one,
and more while the first one may still turn out to start a simple key, so a problem up to
two tokens ahead is found before the first one is used.

Between tokens the scanner skips spaces, comments and line breaks (tabs too, in flow
context or where no simple key may start). In block context a line break lets a simple key
start, and a token that starts left of the current indentation closes block collections
(BLOCK-END tokens). After a token, a comment on the rest of its line is read along with it,
except after the `-` of a block sequence entry.

A run of comment lines is read as one piece: from one comment, past blank characters and
single-byte line breaks, to the next, up to 512 characters ahead.
-/

namespace WdmNet.Yaml

namespace ScanM

/-- Whether a line break takes more than one byte. -/
def wideBreak (c : Char) : Bool := c.toNat == 0x85 || c.toNat == 0x2028 || c.toNat == 0x2029

/-- Moves to the end of the comment `dist` characters ahead, past the blanks and line breaks
before it. -/
def throughComment (dist : Nat) : ScanM Unit := do
  let seen := (← here).index + dist
  let rec walk : Nat → ScanM Unit
    | 0 => pure ()
    | fuel + 1 => do
      need 1
      let c ← peek 0
      if isBreakOrEnd c then
        if (← here).index ≥ seen then return
        need 2
        skipLine
        walk fuel
      else
        skip
        walk fuel
  walk (← budget)

/-- Looks ahead from a comment's end for the next comment of the run, reading it if there is
one. -/
def commentRun : Nat → ScanM Unit
  | 0 => pure ()
  | fuel + 1 => do
    let c0 ← peek 0
    if isNul c0 || wideBreak c0 then return
    let flow := (← get).flowLevel > 0
    let rec look : Nat → Nat → ScanM (Option Nat)
      | 0, _ => pure none
      | steps + 1, k => do
        if k ≥ 512 then return none
        need (k + 1)
        let c ← peek k
        if isBlank c then look steps (k + 1)
        else if flow && (c == ']' || c == '}') then pure none
        else if isBreakOrEnd c then
          if !isBreak c || wideBreak c then pure none else look steps (k + 1)
        else if c == '#' then pure (some k)
        else pure none
    match ← look 512 1 with
    | some k =>
      throughComment k
      commentRun fuel
    | none => pure ()

/-- Reads a run of comment lines starting at a `#`. -/
def comments : ScanM Unit := do
  throughComment 0
  commentRun (← budget)

/-- Reads a comment on the rest of the line after a token, if one follows the blanks here and
no line break was read since the token's last character. -/
def lineComment : ScanM Unit := do
  if (← get).newlines > 0 then return
  let rec look : Nat → Nat → ScanM (Option Nat)
    | 0, _ => pure none
    | steps + 1, k => do
      if k ≥ 512 then return none
      need (k + 1)
      let c ← peek k
      if isBlank c then look steps (k + 1)
      else if c == '#' then pure (some k)
      else pure none
  match ← look 512 0 with
  | some k => throughComment k
  | none => pure ()

/-- Skips blanks, comments and line breaks up to the next token. -/
def toNextToken : Nat → ScanM Unit
  | 0 => pure ()
  | fuel + 1 => do
    need 1
    let s ← get
    if s.mark.column == 0 && s.src.charAt s.feed.front == bom then skip
    need 1
    let rec blanks : Nat → ScanM Unit
      | 0 => pure ()
      | k + 1 => do
        let s ← get
        let c ← peek 0
        if c == ' ' || ((s.flowLevel > 0 || !s.keyAllowed) && c == '\t') then
          skip
          need 1
          blanks k
    blanks (← budget)
    if (← peek 0) == '#' then comments
    if isBreak (← peek 0) then
      need 2
      skipLine
      if (← get).flowLevel == 0 then modify fun s => { s with keyAllowed := true }
      toNextToken fuel

/-! ### Fetching one token -/

/-- Queues the STREAM-START token. -/
def streamStart : ScanM Unit := do
  modify fun s => { s with indent := -1, keys := s.keys.push default, keyLevels := [],
                           keyAllowed := true, started := true }
  let m ← here
  push ⟨.streamStart, m, m⟩

/-- Queues the STREAM-END token, closing all block collections. -/
def streamEnd : ScanM Unit := do
  modify fun s =>
    if s.mark.column != 0 then { s with mark := ⟨s.mark.index, s.mark.line + 1, 0⟩ } else s
  unrollIndent (-1) (← here) (← get).indents.length.succ
  removeKey
  modify fun s => { s with keyAllowed := false }
  let m ← here
  push ⟨.streamEnd, m, m⟩

/-- Closes all block collections and drops the simple key before a directive or document
marker. -/
def resetBlocks : ScanM Unit := do
  unrollIndent (-1) (← here) (← get).indents.length.succ
  removeKey
  modify fun s => { s with keyAllowed := false }

/-- Queues a one-character indicator token. -/
def indicator (kind : TokenKind) : ScanM Unit := do
  let start ← here
  skip
  push ⟨kind, start, ← here⟩

/-- Queues a document marker token. -/
def documentMarker (kind : TokenKind) : ScanM Unit := do
  resetBlocks
  let start ← here
  skip; skip; skip
  push ⟨kind, start, ← here⟩

/-- Queues the start of a flow collection, which may start a simple key. -/
def flowStart (kind : TokenKind) : ScanM Unit := do
  saveKey
  enterFlow
  modify fun s => { s with keyAllowed := true }
  indicator kind

/-- Queues the end of a flow collection. -/
def flowEnd (kind : TokenKind) : ScanM Unit := do
  removeKey
  leaveFlow
  modify fun s => { s with keyAllowed := false }
  indicator kind

/-- Queues a `,` between flow entries. -/
def flowEntry : ScanM Unit := do
  removeKey
  modify fun s => { s with keyAllowed := true }
  indicator .flowEntry

/-- Queues a `-` block sequence entry, opening a block sequence if needed. -/
def blockEntry : ScanM Unit := do
  let s ← get
  if s.flowLevel == 0 then
    if !s.keyAllowed then fail s.mark "block sequence entries are not allowed in this context"
    rollIndent s.mark.column none .blockSequenceStart s.mark
  removeKey
  modify fun s => { s with keyAllowed := true }
  indicator .blockEntry

/-- Queues a `?` complex key, opening a block mapping if needed. -/
def complexKey : ScanM Unit := do
  let s ← get
  if s.flowLevel == 0 then
    if !s.keyAllowed then fail s.mark "mapping keys are not allowed in this context"
    rollIndent s.mark.column none .blockMappingStart s.mark
  removeKey
  modify fun s => { s with keyAllowed := s.flowLevel == 0 }
  indicator .key

/-- Queues a `:` value indicator. If a simple key is possible on this level, the KEY token
goes in front of it (after a BLOCK-MAPPING-START when a block mapping opens there). -/
def valueIndicator : ScanM Unit := do
  let level := (← get).keys.size - 1
  if ← keyStillPossible level then
    let s ← get
    let k := s.keys.getD level default
    insertAt (k.number - s.taken) ⟨.key, k.mark, k.mark⟩
    rollIndent k.mark.column (some k.number) .blockMappingStart k.mark
    modify fun s => { s with keys := s.keys.set! level { k with possible := false } }
    forgetKey k.number
    modify fun s => { s with keyAllowed := false }
  else
    let s ← get
    if s.flowLevel == 0 then
      if !s.keyAllowed then fail s.mark "mapping values are not allowed in this context"
      rollIndent s.mark.column none .blockMappingStart s.mark
    modify fun s => { s with keyAllowed := s.flowLevel == 0 }
  indicator .value

/-- Queues a token that may start a simple key and after which none may start. -/
def keyCandidate (scan : ScanM Token) : ScanM Unit := do
  saveKey
  modify fun s => { s with keyAllowed := false }
  push (← scan)

/-- Whether a plain scalar may start at a character followed by another. -/
def startsPlain (flow : Bool) (c d : Char) : Bool :=
  !(isBlankOrEnd c || "-?:,[]\x7b\x7d#&*!|>'\"%@".toList.contains c || c == Char.ofNat 96) ||
    (c == '-' && !isBlank d) || (!flow && (c == '?' || c == ':') && !isBlankOrEnd d)

/-- Queues the token at the current character; reports whether a line comment may follow. -/
def tokenHere : ScanM Bool := do
  let s ← get
  let c ← peek 0
  let d ← peek 1
  let flow := s.flowLevel > 0
  if c == '[' then flowStart .flowSequenceStart
  else if c == '{' then flowStart .flowMappingStart
  else if c == ']' then flowEnd .flowSequenceEnd
  else if c == '}' then flowEnd .flowMappingEnd
  else if c == ',' then flowEntry
  else if c == '-' && isBlankOrEnd d then blockEntry
  else if c == '?' && (flow || isBlankOrEnd d) then complexKey
  else if c == ':' && (flow || isBlankOrEnd d) then valueIndicator
  else if c == '*' then keyCandidate (anchorOrAlias true)
  else if c == '&' then keyCandidate (anchorOrAlias false)
  else if c == '!' then keyCandidate tag
  else if (c == '|' || c == '>') && !flow then
    removeKey
    modify fun s => { s with keyAllowed := true }
    push (← blockScalar (c == '|'))
  else if c == '\'' || c == '"' then keyCandidate (quotedScalar (c == '\''))
  else if startsPlain flow c d then keyCandidate plainScalar
  else fail s.mark "found character that cannot start any token"
  pure true

/-- Scans the next token into the queue. -/
def fetchNext : ScanM Unit := do
  need 1
  if !(← get).started then return (← streamStart)
  let scanMark ← here
  toNextToken (← budget)
  let s ← get
  unrollIndent s.mark.column scanMark s.indents.length.succ
  need 4
  let s ← get
  let c ← peek 0
  let c1 ← peek 1
  let c2 ← peek 2
  let c3 ← peek 3
  if isNul c then streamEnd
  else if s.mark.column == 0 && c == '%' then
    resetBlocks
    push (← directive)
  else if s.mark.column == 0 && c == '-' && c1 == '-' && c2 == '-' && isBlankOrEnd c3 then
    documentMarker .documentStart
  else if s.mark.column == 0 && c == '.' && c1 == '.' && c2 == '.' && isBlankOrEnd c3 then
    documentMarker .documentEnd
  else
    let _ ← tokenHere
    match (← get).queue.getLast? with
    | some t => if t.kind != .blockEntry then lineComment
    | none => pure ()

/-- Scans until at least three tokens are queued and the first of them can no longer start a
simple key. -/
def fetchMore : Nat → ScanM Unit
  | 0 => pure ()
  | fuel + 1 => do
    let s ← get
    if s.queue.length ≥ 3 then
      match ← keyLevelOf s.taken with
      | none => return
      | some level => if !(← keyStillPossible level) then return
    fetchNext
    fetchMore fuel

/-- The next token. -/
def nextToken : ScanM Token := do
  if !(← get).ready then
    fetchMore ((← budget) + 8)
    modify fun s => { s with ready := true }
  match (← get).queue with
  | t :: _ => pure t
  | [] => fail .start "did not find expected <stream-end>"

/-- Moves past the next token. -/
def takeToken : ScanM Unit := modify fun s =>
  match s.queue with
  | t :: rest => { s with ready := false, taken := s.taken + 1, ended := t.kind == .streamEnd,
                          queue := rest }
  | [] => s

end ScanM

end WdmNet.Yaml

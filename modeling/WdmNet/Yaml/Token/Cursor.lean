import WdmNet.Yaml.Source
/-!
The state of a YAML scanner and the steps it is made of.

A `Scanner` holds the reader, the current mark, the queue of tokens scanned but not yet taken,
the number of tokens taken, and the context that decides what a character means: the stack of
block indentation columns, the flow nesting level, whether a simple key may start here, and
for each flow level the place where a simple key may have started.

A simple key is a key written without `?`: the scanner only learns that a node was a key when
it meets the `:` after it, and then inserts a KEY token (and, in block context, a
BLOCK-MAPPING-START token) in front of the node's tokens. A possible simple key stays possible
while it is on the current line and at most 1024 characters back; one at the column of the
current block indentation is required, and losing it is an error.

All steps run in `ScanM`: state, and the first syntax error.
-/

namespace WdmNet.Yaml

/-- A place where a simple key may have started. -/
structure SimpleKey where
  possible : Bool
  required : Bool
  /-- The number of the token the key would start with. -/
  number : Nat
  mark : Mark
  deriving Repr, Inhabited

/-- The state of a scanner. -/
structure Scanner where
  src : Source
  feed : Feed
  mark : Mark
  /-- Tokens scanned and not yet taken, the next one first. -/
  queue : List Token
  /-- The number of tokens taken. -/
  taken : Nat
  started : Bool
  /-- Whether the end of the stream has been taken. -/
  ended : Bool
  indent : Int
  indents : List Int
  keyAllowed : Bool
  /-- Possible simple keys, one per flow level, the innermost last. -/
  keys : Array SimpleKey
  /-- Token numbers of possible simple keys, with the level holding each. -/
  keyLevels : List (Nat × Nat)
  flowLevel : Nat
  /-- Line breaks read since the last character that is not blank. -/
  newlines : Nat
  /-- Whether the head of the queue is ready to be taken. -/
  ready : Bool
  deriving Inhabited

/-- A scanner at the start of a text. -/
def Scanner.ofString (s : String) : Scanner :=
  let src := Source.ofString s
  { src, feed := Feed.initial src, mark := .start, queue := [], taken := 0, started := false,
    ended := false, indent := -1, indents := [], keyAllowed := false, keys := #[],
    keyLevels := [], flowLevel := 0, newlines := 0, ready := false }

/-- Scanner steps: state and the first syntax error. -/
abbrev ScanM := StateT Scanner (Except SyntaxError)

namespace ScanM

/-- Stops with a scanning error; the problem is placed at the current mark. -/
def fail (context : Mark) (problem : String) : ScanM α := do
  let s ← get
  throw ⟨.scanner, problem, context, s.mark⟩

/-- The character `k` places ahead of the current one, NUL past the end. -/
def peek (k : Nat) : ScanM Char := do
  let s ← get
  pure (s.src.charAt (s.mark.index + k))

/-- Asks the reader for `n` characters from the current one on. -/
def need (n : Nat) : ScanM Unit := do
  let s ← get
  match Feed.need s.src s.feed s.mark.index n with
  | .ok f => set { s with feed := f }
  | .error e => throw e

/-- The current mark. -/
def here : ScanM Mark := do pure (← get).mark

/-- Moves past the current character. -/
def skip : ScanM Unit := modify fun s =>
  let c := s.src.charAt s.mark.index
  { s with
    newlines := if isBlank c then s.newlines else 0
    mark := ⟨s.mark.index + 1, s.mark.line, s.mark.column + 1⟩ }

/-- Moves past the current character, appending it to a text. -/
def readInto (acc : String) : ScanM String := do
  let c ← peek 0
  skip
  pure (acc.push c)

/-- Moves past a line break, if one is here; a carriage return with a line feed is one. -/
def skipLine : ScanM Unit := modify fun s =>
  let c := s.src.charAt s.mark.index
  let d := s.src.charAt (s.mark.index + 1)
  if c == '\r' && d == '\n' then
    { s with mark := ⟨s.mark.index + 2, s.mark.line + 1, 0⟩, newlines := s.newlines + 1 }
  else if isBreak c then
    { s with mark := ⟨s.mark.index + 1, s.mark.line + 1, 0⟩, newlines := s.newlines + 1 }
  else s

/-- Moves past a line break, appending it to a text: a line separator or paragraph separator
as itself, every other break as a line feed. -/
def readLineInto (acc : String) : ScanM String := do
  let s ← get
  let c := s.src.charAt s.mark.index
  let d := s.src.charAt (s.mark.index + 1)
  let step (width : Nat) (out : Char) : ScanM String := do
    set { s with mark := ⟨s.mark.index + width, s.mark.line + 1, 0⟩, newlines := s.newlines + 1 }
    pure (acc.push out)
  if c == '\r' && d == '\n' then step 2 '\n'
  else if c == '\r' || c == '\n' || c.toNat == 0x85 then step 1 '\n'
  else if c.toNat == 0x2028 || c.toNat == 0x2029 then step 1 c
  else pure acc

/-- Moves past the blanks here. -/
def skipBlanks : Nat → ScanM Unit
  | 0 => pure ()
  | fuel + 1 => do
    if isBlank (← peek 0) then
      skip
      need 1
      skipBlanks fuel

/-- Moves to the next line break or the end of the stream. -/
def skipToBreak : Nat → ScanM Unit
  | 0 => pure ()
  | fuel + 1 => do
    if !isBreakOrEnd (← peek 0) then
      skip
      need 1
      skipToBreak fuel

/-- A budget for loops over the characters left: one round per character and a few more. -/
def budget : ScanM Nat := do
  let s ← get
  pure (s.src.chars.size + 8 - s.mark.index)

/-- Appends a token to the queue. -/
def push (t : Token) : ScanM Unit := modify fun s => { s with queue := s.queue ++ [t] }

/-- Inserts a token into the queue at a position counted from its head. -/
def insertAt (i : Nat) (t : Token) : ScanM Unit :=
  modify fun s => { s with queue := s.queue.take i ++ t :: s.queue.drop i }

/-! ### Simple keys -/

/-- The level of the simple key starting with a token, if one is possible there. -/
def keyLevelOf (n : Nat) : ScanM (Option Nat) := do
  pure (((← get).keyLevels.find? (fun p : Nat × Nat => p.1 == n)).map (fun p : Nat × Nat => p.2))

/-- Forgets the token number of a simple key. -/
def forgetKey (n : Nat) : ScanM Unit :=
  modify fun s => { s with keyLevels := s.keyLevels.filter (fun p : Nat × Nat => p.1 != n) }

/-- Whether the simple key at a level is still possible: it is while on the current line and
at most 1024 characters back. A key that is no longer possible is dropped, and losing a
required one is an error. -/
def keyStillPossible (level : Nat) : ScanM Bool := do
  let s ← get
  let k := s.keys.getD level default
  if !k.possible then pure false
  else if k.mark.line < s.mark.line || k.mark.index + 1024 < s.mark.index then
    if k.required then fail k.mark "could not find expected ':'"
    else
      set { s with keys := s.keys.set! level { k with possible := false } }
      pure false
  else pure true

/-- Drops the possible simple key of the innermost level; dropping a required one is an
error. -/
def removeKey : ScanM Unit := do
  let s ← get
  let i := s.keys.size - 1
  let k := s.keys.getD i default
  if k.possible then
    if k.required then fail k.mark "could not find expected ':'"
    else
      set { s with keys := s.keys.set! i { k with possible := false } }
      forgetKey k.number

/-- Records that a simple key may start at the next token, if one may start here. It is
required in block context at the column of the indentation. -/
def saveKey : ScanM Unit := do
  let s ← get
  let required := s.flowLevel == 0 && s.indent == (s.mark.column : Int)
  if s.keyAllowed then
    let k : SimpleKey := ⟨true, required, s.taken + s.queue.length, s.mark⟩
    removeKey
    let s ← get
    let i := s.keys.size - 1
    set { s with keys := s.keys.set! i k,
                 keyLevels := (s.keyLevels.filter (fun p : Nat × Nat => p.1 != k.number)) ++ [(k.number, i)] }

/-- Enters a flow collection, with no possible simple key on the new level. -/
def enterFlow : ScanM Unit := do
  let s ← get
  set { s with keys := s.keys.push ⟨false, false, 0, .start⟩, flowLevel := s.flowLevel + 1 }
  if s.flowLevel + 1 > 10000 then fail .start "exceeded max depth of 10000"

/-- Leaves a flow collection, forgetting the simple key of its level. -/
def leaveFlow : ScanM Unit := do
  let s ← get
  if s.flowLevel > 0 then
    let k := s.keys.getD (s.keys.size - 1) default
    set { s with flowLevel := s.flowLevel - 1, keys := s.keys.pop,
                 keyLevels := s.keyLevels.filter (fun p : Nat × Nat => p.1 != k.number) }

/-! ### Block indentation -/

/-- In block context, opens a block collection at a column deeper than the current
indentation: pushes the indentation and queues the start token, at the position of a token
number or at the end. -/
def rollIndent (column : Int) (number : Option Nat) (kind : TokenKind) (m : Mark) :
    ScanM Unit := do
  let s ← get
  if s.flowLevel == 0 && s.indent < column then
    set { s with indents := s.indent :: s.indents, indent := column }
    if s.indents.length + 1 > 10000 then
      let k := s.keys.getD (s.keys.size - 1) default
      fail k.mark "exceeded max depth of 10000"
    let t : Token := ⟨kind, m, m⟩
    match number with
    | some n => insertAt (n - s.taken) t
    | none => push t

/-- Pops the block indentation levels deeper than a column, queueing a BLOCK-END for each,
marked one character before `m`. -/
def unrollIndent (column : Int) (m : Mark) : Nat → ScanM Unit
  | 0 => pure ()
  | fuel + 1 => do
    let s ← get
    if s.flowLevel == 0 && s.indent > column then
      let bm : Mark := ⟨m.index - 1, m.line, m.column⟩
      push ⟨.blockEnd, bm, bm⟩
      match s.indents with
      | i :: rest => modify fun s => { s with indent := i, indents := rest }
      | [] => modify fun s => { s with indent := -1 }
      unrollIndent column m fuel

end ScanM

end WdmNet.Yaml

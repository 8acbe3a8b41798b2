import WdmNet.Yaml.Token.Stream
/-!
The event stream of a YAML document, parsed from its tokens.

Events are what a document says, in order: the stream and each document start and end, a
scalar, an alias, and the start and end of each sequence and mapping. A node's anchor and tag
ride on its first event; an absent node (a key or value left out) is an empty plain scalar.

`ParseM.nextEvent` is the YAML 1.1 grammar as a state machine over tokens, with a stack of
states to return to and a stack of marks where open collections began. Tag handles are
expanded through the `%TAG` directives of the document and the two standard ones (`!` and
`!!`, the latter to `tag:yaml.org,2002:`). Only version 1.1 is accepted in a `%YAML`
directive.

One rule of the grammar is kept as the reference implementation has it: in a flow sequence,
a single-pair mapping whose key is left out (`[ ? : v ]`) also drops the token after the `?`.
-/

namespace WdmNet.Yaml

/-- The kinds of events, with what they carry. Tags are bytes, empty when none was given. -/
inductive EventKind where
  | streamStart
  | streamEnd
  | documentStart
  | documentEnd
  | alias (name : String)
  | scalar (anchor : Option String) (tag : List Nat) (value : String) (style : ScalarStyle)
  | sequenceStart (anchor : Option String) (tag : List Nat) (flow : Bool)
  | sequenceEnd
  | mappingStart (anchor : Option String) (tag : List Nat) (flow : Bool)
  | mappingEnd
  deriving Repr, Inhabited

/-- An event with the marks of its first and last token. -/
structure Event where
  kind : EventKind
  start : Mark
  stop : Mark
  deriving Repr, Inhabited

/-- The states of the parser: what it expects next. -/
inductive ParseState where
  | streamStart
  | implicitDocumentStart
  | documentStart
  | documentContent
  | documentEnd
  | blockNode
  | blockNodeOrIndentlessSequence
  | flowNode
  | blockSequenceFirstEntry
  | blockSequenceEntry
  | indentlessSequenceEntry
  | blockMappingFirstKey
  | blockMappingKey
  | blockMappingValue
  | flowSequenceFirstEntry
  | flowSequenceEntry
  | flowSequenceEntryMappingKey
  | flowSequenceEntryMappingValue
  | flowSequenceEntryMappingEnd
  | flowMappingFirstKey
  | flowMappingKey
  | flowMappingValue
  | flowMappingEmptyValue
  | finished
  deriving Repr, Inhabited, BEq

/-- The state of a parser. -/
structure Parser where
  scanner : Scanner
  state : ParseState
  states : List ParseState
  marks : List Mark
  /-- Tag handles of the current document with their prefixes. -/
  tagDirectives : List (List Nat × List Nat)
  deriving Inhabited

/-- A parser at the start of a text. -/
def Parser.ofString (s : String) : Parser := ⟨Scanner.ofString s, .streamStart, [], [], []⟩

/-- Parser steps: state and the first syntax error. -/
abbrev ParseM := StateT Parser (Except SyntaxError)

namespace ParseM

/-- Runs a scanner step on the parser's scanner. -/
def scan (m : ScanM α) : ParseM α := do
  let p ← get
  match m.run p.scanner with
  | .ok (a, s) => set { p with scanner := s }; pure a
  | .error e => throw e

/-- The next token. -/
def token : ParseM Token := scan ScanM.nextToken

/-- Moves past the next token. -/
def take : ParseM Unit := scan ScanM.takeToken

/-- Stops with a parse error at a mark. -/
def fail (problem : String) (place : Mark) : ParseM α := throw ⟨.parser, problem, .start, place⟩

/-- Stops with a parse error inside a construct that began at `context`. -/
def failIn (context : Mark) (problem : String) (place : Mark) : ParseM α :=
  throw ⟨.parser, problem, context, place⟩

/-- Returns to the state on top of the stack. -/
def popState : ParseM Unit := modify fun p =>
  match p.states with
  | s :: rest => { p with state := s, states := rest }
  | [] => { p with state := .finished }

/-- Saves a state to return to. -/
def pushState (s : ParseState) : ParseM Unit := modify fun p => { p with states := s :: p.states }

/-- Forgets the mark of the innermost open collection, returning it. -/
def popMark : ParseM Mark := do
  let p ← get
  match p.marks with
  | m :: rest => set { p with marks := rest }; pure m
  | [] => pure .start

/-- Enters a state. -/
def goto (s : ParseState) : ParseM Unit := modify fun p => { p with state := s }

/-- An empty plain scalar at a mark. -/
def emptyScalar (m : Mark) : Event := ⟨.scalar none [] "" .plain, m, m⟩

/-- The bytes of an ASCII text. -/
def bytesOf (s : String) : List Nat := s.toList.map Char.toNat

/-- The tag directives every document has. -/
def defaultTagDirectives : List (List Nat × List Nat) :=
  [(bytesOf "!", bytesOf "!"), (bytesOf "!!", bytesOf "tag:yaml.org,2002:")]

/-- Adds a tag directive; a handle given twice is an error unless duplicates are allowed, in
which case the first stays. -/
def addTagDirective (d : List Nat × List Nat) (allowDuplicate : Bool) (m : Mark) :
    ParseM Unit := do
  let p ← get
  if p.tagDirectives.any (·.1 == d.1) then
    if !allowDuplicate then fail "found duplicate %TAG directive" m
  else set { p with tagDirectives := p.tagDirectives ++ [d] }

/-- Reads the directives before a document and adds the standard tag directives. -/
def directives : ParseM Unit := do
  let rec loop : Nat → Bool → ParseM Unit
    | 0, _ => pure ()
    | fuel + 1, seenVersion => do
      let t ← token
      match t.kind with
      | .versionDirective major minor =>
        if seenVersion then fail "found duplicate %YAML directive" t.start
        if major != 1 || minor != 1 then fail "found incompatible YAML document" t.start
        take
        loop fuel true
      | .tagDirective handle pfx =>
        addTagDirective (handle, pfx) false t.start
        take
        loop fuel seenVersion
      | _ => pure ()
  loop ((← scan ScanM.budget) + 8) false
  let t ← token
  for d in defaultTagDirectives do addTagDirective d true t.start

/-- Whether a token kind is one of those that end a document's content. -/
def endsContent : TokenKind → Bool
  | .versionDirective .. | .tagDirective .. | .documentStart | .documentEnd | .streamEnd => true
  | _ => false

/-! ### The grammar -/

/-- The start of the stream. -/
def streamStart : ParseM Event := do
  let t ← token
  if t.kind != .streamStart then fail "did not find expected <stream-start>" t.start
  goto .implicitDocumentStart
  take
  pure ⟨.streamStart, t.start, t.stop⟩

/-- The start of a document, explicit or (for the first one) implicit, or the end of the
stream. -/
def documentStart (implicit : Bool) : ParseM Event := do
  let mut t ← token
  if !implicit then
    let rec extraEnds : Nat → ParseM Token
      | 0 => token
      | fuel + 1 => do
        let t ← token
        if t.kind == .documentEnd then take; extraEnds fuel else pure t
    t ← extraEnds ((← scan ScanM.budget) + 8)
  match t.kind with
  | .streamEnd =>
    goto .finished
    take
    pure ⟨.streamEnd, t.start, t.stop⟩
  | k =>
    if implicit && !(endsContent k) then
      directives
      pushState .documentEnd
      goto .blockNode
      pure ⟨.documentStart, t.start, t.stop⟩
    else
      let start := t.start
      directives
      let u ← token
      if u.kind != .documentStart then fail "did not find expected <document start>" u.start
      pushState .documentEnd
      goto .documentContent
      take
      pure ⟨.documentStart, start, u.stop⟩

/-- The content of an explicit document, empty when the document ends at once. -/
def documentContent (parseNode : ParseM Event) : ParseM Event := do
  let t ← token
  if endsContent t.kind then
    popState
    pure (emptyScalar t.start)
  else parseNode

/-- The end of a document, with or without `...`. -/
def documentEnd : ParseM Event := do
  let t ← token
  let stop ← if t.kind == .documentEnd then do take; pure t.stop else pure t.start
  modify fun p => { p with tagDirectives := [] }
  goto .documentStart
  pure ⟨.documentEnd, t.start, stop⟩

/-- A node: an alias, or properties (anchor and tag, in either order) and content. In block
context a block collection may be the content, and where `indentless` a sequence whose dashes
sit at the mapping's own indentation. Properties without content make an empty scalar. -/
def node (block indentless : Bool) : ParseM Event := do
  let t ← token
  if let .alias name := t.kind then
    popState
    take
    return ⟨.alias name, t.start, t.stop⟩
  let mut t := t
  let mut start := t.start
  let mut stop := t.start
  let mut anchor : Option String := none
  let mut tagged : Option (List Nat × List Nat × Mark) := none
  match t.kind with
  | .anchor name =>
    anchor := some name
    stop := t.stop
    take
    t ← token
    if let .tag handle suffix := t.kind then
      tagged := some (handle, suffix, t.start)
      stop := t.stop
      take
      t ← token
  | .tag handle suffix =>
    tagged := some (handle, suffix, t.start)
    stop := t.stop
    take
    t ← token
    if let .anchor name := t.kind then
      anchor := some name
      stop := t.stop
      take
      t ← token
  | _ => pure ()
  let tag ← match tagged with
    | none => pure []
    | some (handle, suffix, tagMark) =>
      if handle.isEmpty then pure suffix
      else
        match (← get).tagDirectives.find? (·.1 == handle) with
        | some (_, pfx) =>
          if (pfx ++ suffix).isEmpty then failIn start "found undefined tag handle" tagMark
          else pure (pfx ++ suffix)
        | none => failIn start "found undefined tag handle" tagMark
  match t.kind with
  | .blockEntry =>
    if indentless then
      goto .indentlessSequenceEntry
      return ⟨.sequenceStart anchor tag false, start, t.stop⟩
  | .scalar value style =>
    popState
    take
    return ⟨.scalar anchor tag value style, start, t.stop⟩
  | .flowSequenceStart =>
    goto .flowSequenceFirstEntry
    return ⟨.sequenceStart anchor tag true, start, t.stop⟩
  | .flowMappingStart =>
    goto .flowMappingFirstKey
    return ⟨.mappingStart anchor tag true, start, t.stop⟩
  | .blockSequenceStart =>
    if block then
      goto .blockSequenceFirstEntry
      return ⟨.sequenceStart anchor tag false, start, t.stop⟩
  | .blockMappingStart =>
    if block then
      goto .blockMappingFirstKey
      return ⟨.mappingStart anchor tag false, start, t.stop⟩
  | _ => pure ()
  if anchor.isSome || !tag.isEmpty then
    popState
    return ⟨.scalar anchor tag "" .plain, start, stop⟩
  failIn start "did not find expected node content" t.start

/-- Opens a collection: remembers where it began and moves past its start token. -/
def openCollection : ParseM Unit := do
  let t ← token
  modify fun p => { p with marks := t.start :: p.marks }
  take

/-- An entry of a block sequence, or its end. -/
def blockSequenceEntry (first : Bool) : ParseM Event := do
  if first then openCollection
  let t ← token
  match t.kind with
  | .blockEntry =>
    let m := t.stop
    take
    let t ← token
    if t.kind != .blockEntry && t.kind != .blockEnd then
      pushState .blockSequenceEntry
      node true false
    else
      goto .blockSequenceEntry
      pure (emptyScalar m)
  | .blockEnd =>
    popState
    let _ ← popMark
    take
    pure ⟨.sequenceEnd, t.start, t.stop⟩
  | _ =>
    let m ← popMark
    failIn m "did not find expected '-' indicator" t.start

/-- An entry of a sequence whose dashes sit at its mapping's indentation, or its end. -/
def indentlessSequenceEntry : ParseM Event := do
  let t ← token
  if t.kind == .blockEntry then
    let m := t.stop
    take
    let t ← token
    if t.kind != .blockEntry && t.kind != .key && t.kind != .value && t.kind != .blockEnd then
      pushState .indentlessSequenceEntry
      node true false
    else
      goto .indentlessSequenceEntry
      pure (emptyScalar m)
  else
    popState
    pure ⟨.sequenceEnd, t.start, t.start⟩

/-- A key of a block mapping, or its end. -/
def blockMappingKey (first : Bool) : ParseM Event := do
  if first then openCollection
  let t ← token
  match t.kind with
  | .key =>
    let m := t.stop
    take
    let t ← token
    if t.kind != .key && t.kind != .value && t.kind != .blockEnd then
      pushState .blockMappingValue
      node true true
    else
      goto .blockMappingValue
      pure (emptyScalar m)
  | .blockEnd =>
    popState
    let _ ← popMark
    take
    pure ⟨.mappingEnd, t.start, t.stop⟩
  | _ =>
    let m ← popMark
    failIn m "did not find expected key" t.start

/-- A value of a block mapping, empty when left out. -/
def blockMappingValue : ParseM Event := do
  let t ← token
  if t.kind == .value then
    let m := t.stop
    take
    let t ← token
    if t.kind != .key && t.kind != .value && t.kind != .blockEnd then
      pushState .blockMappingKey
      node true true
    else
      goto .blockMappingKey
      pure (emptyScalar m)
  else
    goto .blockMappingKey
    pure (emptyScalar t.start)

/-- An entry of a flow sequence, or its end. A `?` starts a single-pair mapping. -/
def flowSequenceEntry (first : Bool) : ParseM Event := do
  if first then openCollection
  let mut t ← token
  if t.kind != .flowSequenceEnd then
    if !first then
      if t.kind == .flowEntry then
        take
        t ← token
      else
        let m ← popMark
        failIn m "did not find expected ',' or ']'" t.start
    if t.kind == .key then
      goto .flowSequenceEntryMappingKey
      take
      return ⟨.mappingStart none [] true, t.start, t.stop⟩
    else if t.kind != .flowSequenceEnd then
      pushState .flowSequenceEntry
      return (← node false false)
  popState
  let _ ← popMark
  take
  pure ⟨.sequenceEnd, t.start, t.stop⟩

/-- The key of a single-pair mapping in a flow sequence. -/
def flowSequenceEntryMappingKey : ParseM Event := do
  let t ← token
  if t.kind != .value && t.kind != .flowEntry && t.kind != .flowSequenceEnd then
    pushState .flowSequenceEntryMappingValue
    node false false
  else
    let m := t.stop
    take
    goto .flowSequenceEntryMappingValue
    pure (emptyScalar m)

/-- The value of a single-pair mapping in a flow sequence. -/
def flowSequenceEntryMappingValue : ParseM Event := do
  let t ← token
  if t.kind == .value then
    take
    let t ← token
    if t.kind != .flowEntry && t.kind != .flowSequenceEnd then
      pushState .flowSequenceEntryMappingEnd
      return (← node false false)
    goto .flowSequenceEntryMappingEnd
    return emptyScalar t.start
  goto .flowSequenceEntryMappingEnd
  pure (emptyScalar t.start)

/-- The end of a single-pair mapping in a flow sequence. -/
def flowSequenceEntryMappingEnd : ParseM Event := do
  let t ← token
  goto .flowSequenceEntry
  pure ⟨.mappingEnd, t.start, t.start⟩

/-- A key of a flow mapping, or its end. -/
def flowMappingKey (first : Bool) : ParseM Event := do
  if first then openCollection
  let mut t ← token
  if t.kind != .flowMappingEnd then
    if !first then
      if t.kind == .flowEntry then
        take
        t ← token
      else
        let m ← popMark
        failIn m "did not find expected ',' or '\x7d'" t.start
    if t.kind == .key then
      take
      let u ← token
      if u.kind != .value && u.kind != .flowEntry && u.kind != .flowMappingEnd then
        pushState .flowMappingValue
        return (← node false false)
      goto .flowMappingValue
      return emptyScalar u.start
    else if t.kind != .flowMappingEnd then
      pushState .flowMappingEmptyValue
      return (← node false false)
  popState
  let _ ← popMark
  take
  pure ⟨.mappingEnd, t.start, t.stop⟩

/-- A value of a flow mapping, empty when left out. -/
def flowMappingValue (empty : Bool) : ParseM Event := do
  let t ← token
  if empty then
    goto .flowMappingKey
    return emptyScalar t.start
  if t.kind == .value then
    take
    let t ← token
    if t.kind != .flowEntry && t.kind != .flowMappingEnd then
      pushState .flowMappingKey
      return (← node false false)
    goto .flowMappingKey
    return emptyScalar t.start
  goto .flowMappingKey
  pure (emptyScalar t.start)

/-- The next event. After the end of the stream it is the end of the stream again. -/
def nextEvent : ParseM Event := do
  match (← get).state with
  | .streamStart => streamStart
  | .implicitDocumentStart => documentStart true
  | .documentStart => documentStart false
  | .documentContent => documentContent (node true false)
  | .documentEnd => documentEnd
  | .blockNode => node true false
  | .blockNodeOrIndentlessSequence => node true true
  | .flowNode => node false false
  | .blockSequenceFirstEntry => blockSequenceEntry true
  | .blockSequenceEntry => blockSequenceEntry false
  | .indentlessSequenceEntry => indentlessSequenceEntry
  | .blockMappingFirstKey => blockMappingKey true
  | .blockMappingKey => blockMappingKey false
  | .blockMappingValue => blockMappingValue
  | .flowSequenceFirstEntry => flowSequenceEntry true
  | .flowSequenceEntry => flowSequenceEntry false
  | .flowSequenceEntryMappingKey => flowSequenceEntryMappingKey
  | .flowSequenceEntryMappingValue => flowSequenceEntryMappingValue
  | .flowSequenceEntryMappingEnd => flowSequenceEntryMappingEnd
  | .flowMappingFirstKey => flowMappingKey true
  | .flowMappingKey => flowMappingKey false
  | .flowMappingValue => flowMappingValue false
  | .flowMappingEmptyValue => flowMappingValue true
  | .finished => pure ⟨.streamEnd, .start, .start⟩

end ParseM

end WdmNet.Yaml

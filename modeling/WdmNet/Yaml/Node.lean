import WdmNet.Yaml.Event
import WdmNet.Yaml.Resolve
/-!
The node graph of a YAML document, composed from its events.

Nodes live in an array and refer to each other by index: a collection lists its children (a
mapping's keys and values alternating), an alias the node its anchor names. An anchor names
its node from the node's start on, before the node's children are composed, so a collection
may contain an alias of itself; it is decoding such a node that fails.

Every node gets a tag: an explicit one (other than the non-specific `!`) in short form;
otherwise `!!seq` and `!!map` for collections, `!!str` for quoted and block scalars,
`!!merge` for a plain `<<`, and for other plain scalars the tag their text resolves to.

`composeFirst` reads the first document of a text. It stops after that document's end, so
nothing after it is read beyond what the scanner needs to find the end.
-/

namespace WdmNet.Yaml

/-- The kinds of nodes. -/
inductive NodeKind where
  | document
  | sequence
  | mapping
  | scalar
  | alias
  deriving BEq, Repr, Inhabited

/-- A node of the graph. -/
structure Node where
  kind : NodeKind
  /-- The tag in short form; empty for documents and aliases. -/
  tag : String
  /-- The text of a scalar, the anchor name of an alias, empty otherwise. -/
  value : String
  /-- The line the node starts on, from one. -/
  line : Nat
  /-- The children, by index; for a mapping keys and values alternate. -/
  content : Array Nat
  /-- For an alias, the index of the node its anchor names. -/
  target : Nat
  deriving Repr, Inhabited

/-- The state of a composer: the parser, an event looked at but not yet used, the nodes so
far and the anchors defined. -/
structure Composer where
  parser : Parser
  peeked : Option Event
  nodes : Array Node
  anchors : List (String × Nat)

/-- Composer steps; errors are full messages. -/
abbrev ComposeM := StateT Composer (Except String)

namespace ComposeM

/-- The next event, without using it. -/
def event : ComposeM Event := do
  let c ← get
  match c.peeked with
  | some e => pure e
  | none =>
    match ParseM.nextEvent.run c.parser with
    | .ok (e, p) =>
      set { c with parser := p, peeked := some e }
      pure e
    | .error err => throw err.message

/-- Uses the event looked at. -/
def consume : ComposeM Unit := modify fun c => { c with peeked := none }

/-- Adds a node for an event; the tag is the explicit one, or else the default one, or else
for a scalar the one its text resolves to. -/
def addNode (kind : NodeKind) (defaultTag : String) (tag : List Nat) (value : String)
    (e : Event) : ComposeM Nat := do
  let explicit := Text.decodeLossy tag
  let tag :=
    if explicit != "" && explicit != "!" then shortTag explicit
    else if defaultTag != "" then defaultTag
    else if kind == .scalar then resolvedTag value
    else ""
  let c ← get
  set { c with nodes := c.nodes.push ⟨kind, tag, value, e.start.line + 1, #[], 0⟩ }
  pure c.nodes.size

/-- Names a node by an anchor; a later anchor of the same name replaces it. -/
def register (anchor : Option String) (i : Nat) : ComposeM Unit :=
  match anchor with
  | some name => modify fun c => { c with anchors := (name, i) :: c.anchors }
  | none => pure ()

/-- Appends a child to a node. -/
def addChild (parent child : Nat) : ComposeM Unit :=
  modify fun c => { c with nodes := c.nodes.modify parent fun n => { n with content := n.content.push child } }

/-- Composes children of a node until an event ends it, at most `fuel` of them. -/
def children (node : ComposeM (Option Nat)) (parent : Nat) (ends : EventKind → Bool) :
    Nat → ComposeM Unit
  | 0 => pure ()
  | fuel + 1 => do
    if ends (← event).kind then return
    match ← node with
    | some child =>
      addChild parent child
      children node parent ends fuel
    | none => pure ()

/-- Whether an event ends a sequence. -/
def endsSequence : EventKind → Bool
  | .sequenceEnd => true
  | _ => false

/-- Whether an event ends a mapping. -/
def endsMapping : EventKind → Bool
  | .mappingEnd => true
  | _ => false

/-- Composes the node that starts at the next event, nesting at most `depth` deep; `none` at
the end of the stream. -/
def node (budget : Nat) : Nat → ComposeM (Option Nat)
  | 0 => throw "yaml: exceeded max depth of 10000"
  | depth + 1 => do
    let e ← event
    match e.kind with
    | .scalar anchor tag value style =>
      let defaultTag :=
        match style with
        | .plain => if value == "<<" then "!!merge" else ""
        | _ => "!!str"
      let i ← addNode .scalar defaultTag tag value e
      register anchor i
      consume
      pure (some i)
    | .alias name =>
      let i ← addNode .alias "" [] name e
      match ((← get).anchors.find? (·.1 == name)) with
      | none => throw ("yaml: unknown anchor '" ++ name ++ "' referenced")
      | some (_, t) =>
        modify fun c => { c with nodes := c.nodes.modify i fun n => { n with target := t } }
        consume
        pure (some i)
    | .sequenceStart anchor tag _ =>
      let i ← addNode .sequence "!!seq" tag "" e
      register anchor i
      consume
      children (node budget depth) i endsSequence budget
      consume
      pure (some i)
    | .mappingStart anchor tag _ =>
      let i ← addNode .mapping "!!map" tag "" e
      register anchor i
      consume
      children (node budget depth) i endsMapping budget
      consume
      pure (some i)
    | .documentStart =>
      let i ← addNode .document "" [] "" e
      consume
      if let some child ← node budget depth then addChild i child
      let _ ← event
      consume
      pure (some i)
    | .streamEnd => pure none
    | _ =>
      consume
      pure none

end ComposeM

/-- The node graph of the first document of a text and the index of its document node, or
`none` for a text without documents. -/
def composeFirst (text : String) : Except String (Option (Array Node × Nat)) :=
  let p := Parser.ofString text
  let size := p.scanner.src.chars.size
  let run : ComposeM (Option Nat) := do
    let e ← ComposeM.event
    match e.kind with
    | .streamStart => ComposeM.consume
    | _ => pure ()
    ComposeM.node (4 * size + 16) (size + 16)
  match run.run ⟨p, none, #[], []⟩ with
  | .ok (some root, c) => .ok (some (c.nodes, root))
  | .ok (none, _) => .ok none
  | .error e => .error e

end WdmNet.Yaml

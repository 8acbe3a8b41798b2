import WdmNet.Yaml.Node
import WdmNet.Schema.Basic
import WdmNet.Text.Quoted
/-!
Decoding a YAML node graph into a value of a shape.

A scalar decodes by what it resolves to (`resolve`): text fields take any scalar that is not
null, as written (a `!!binary` one decoded from base64); integer fields take integers, and
floats up to `2^63`, cut towards zero (what lies outside the 64-bit range becomes the least
64-bit integer); float fields take integers and floats; truth fields take truth values and
the words `y`, `yes`, `on`, `n`, `no`, `off` in three capitalisations. Null clears optional
values, lists and maps and leaves the rest; a map entry with a null value is still added.
Sequences decode into lists, dropping the items that fail; mappings into records by field key
and into integer maps.

Problems with a value of the wrong kind, a key that names no field, a field given twice and a
key given twice in one mapping are collected, each with its line, and decoding goes on
around them. A tag its text does not fit, bad base64, an alias of a node inside itself, a
merge of something that is not a mapping, and excessive aliasing stop decoding at once.

A merge key `<<` brings in the entries of a mapping, or of each mapping in a sequence, that
the mapping itself does not set; of the merged mappings the first to set a key wins.
-/

namespace WdmNet.Yaml

open Schema

/-- A key as merging compares it: text, an integer, or something else. -/
inductive KeyAtom where
  | text (s : String)
  | int (i : Int)
  | other
  deriving BEq, Repr, Inhabited

/-- The state of a decoder. -/
structure Decoder where
  nodes : Array Node
  /-- The problems collected so far. -/
  errors : Array String
  /-- Nodes decoded, and of them those decoded through an alias. -/
  decodes : Nat
  aliasDecodes : Nat
  aliasDepth : Nat
  /-- The aliases being decoded. -/
  active : List Nat
  /-- While a merge is under way, the keys already set. -/
  merged : Option (List KeyAtom)

/-- Decoder steps; errors that stop decoding are full messages. -/
abbrev DecodeM := StateT Decoder (Except String)

/-- The share of decodes allowed to come through aliases, falling from 99% to 10% as a
document grows from 400000 to 4000000 decodes. -/
def allowedAliasRatio (decodes : Nat) : Float :=
  if decodes ≤ 400000 then 0.99
  else if decodes ≥ 4000000 then 0.10
  else 0.99 - 0.89 * (Float.ofNat (decodes - 400000) / 3600000.0)

/-- Words that decode into a truth value besides `true` and `false`. -/
def truthWord (s : String) : Option Bool :=
  if ["y", "Y", "yes", "Yes", "YES", "on", "On", "ON"].contains s then some true
  else if ["n", "N", "no", "No", "NO", "off", "Off", "OFF"].contains s then some false
  else none

/-- The 64-bit integer a double converts to, cut towards zero; outside the 64-bit range it is
the least 64-bit integer. -/
def truncateToInt64 (x : Float) : Int :=
  if x < 9223372036854775808.0 && x ≥ -9223372036854775808.0 then x.toInt64.toInt
  else -(Nat.pow 2 63 : Int)

/-- The name of the type a shape decodes into; an optional value not yet entered is a
pointer. -/
def outName : Shape → String
  | .opt s => "*" ++ s.typeName
  | s => s.typeName

namespace DecodeM

/-- The node at an index. -/
def nodeAt (i : Nat) : DecodeM Node := do pure ((← get).nodes.getD i default)

/-- The short tag of a node, looking through an alias. -/
def tagOf (i : Nat) : DecodeM String := do
  let n ← nodeAt i
  match n.kind with
  | .alias => pure (← nodeAt n.target).tag
  | _ => pure n.tag

/-- Stops decoding with a message. -/
def stop (msg : String) : DecodeM α := throw ("yaml: " ++ msg)

/-- Collects a problem. -/
def report (msg : String) : DecodeM Unit := modify fun d => { d with errors := d.errors.push msg }

/-- Counts a decode; stops when aliases account for too much of a large document. -/
def count : DecodeM Unit := do
  modify fun d => { d with decodes := d.decodes + 1,
                           aliasDecodes := d.aliasDecodes + (if d.aliasDepth > 0 then 1 else 0) }
  let d ← get
  if d.aliasDecodes > 100 && d.decodes > 1000 &&
      Float.ofNat d.aliasDecodes / Float.ofNat d.decodes > allowedAliasRatio d.decodes then
    stop "document contains excessive aliasing"

/-- Collects the problem of a node that does not fit a type. -/
def mismatch (i : Nat) (tag typeName : String) : DecodeM Unit := do
  let n ← nodeAt i
  let tag := if n.tag != "" then n.tag else tag
  let shown :=
    if tag == "!!seq" || tag == "!!map" then n.value
    else if Text.byteLength n.value > 10 then " \x60" ++ Text.takeBytes n.value 7 ++ "...\x60"
    else " \x60" ++ n.value ++ "\x60"
  report ("line " ++ toString n.line ++ ": cannot unmarshal " ++ shortTag tag ++ shown ++
    " into " ++ typeName)

/-- Enters an alias, unless it is being decoded already. -/
def enterAlias (i : Nat) : DecodeM Unit := do
  let n ← nodeAt i
  if (← get).active.contains i then stop ("anchor '" ++ n.value ++ "' value contains itself")
  modify fun d => { d with active := i :: d.active, aliasDepth := d.aliasDepth + 1 }

/-- Leaves an alias. -/
def leaveAlias (i : Nat) : DecodeM Unit :=
  modify fun d => { d with active := d.active.erase i, aliasDepth := d.aliasDepth - 1 }

/-- What a scalar node resolves to, with `!!binary` text decoded. -/
def resolveNode (i : Nat) : DecodeM (String × Scalar) := do
  let n ← nodeAt i
  match resolve n.tag n.value with
  | .error msg => stop msg
  | .ok (tag, r) =>
    if tag == "!!binary" then
      match r with
      | .str s =>
        match decodeBase64 s with
        | some bytes => pure (tag, .str (Text.decodeLossy bytes))
        | none => stop "!!binary value contains invalid base64 data"
      | _ => pure (tag, r)
    else pure (tag, r)

/-- Null into a value: clears optional values, lists and maps, and leaves the rest. -/
def null (shape : Shape) (cur : Value) : Value × Bool :=
  match shape with
  | .opt _ | .list _ | .intMap _ => (.nil, true)
  | _ => (cur, false)

/-- Decodes a scalar node into a value of a shape. -/
def scalar (shape : Shape) (i : Nat) (cur : Value) : DecodeM (Value × Bool) := do
  let n ← nodeAt i
  let (tag, r) ← resolveNode i
  let fail : DecodeM (Value × Bool) := do
    mismatch i tag (outName shape)
    pure (cur, false)
  match r with
  | .null => pure (null shape cur)
  | _ =>
    match shape, r with
    | .text _, .str s => pure (.str (if tag == "!!binary" then s else n.value), true)
    | .text _, _ => pure (.str n.value, true)
    | .int, .int k => pure (.int k, true)
    | .int, .float x =>
      if x ≤ 9223372036854775808.0 then pure (.int (truncateToInt64 x), true) else fail
    | .float, .int k => pure (.float (Decimal.ofInt k), true)
    | .float, .uint k => pure (.float (Float.ofNat k), true)
    | .float, .float x => pure (.float x, true)
    | .bool, .bool b => pure (.bool b, true)
    | .bool, .str s =>
      match truthWord s with
      | some b => pure (.bool b, true)
      | none => fail
    | _, _ => fail

/-- Whether a node is a merge key: a `<<` scalar, plain or tagged `!!merge`. -/
def isMerge (i : Nat) : DecodeM Bool := do
  let n ← nodeAt i
  pure (n.kind == .scalar && n.value == "<<" && n.tag == "!!merge")

/-- The keys of a mapping node that appear more than once, as problems. -/
def duplicateKeys (i : Nat) : DecodeM Bool := do
  let n ← nodeAt i
  let keys := (List.range (n.content.size / 2)).map fun k => n.content.getD (2 * k) 0
  let before := (← get).errors.size
  let rec pairs : List Nat → DecodeM Unit
    | [] => pure ()
    | a :: rest => do
      let na ← nodeAt a
      for b in rest do
        let nb ← nodeAt b
        if na.kind == nb.kind && na.value == nb.value then
          report ("line " ++ toString nb.line ++ ": mapping key " ++ Text.quote nb.value ++
            " already defined at line " ++ toString na.line)
      pairs rest
  pairs keys
  pure ((← get).errors.size > before)

/-- A key as merging compares it, decoded as if into an untyped value. -/
def keyAtom : Nat → Nat → DecodeM (KeyAtom × Bool)
  | 0, _ => pure (.other, false)
  | fuel + 1, i => do
    count
    let n ← nodeAt i
    match n.kind with
    | .alias =>
      enterAlias i
      let r ← keyAtom fuel n.target
      leaveAlias i
      pure r
    | .scalar =>
      let (_, r) ← resolveNode i
      match r with
      | .str s => pure (.text s, true)
      | .timestamp => pure (.text n.value, true)
      | .int k => pure (.int k, true)
      | _ => pure (.other, true)
    | _ => pure (.other, true)

/-- Marks a key as set during a merge; reports whether it was set already. -/
def alreadyMerged (k : KeyAtom) : DecodeM Bool := do
  match (← get).merged with
  | some keys =>
    if keys.contains k then pure true
    else
      modify fun d => { d with merged := some (keys ++ [k]) }
      pure false
  | none => pure false

/-- Decoding into a shape from a node and a current value, for the steps below that decode
the parts of a node. -/
abbrev Decode := Shape → Nat → Value → DecodeM (Value × Bool)

/-- Decodes a sequence node into a list, keeping the items that decode. -/
def sequence (dec : Decode) (shape : Shape) (i : Nat) (cur : Value) : DecodeM (Value × Bool) := do
  let n ← nodeAt i
  match shape with
  | .list s =>
    let mut items : Array Value := #[]
    for c in n.content do
      let (v, ok) ← dec s c (Value.zero s)
      if ok then items := items.push v
    pure (.list items.toList [], true)
  | _ =>
    mismatch i "!!seq" (outName shape)
    pure (cur, false)

/-- Merges the mappings a merge key brings in into a value of a shape. The keys the mapping
itself has count as set; when this merge is part of another one, the keys of that one do and
the keys set here are added to them. -/
def merge (dec : Decode) (fuel : Nat) (shape : Shape) (parent m : Nat) (v : Value) :
    DecodeM Value := do
  let saved := (← get).merged
  if saved.isNone then
    let p ← nodeAt parent
    let mut keys : List KeyAtom := []
    for k in [0:p.content.size / 2] do
      let (a, ok) ← keyAtom fuel (p.content.getD (2 * k) 0)
      if ok then keys := keys ++ [a]
    modify fun d => { d with merged := some keys }
  let wantMap : DecodeM Unit := stop "map merge requires map or sequence of maps as the value"
  let mn ← nodeAt m
  let mut v := v
  match mn.kind with
  | .mapping => v := (← dec shape m v).1
  | .alias =>
    if (← nodeAt mn.target).kind != .mapping then wantMap
    v := (← dec shape m v).1
  | .sequence =>
    for c in mn.content do
      let cn ← nodeAt c
      if cn.kind == .alias then
        if (← nodeAt cn.target).kind != .mapping then wantMap
      else if cn.kind != .mapping then wantMap
      v := (← dec shape c v).1
  | _ => wantMap
  if saved.isNone then modify fun d => { d with merged := none }
  pure v

/-- Decodes a mapping node into a record: each key names a field. -/
def record (dec : Decode) (fuel : Nat) (t : Ty) (i : Nat) (cur : Value) :
    DecodeM (Value × Bool) := do
  let n ← nodeAt i
  let mut merged := (← get).merged
  modify fun d => { d with merged := none }
  let mut mergeNode : Option Nat := none
  let mut done : List String := []
  let mut v := cur
  for k in [0:n.content.size / 2] do
    let key := n.content.getD (2 * k) 0
    let val := n.content.getD (2 * k + 1) 0
    if ← isMerge key then
      mergeNode := some val
      continue
    let (name, ok) ← dec (.text "string") key (.str "")
    if !ok then continue
    let sname := name.asStr
    if let some keys := merged then
      if keys.contains (.text sname) then continue
      merged := some (keys ++ [.text sname])
    let keyNode ← nodeAt key
    match t.fields.find? (·.key == sname) with
    | some f =>
      if done.contains sname then
        report ("line " ++ toString keyNode.line ++ ": field " ++ sname ++
          " already set in type " ++ t.qualifiedName)
      else
        done := sname :: done
        let x := v.get f.key
        let x := if x.isNil then Value.zero f.shape else x
        let (x, _) ← dec f.shape val x
        v := v.set f.key x
    | none =>
      report ("line " ++ toString keyNode.line ++ ": field " ++ sname ++ " not found in type " ++
        t.qualifiedName)
  modify fun d => { d with merged := merged }
  match mergeNode with
  | some m => pure (← merge dec fuel (.record t) i m v, true)
  | none => pure (v, true)

/-- Sets the entry of a key in a map, in place if the key is there. -/
def setEntry (entries : List (Int × Value)) (k : Int) (x : Value) : List (Int × Value) :=
  if entries.any (·.1 == k) then entries.map fun e => if e.1 == k then (k, x) else e
  else entries ++ [(k, x)]

/-- Decodes a mapping node into an integer map. An entry whose value does not decode is left
out, unless the value is null and the key is new. -/
def intMap (dec : Decode) (fuel : Nat) (s : Shape) (i : Nat) (cur : Value) :
    DecodeM (Value × Bool) := do
  let n ← nodeAt i
  let mut merged := (← get).merged
  modify fun d => { d with merged := none }
  let fresh := cur.isNil
  let mut entries := cur.asMap
  let mut mergeNode : Option Nat := none
  for k in [0:n.content.size / 2] do
    let key := n.content.getD (2 * k) 0
    let val := n.content.getD (2 * k + 1) 0
    if ← isMerge key then
      mergeNode := some val
      continue
    let (kv, ok) ← dec .int key (.int 0)
    if !ok then continue
    let kk := kv.asInt
    if let some keys := merged then
      if keys.contains (.int kk) then continue
      merged := some (keys ++ [.int kk])
    let (x, good) ← dec s val (Value.zero s)
    let nullValue := (← tagOf val) == "!!null"
    if good || (nullValue && (fresh || !entries.any (·.1 == kk))) then
      entries := setEntry entries kk x
  modify fun d => { d with merged := merged }
  match mergeNode with
  | some m => pure (← merge dec fuel (.intMap s) i m (.map entries), true)
  | none => pure (.map entries, true)

/-- Decodes a mapping node into a record or an integer map, after checking for keys given
twice. -/
def mapping (dec : Decode) (fuel : Nat) (shape : Shape) (i : Nat) (cur : Value) :
    DecodeM (Value × Bool) := do
  if ← duplicateKeys i then return (cur, false)
  match shape with
  | .record t => record dec fuel t i cur
  | .intMap s => intMap dec fuel s i cur
  | _ =>
    mismatch i "!!map" (outName shape)
    pure (cur, false)

/-- Decodes a node into a value of a shape, starting from the current value, at most `fuel`
nodes deep; reports whether the node was decoded. The value may change even when it was not,
as an optional value is entered before its content is looked at. -/
def node : Nat → Decode
  | 0, _, _, cur => pure (cur, false)
  | fuel + 1, shape, i, cur => do
    count
    let n ← nodeAt i
    match n.kind with
    | .document =>
      match n.content.toList with
      | [child] =>
        let (v, _) ← node fuel shape child cur
        pure (v, true)
      | _ => pure (cur, false)
    | .alias =>
      enterAlias i
      let r ← node fuel shape n.target cur
      leaveAlias i
      pure r
    | kind =>
      let (shape, cur) := match shape with
        | .opt s => if n.tag == "!!null" then (shape, cur) else (s, if cur.isNil then Value.zero s else cur)
        | s => (s, cur)
      match kind with
      | .scalar => scalar shape i cur
      | .sequence => sequence (node fuel) shape i cur
      | _ => mapping (node fuel) fuel shape i cur

end DecodeM

/-- Decodes the document node of a graph into a record type: the value, or the problems
collected (each on a line of its own) or the message that stopped decoding. -/
def decodeDocument (nodes : Array Node) (root : Nat) (t : Ty) : Except String Value :=
  let start : Decoder := ⟨nodes, #[], 0, 0, 0, [], none⟩
  match (DecodeM.node (2 * nodes.size + 8) (.record t) root (.record [])).run start with
  | .error e => .error e
  | .ok ((v, _), d) =>
    if d.errors.isEmpty then .ok v
    else .error ("yaml: unmarshal errors:\n  " ++ "\n  ".intercalate d.errors.toList)

end WdmNet.Yaml

import WdmNet.Schema.Basic
import WdmNet.Json.Value
import WdmNet.Decimal.Notation
import WdmNet.Text.Quoted
/-!
Reading JSON documents into values of a shape.

The rules are those of the standard decoder of typed records:

* object keys match field keys exactly or, failing that, up to case;
* a key that matches no field is an error in strict mode and ignored otherwise;
* `null` clears a list, map or optional value and leaves anything else unchanged;
* decoding updates the current value: a repeated key decodes again into what the first one
  left, and maps gain entries; list items decode into the items already in the list's
  storage, stale ones included, and the storage grows as a growing array does (doubling up
  to 256 items, then by a quarter and 192 more, rounded up to the memory block that holds it);
* an integer must be written without fraction or exponent and fit in 64 bits, a float must
  be finite as a double;
* a value of the wrong kind is refused with the kind found (`string`, `number`, `bool`,
  `object`, `array`, or `number` and the literal when the number itself does not fit), the
  type wanted, and the path to it: field keys, list indices and map keys after the name of
  the outermost record, joined by dots. The path is called a struct field unless the text
  after its last dot is all digits, as a list index is;
* a map key is read before its value, so a key that is no integer is reported and its value
  skipped; the key `null` stands for the zero key.

The first error in document order is reported.
-/

namespace WdmNet.Schema

/-- Where a reader is in a document: the outermost record, once a field of it was entered,
and the steps taken below it. -/
structure Trail where
  root : Option String
  steps : List String
  deriving Repr, Inhabited

namespace Trail

/-- One step further down, into a list item or map entry. -/
def push (t : Trail) (step : String) : Trail := { t with steps := t.steps ++ [step] }

/-- Into a field of a record. -/
def enter (t : Trail) (ty : Ty) (key : String) : Trail :=
  { root := t.root <|> some ty.shortName, steps := t.steps ++ [key] }

/-- Whether a dotted path reads as ending in a list index: the text after its last dot is
digits only. -/
def endsInIndex (path : String) : Bool :=
  let last := ((path.splitOn ".").getLast?).getD ""
  !last.isEmpty && last.all Char.isDigit

/-- The message for a value of the wrong kind. -/
def typeError (t : Trail) (found : String) (s : Shape) : String :=
  match t.root with
  | some r =>
    let path := r ++ "." ++ ".".intercalate t.steps
    "json: cannot unmarshal " ++ found ++ " into " ++
      (if endsInIndex path then "" else "Go struct field ") ++ path ++ " of type " ++ s.typeName
  | none => "json: cannot unmarshal " ++ found ++ " into Go value of type " ++ s.typeName

end Trail

/-- A key character folded for case-insensitive matching: ASCII letters to upper case, and
the two non-ASCII letters whose simple case folding reaches an ASCII one (long s, Kelvin sign)
to those. The dotted capital and dotless small i have no simple folding and stay apart. -/
def foldChar (c : Char) : Char :=
  if 'a' ≤ c && c ≤ 'z' then Char.ofNat (c.toNat - 32)
  else if c.toNat == 0x17F then 'S'
  else if c.toNat == 0x212A then 'K'
  else c

/-- A key folded for case-insensitive matching. -/
def foldKey (s : String) : String := String.ofList (s.toList.map foldChar)

/-- The field a key names: the one of exactly that key, else the first equal up to case. -/
def Ty.field? (t : Ty) (key : String) : Option Field :=
  match t.fields.find? (·.key == key) with
  | some f => some f
  | none => t.fields.find? fun f => foldKey f.key == foldKey key

/-- The kind of a JSON value, as errors name it. -/
def kindOf : Json → String
  | .null => "null"
  | .bool _ => "bool"
  | .num _ => "number"
  | .str _ => "string"
  | .arr _ => "array"
  | .obj _ => "object"

/-- The largest 64-bit integer plus one. -/
def int64Bound : Nat := Nat.pow 2 63

/-- A decimal integer with an optional sign that fits in 64 bits. -/
def parseInt64? (s : String) : Option Int :=
  let (neg, ds) := match s.toList with
    | '-' :: r => (true, r)
    | '+' :: r => (false, r)
    | r => (false, r)
  if ds.isEmpty || !ds.all Char.isDigit then none
  else
    let n := ds.foldl (fun n c => 10 * n + (c.toNat - 48)) 0
    if neg then (if n ≤ int64Bound then some (-(n : Int)) else none)
    else if n < int64Bound then some n else none

/-- A finite double written as a decimal numeral. -/
def parseFloat? (s : String) : Option Float :=
  match Decimal.Scaled.ofNumeral? s with
  | some d => let x := d.toFloat; if x.isInf then none else some x
  | none => none

/-- The memory block sizes small arrays grow into, in bytes. -/
def blockSizes : List Nat :=
  [8, 16, 24, 32, 48, 64, 80, 96, 112, 128, 144, 160, 176, 192, 208, 224, 240, 256, 288, 320,
   352, 384, 416, 448, 480, 512, 576, 640, 704, 768, 896, 1024, 1152, 1280, 1408, 1536, 1792,
   2048, 2304, 2688, 3072, 3200, 3456, 4096, 4864, 5376, 6144, 6528, 6784, 6912, 8192, 9472,
   9728, 10240, 10880, 12288, 13568, 14336, 16384, 18432, 19072, 20480, 21760, 24576, 27264,
   28672, 32768]

/-- The usable bytes of the block for a request of `n` bytes: the smallest block size that
fits, where a block over 512 bytes that holds references also carries an 8-byte header, or
whole pages of 8192 bytes beyond the largest block. -/
def blockBytes (n : Nat) (refs : Bool) : Nat :=
  if n ≤ 32760 then
    let header := if refs && n > 512 then 8 else 0
    match blockSizes.find? (n + header ≤ ·) with
    | some b => b - header
    | none => n
  else (n + 8191) / 8192 * 8192

/-- The bytes a value of a shape takes in storage and whether it holds references, looking at
most `depth` records deep. Fields are laid out in order, each after padding to its alignment
(one byte for truth values, eight for everything else), and a record is padded to eight. -/
def Shape.storage : Nat → Shape → Nat × Bool
  | _, .text _ => (16, true)
  | _, .int | _, .float => (8, false)
  | _, .bool => (1, false)
  | _, .list _ => (24, true)
  | _, .intMap _ | _, .opt _ => (8, true)
  | 0, .record _ => (8, true)
  | d + 1, .record t =>
    let (off, refs) := t.fields.foldl (fun (off, refs) f =>
      let (n, r) := Shape.storage d f.shape
      let start := if f.shape == .bool then off else (off + 7) / 8 * 8
      (start + n, refs || r)) (0, false)
    ((off + 7) / 8 * 8, refs)

/-- The number of items a list's storage holds after growing by one item from `cap` items. -/
def grownCapacity (s : Shape) (cap : Nat) : Nat :=
  let want := if cap == 0 then 1 else if cap < 256 then 2 * cap else cap + (cap + 768) / 4
  let (size, refs) := Shape.storage 4 s
  if size == 0 then want else blockBytes (want * size) refs / size

/-- The map with the key bound to the value, in place if it was bound. -/
def bindKey (es : List (Int × Value)) (k : Int) (v : Value) : List (Int × Value) :=
  if es.any (·.1 == k) then es.map fun (k', v') => if k' == k then (k, v) else (k', v')
  else es ++ [(k, v)]

/-- The current value of a field, zero when absent. -/
def currentOf (v : Value) (f : Field) : Value :=
  match v.get f.key with
  | .nil => Value.zero f.shape
  | x => x

mutual

/-- Decodes a JSON value into a value of the shape, updating the current one. -/
def fromJson (strict : Bool) (trail : Trail) (shape : Shape) (j : Json) (cur : Value) :
    Except String Value :=
  match j with
  | .null =>
    match shape with
    | .list _ | .intMap _ | .opt _ => .ok .nil
    | _ => .ok cur
  | .bool b =>
    match shape with
    | .bool | .opt .bool => .ok (.bool b)
    | s => .error (trail.typeError "bool" s)
  | .str s =>
    match shape with
    | .text _ | .opt (.text _) => .ok (.str s)
    | sh => .error (trail.typeError "string" sh)
  | .num lit =>
    match shape with
    | .int | .opt .int =>
      match parseInt64? lit with
      | some i => .ok (.int i)
      | none => .error (trail.typeError ("number " ++ lit) .int)
    | .float | .opt .float =>
      match parseFloat? lit with
      | some x => .ok (.float x)
      | none => .error (trail.typeError ("number " ++ lit) .float)
    | s => .error (trail.typeError "number" s)
  | .arr items =>
    match shape with
    | .list s | .opt (.list s) =>
      let store := match cur with
        | .list xs spare => xs ++ spare
        | _ => []
      fromJsonItems strict trail s 0 items store store.length []
    | s => .error (trail.typeError "array" s)
  | .obj members =>
    match shape with
    | .record t | .opt (.record t) =>
      fromJsonMembers strict trail t members (match cur with | .nil => .record [] | v => v)
    | .intMap s | .opt (.intMap s) => fromJsonEntries strict trail s members cur.asMap
    | s => .error (trail.typeError "object" s)

/-- Decodes the items of an array into the storage of a list: `store` holds the slots from
item `i` on, of a storage of `cap` items. An item past the storage grows it, with zero slots;
an empty array leaves an empty list with no storage. -/
def fromJsonItems (strict : Bool) (trail : Trail) (s : Shape) (i : Nat) :
    List Json → List Value → Nat → List Value → Except String Value
  | [], store, _, acc => .ok (if acc.isEmpty then .list [] [] else .list acc.reverse store)
  | j :: js, store, cap, acc =>
    let (old, rest, cap) := match store with
      | o :: r => (o, r, cap)
      | [] =>
        let grown := grownCapacity s cap
        (Value.zero s, List.replicate (grown - i - 1) (Value.zero s), grown)
    match fromJson strict (trail.push (toString i)) s j old with
    | .ok v => fromJsonItems strict trail s (i + 1) js rest cap (v :: acc)
    | .error e => .error e

/-- Decodes the members of an object into the fields of a record. -/
def fromJsonMembers (strict : Bool) (trail : Trail) (t : Ty) :
    List (String × Json) → Value → Except String Value
  | [], v => .ok v
  | (k, j) :: rest, v =>
    match t.field? k with
    | none =>
      if strict then .error ("json: unknown field " ++ Text.quote k)
      else fromJsonMembers strict trail t rest v
    | some f =>
      match fromJson strict (trail.enter t f.key) f.shape j (currentOf v f) with
      | .ok x => fromJsonMembers strict trail t rest (v.set f.key x)
      | .error e => .error e

/-- Decodes the members of an object into a map with integer keys. -/
def fromJsonEntries (strict : Bool) (trail : Trail) (s : Shape) :
    List (String × Json) → List (Int × Value) → Except String Value
  | [], acc => .ok (.map acc)
  | (k, j) :: rest, acc =>
    let here := trail.push k
    match (if k == "null" then some 0 else parseInt64? k) with
    | none => .error (here.typeError ("number " ++ k) .int)
    | some n =>
      match fromJson strict here s j (Value.zero s) with
      | .error e => .error e
      | .ok v => fromJsonEntries strict trail s rest (bindKey acc n v)

end

/-- Decodes a JSON document into a record type. -/
def decodeJson (strict : Bool) (t : Ty) (j : Json) : Except String Value :=
  fromJson strict ⟨none, []⟩ (.record t) j (.record [])

end WdmNet.Schema

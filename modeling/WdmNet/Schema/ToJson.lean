import WdmNet.Schema.Basic
import WdmNet.Json.Value
import WdmNet.Decimal.Notation
/-!
Writing values of a shape as JSON documents.

Record fields come in declaration order; a field marked `omitEmpty` is left out when its
value is empty (false, zero, empty text, an absent or empty list or map, an absent optional
value). Absent lists and maps are `null`; map keys are written as decimal text and sorted as
text. Numbers are written as the standard encoder writes doubles, and a number that is not
finite cannot be written at all.
-/

namespace WdmNet.Schema

/-- The shortest text of a double in general notation, as messages show it. -/
def floatWord (x : Float) : String :=
  if x.isNaN then "NaN" else if x.isInf then (if x > 0 then "+Inf" else "-Inf")
  else Decimal.generalText x

/-- Whether a field value of this shape is left out when `omitEmpty` is set; an optional
value counts as empty only when absent. -/
def emptyAt (s : Shape) (v : Value) : Bool :=
  match s with
  | .opt _ => v.isNil
  | _ => v.isEmpty

/-- A value as JSON, at most `fuel` levels deep. -/
def toJson : Nat → Shape → Value → Except String Json
  | 0, _, _ => .ok .null
  | fuel + 1, shape, v =>
    match shape, v with
    | _, .nil => .ok .null
    | .text _, .str s => .ok (.str s)
    | .int, .int i => .ok (.ofInt i)
    | .float, .float x =>
      if x.isNaN || x.isInf then .error ("json: unsupported value: " ++ floatWord x)
      else .ok (.ofFloat x)
    | .bool, .bool b => .ok (.bool b)
    | .list s, .list xs _ => do
      let items ← xs.mapM (toJson fuel s)
      pure (.arr items)
    | .intMap s, .map es => do
      let sorted := es.mergeSort fun a b => decide (toString a.1 ≤ toString b.1)
      let members ← sorted.mapM fun (k, x) => do pure (toString k, ← toJson fuel s x)
      pure (.obj members)
    | .record t, v => do
      let members ← t.fields.filterMapM fun f => do
        let x := v.get f.key
        let x := if x.isNil then Value.zero f.shape else x
        if f.omitEmpty && emptyAt f.shape x then pure none
        else pure (some (f.key, ← toJson fuel f.shape x))
      pure (.obj members)
    | .opt s, v => toJson fuel s v
    | s, v => toJson fuel s (if v.isNil then .nil else Value.zero s)

/-- A record as JSON. -/
def encodeJson (t : Ty) (v : Value) : Except String Json := toJson 32 (.record t) v

end WdmNet.Schema

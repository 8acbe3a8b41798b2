import WdmNet.Json.Value
import WdmNet.Decimal.Notation
/-!
Message payloads of the control service.

Requests and responses of the control service are documents of doubles, texts, truth values,
lists and records, with the keys of a record unordered and unique. A JSON document becomes a
payload with every number read as a double and, of a key given twice, the last value kept.

A payload is written as JSON with the keys of each record in order and numbers in the notation
of data files; a number that is not finite cannot be written.
-/

namespace WdmNet.Control

/-- A payload of the control service. -/
inductive Payload where
  | null
  | bool (b : Bool)
  | num (x : Float)
  | str (s : String)
  | list (items : List Payload)
  | record (fields : List (String × Payload))
  deriving Repr, Inhabited

/-- The members with, of each key, the last value, ordered by key. -/
def lastByKey {α : Type} (ms : List (String × α)) : List (String × α) :=
  let kept := ms.reverse.foldl (fun acc (k, v) => if acc.any (·.1 == k) then acc else acc ++ [(k, v)]) []
  kept.mergeSort fun a b => decide (a.1 ≤ b.1)

/-- The double of a JSON numeral; out of range it is infinite. -/
def numeralValue (lit : String) : Float :=
  match Decimal.Scaled.ofNumeral? lit with
  | some d => d.toFloat
  | none => 0

mutual

/-- The payload of a JSON document. -/
def Payload.ofJson : Json → Payload
  | .null => .null
  | .bool b => .bool b
  | .num lit => .num (numeralValue lit)
  | .str s => .str s
  | .arr items => .list (Payload.ofJsonItems items)
  | .obj ms => .record (lastByKey (Payload.ofJsonMembers ms))

/-- The payloads of JSON items. -/
def Payload.ofJsonItems : List Json → List Payload
  | [] => []
  | j :: js => Payload.ofJson j :: Payload.ofJsonItems js

/-- The payloads of JSON members. -/
def Payload.ofJsonMembers : List (String × Json) → List (String × Payload)
  | [] => []
  | (k, j) :: ms => (k, Payload.ofJson j) :: Payload.ofJsonMembers ms

end

/-- The error of writing a number that is not finite. -/
def unsupportedNumber (x : Float) : String := "json: unsupported value: " ++ Decimal.generalText x

mutual

/-- A payload as JSON, records with their keys in order; the first number that cannot be
written, in that order, is the error. -/
def Payload.toJson : Payload → Except String Json
  | .null => .ok .null
  | .bool b => .ok (.bool b)
  | .num x => if x.isNaN || x.isInf then .error (unsupportedNumber x) else .ok (.num (Decimal.jsonText x))
  | .str s => .ok (.str s)
  | .list items => return .arr (← Payload.itemsToJson items)
  | .record fs => return .obj (← (lastByKey (Payload.fieldsToJson fs)).mapM fun (k, r) => return (k, ← r))

/-- Items as JSON. -/
def Payload.itemsToJson : List Payload → Except String (List Json)
  | [] => .ok []
  | p :: ps => return (← p.toJson) :: (← Payload.itemsToJson ps)

/-- Each field as JSON or the error of writing it. -/
def Payload.fieldsToJson : List (String × Payload) → List (String × Except String Json)
  | [] => []
  | (k, p) :: ps => (k, p.toJson) :: Payload.fieldsToJson ps

end

/-- The text of a field of a record; empty when it is missing or not text. -/
def Payload.text (p : Payload) (key : String) : String :=
  match p with
  | .record fs => match fs.find? (·.1 == key) with
    | some (_, .str s) => s
    | _ => ""
  | _ => ""

end WdmNet.Control

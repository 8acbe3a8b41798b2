import WdmNet.Control.Payload
import WdmNet.Schema.FromJson
import WdmNet.Failure
import WdmNet.Text.Blank
/-!
Requests of the control service.

A request payload is read as its record type: it is written as JSON and decoded strictly, so a
key that names no field, a value of the wrong kind or a number that does not fit is refused
with the decoder's message. Each record type names the fields that must hold text other than
blanks. Every refusal is an invalid request; a missing payload is the empty request.
-/

namespace WdmNet.Control

/-- The fields of a request type that must hold text other than blanks, in the order they are
checked. -/
def requiredFields : Schema.Ty → List String
  | .switchRuleRequest => ["roadm", "id"]
  | .deleteRuleRequest | .voaRequest => ["roadm"]
  | .bindingRequest | .turnOnRequest | .turnOffRequest => ["terminal"]
  | .nameRequest => ["name"]
  | .gainRequest => ["amplifier"]
  | .signalsRequest => ["node"]
  | .monitorRequest => ["kind", "name"]
  | _ => []

/-- The first required field of a decoded request that holds only blanks. -/
def missingField? (ty : Schema.Ty) (v : Schema.Value) : Option String :=
  (requiredFields ty).find? fun k => (Text.trimSpace (v.get k).asStr).isEmpty

/-- Reads a request payload as a record type. -/
def decodeRequest (ty : Schema.Ty) : Option Payload → Except Failure Schema.Value
  | none => .error (.of .invalidRequest "empty request")
  | some p =>
    match p.toJson with
    | .error m => .error (.of .invalidRequest m)
    | .ok j =>
      match Schema.decodeJson true ty j with
      | .error m => .error (.of .invalidRequest m)
      | .ok v =>
        match missingField? ty v with
        | some k => .error (.of .invalidRequest (k ++ " is required"))
        | none => .ok v

end WdmNet.Control

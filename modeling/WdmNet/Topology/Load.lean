import WdmNet.Topology.Description
import WdmNet.Schema.FromJson
import WdmNet.Schema.ToJson
import WdmNet.Json.Parse
import WdmNet.Json.Print
import WdmNet.Yaml.Document
/-!
Reading and writing description documents.

A description is JSON or YAML. Reading is strict: a key that names no field is an error.
Only the first JSON value or YAML document counts; JSON `null` and an empty YAML document are
the empty description. A description that reads is then validated.

Writing gives the indented JSON of the standard encoder, or YAML with four-space
indentation.
-/

namespace WdmNet

/-- The two document formats. -/
inductive Format where
  | yaml
  | json
  deriving DecidableEq, Repr, Inhabited

/-- The failure of a description. -/
def invalidDescription (detail : String) : Failure := .of .invalidDescription detail

namespace Format

/-- The name of a format. -/
def name : Format → String
  | yaml => "yaml"
  | json => "json"

/-- The format of exactly this name. -/
def ofName? (s : String) : Option Format :=
  if s == "yaml" then some yaml else if s == "json" then some json else none

/-- The extension of a path: from the last dot of its last element, or nothing. -/
def extension (path : String) : String :=
  let base := ((path.splitOn "/").getLast?).getD ""
  match (base.splitOn ".").getLast? with
  | some last => if base.contains '.' then "." ++ last else ""
  | none => ""

/-- The format a file name's extension names: `.yaml` or `.yml`, or `.json`, in any case. -/
def ofPath (path : String) : Except Failure Format :=
  let ext := extension path
  let e := Text.lower ext
  if e == ".yaml" || e == ".yml" then .ok yaml
  else if e == ".json" then .ok json
  else .error (invalidDescription ("unsupported file extension " ++ q ext))

end Format

/-- Reads a description from text in a format given by name, and validates it. -/
def loadDescription (text : String) (format : String) : Except Failure Description := do
  let value ← match Format.ofName? format with
    | some .json =>
      match Json.readFirst text with
      | .error e => throw (invalidDescription e.message)
      | .ok j =>
        match Schema.decodeJson true .description j with
        | .ok v => pure v
        | .error m => throw (invalidDescription m)
    | some .yaml =>
      match Yaml.decodeFirst .description text with
      | .ok v => pure v
      | .error m => throw (invalidDescription m)
    | none => throw (invalidDescription ("unknown format " ++ q format))
  let d := Description.ofValue value
  d.validate
  pure d

/-- A description as a JSON document. -/
def Description.toJson (d : Description) : Except Failure Json :=
  match Schema.encodeJson .description d.toValue with
  | .ok j => .ok j
  | .error m => .error (.plain m)

/-- A description as text in a format given by name. -/
def Description.encode (d : Description) (format : String) : Except Failure String :=
  match Format.ofName? format with
  | some .json => do
    let j ← d.toJson
    pure (Json.indented j)
  | some .yaml => .ok (Yaml.encode .description d.toValue)
  | none => .error (invalidDescription ("unknown format " ++ q format))

end WdmNet

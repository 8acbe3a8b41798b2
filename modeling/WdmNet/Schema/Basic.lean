/-!
The record types of descriptions and requests, described as data.

Each record type lists its fields in declaration order: the key a document uses, the shape of
the value, and whether an empty value is left out when the record is written. One table
serves every reader and writer of documents (JSON and YAML, strict and lenient), so they agree
on keys, order and types by construction.

A decoded document is a `Value`: scalars, lists, maps with integer keys and records, where an
absent list, map or optional value is `nil` and an absent record field reads as the zero
value of its shape.
-/

namespace WdmNet.Schema

/-- The record types. -/
inductive Ty where
  | description
  | amplifierDesc
  | terminalDesc
  | transceiver
  | roadmDesc
  | linkConfig
  | spanSpec
  | spanConfig
  | control
  | ruleDesc
  | voaDesc
  | bindingDesc
  | amplifierConfig
  | roadmConfig
  | switchRuleRequest
  | deleteRuleRequest
  | voaRequest
  | bindingRequest
  | turnOnRequest
  | turnOffRequest
  | nameRequest
  | gainRequest
  | signalsRequest
  | monitorRequest
  deriving DecidableEq, Repr, Inhabited

/-- The shape of a value. -/
inductive Shape where
  /-- Text, under the given type name. -/
  | text (typeName : String)
  | int
  | float
  | bool
  | list (item : Shape)
  /-- A map from integers. -/
  | intMap (item : Shape)
  | record (t : Ty)
  /-- An optional value. -/
  | opt (target : Shape)
  deriving DecidableEq, Repr, Inhabited

/-- A field of a record type. -/
structure Field where
  key : String
  shape : Shape
  omitEmpty : Bool
  deriving Repr, Inhabited

namespace Ty

/-- The qualified name of a record type. -/
def qualifiedName : Ty → String
  | description => "topology.Description"
  | amplifierDesc => "topology.AmplifierDesc"
  | terminalDesc => "topology.TerminalDesc"
  | transceiver => "model.Transceiver"
  | roadmDesc => "topology.RoadmDesc"
  | linkConfig => "core.LinkConfig"
  | spanSpec => "core.SpanSpec"
  | spanConfig => "core.SpanConfig"
  | control => "topology.Control"
  | ruleDesc => "topology.RuleDesc"
  | voaDesc => "topology.VOADesc"
  | bindingDesc => "topology.BindingDesc"
  | amplifierConfig => "core.AmplifierConfig"
  | roadmConfig => "core.RoadmConfig"
  | switchRuleRequest => "control.switchRuleRequest"
  | deleteRuleRequest => "control.deleteRuleRequest"
  | voaRequest => "control.voaRequest"
  | bindingRequest => "control.bindingRequest"
  | turnOnRequest => "control.turnOnRequest"
  | turnOffRequest => "control.turnOffRequest"
  | nameRequest => "control.nameRequest"
  | gainRequest => "control.gainRequest"
  | signalsRequest => "control.signalsRequest"
  | monitorRequest => "control.monitorRequest"

/-- The name of a record type without its package. -/
def shortName (t : Ty) : String := ((t.qualifiedName.splitOn ".").getLast?).getD ""

/-- A plain text field. -/
def str (key : String) : Field := ⟨key, .text "string", false⟩

/-- The fields of an amplifier configuration. -/
def amplifierFields : List Field :=
  [⟨"target_gain_db", .float, false⟩, ⟨"noise_figure_db", .opt .float, true⟩,
   ⟨"wdg", .text "core.WDGProfile", true⟩, ⟨"role", .text "core.AmplifierRole", true⟩,
   ⟨"agc", .text "core.AGCStrategy", true⟩, ⟨"max_agc_iterations", .int, true⟩]

/-- The fields of a ROADM configuration. -/
def roadmFields : List Field :=
  [⟨"insertion_loss_db", .float, true⟩, ⟨"leveling_power_dbm", .opt .float, true⟩,
   ⟨"preamps", .intMap (.text "string"), true⟩, ⟨"boosts", .intMap (.text "string"), true⟩]

/-- The fields of a binding. -/
def bindingFields : List Field :=
  [str "terminal", ⟨"transceiver", .int, false⟩, ⟨"channel", .int, false⟩, ⟨"port", .int, false⟩]

/-- The fields of a record type, in declaration order. -/
def fields : Ty → List Field
  | description =>
    [⟨"name", .text "string", true⟩, ⟨"amplifiers", .list (.record amplifierDesc), true⟩,
     ⟨"terminals", .list (.record terminalDesc), true⟩, ⟨"roadms", .list (.record roadmDesc), true⟩,
     ⟨"links", .list (.record linkConfig), true⟩, ⟨"control", .opt (.record control), true⟩]
  | amplifierDesc => str "name" :: amplifierFields
  | terminalDesc => [str "name", ⟨"transceivers", .list (.record transceiver), true⟩]
  | transceiver =>
    [⟨"id", .int, false⟩, str "name", ⟨"operation_power_dbm", .float, false⟩,
     ⟨"modulation", .text "model.ModulationFormat", false⟩, ⟨"symbol_rate", .float, true⟩]
  | roadmDesc => str "name" :: roadmFields
  | linkConfig =>
    [⟨"name", .text "string", true⟩, str "src", str "dst", ⟨"out_port", .int, false⟩,
     ⟨"in_port", .int, false⟩, ⟨"boost", .text "string", true⟩,
     ⟨"spans", .list (.record spanSpec), false⟩, ⟨"srs", .text "string", true⟩]
  | spanSpec => [⟨"span", .record spanConfig, false⟩, ⟨"amplifier", .text "string", true⟩]
  | spanConfig =>
    [⟨"length_km", .float, false⟩, ⟨"attenuation_db_per_km", .float, true⟩,
     ⟨"channel_attenuation", .intMap .float, true⟩, ⟨"dispersion_ps_nm_km", .float, true⟩,
     ⟨"nonlinear_coefficient", .float, true⟩, ⟨"raman_gain", .float, true⟩,
     ⟨"effective_area_um2", .float, true⟩, ⟨"raman_bandwidth_hz", .float, true⟩,
     ⟨"disable_nli", .bool, true⟩]
  | control =>
    [⟨"switch_rules", .list (.record ruleDesc), true⟩, ⟨"voa", .list (.record voaDesc), true⟩,
     ⟨"tx", .list (.record bindingDesc), true⟩, ⟨"rx", .list (.record bindingDesc), true⟩,
     ⟨"turn_on", .list (.text "string"), true⟩, ⟨"safe", .bool, true⟩]
  | ruleDesc =>
    [str "roadm", str "id", ⟨"in_port", .int, false⟩, ⟨"out_port", .int, false⟩,
     ⟨"channels", .list .int, false⟩]
  | voaDesc =>
    [str "roadm", ⟨"channel", .int, false⟩, ⟨"out_port", .int, false⟩, ⟨"power_dbm", .float, false⟩]
  | bindingDesc => bindingFields
  | amplifierConfig => amplifierFields
  | roadmConfig => roadmFields
  | switchRuleRequest =>
    [str "roadm", str "id", ⟨"in_port", .int, false⟩, ⟨"out_port", .int, false⟩,
     ⟨"channels", .list .int, false⟩]
  | deleteRuleRequest => [str "roadm", ⟨"id", .text "string", true⟩]
  | voaRequest =>
    [str "roadm", ⟨"channel", .int, false⟩, ⟨"out_port", .int, false⟩, ⟨"power_dbm", .float, false⟩]
  | bindingRequest => bindingFields
  | turnOnRequest => [str "terminal", ⟨"safe", .bool, true⟩]
  | turnOffRequest => [str "terminal", ⟨"channels", .list .int, true⟩]
  | nameRequest => [str "name"]
  | gainRequest => [str "amplifier", ⟨"gain_db", .float, false⟩]
  | signalsRequest => [str "node", ⟨"port", .int, false⟩, ⟨"mode", .text "string", true⟩]
  | monitorRequest =>
    [str "kind", str "name", ⟨"index", .int, true⟩, ⟨"mode", .text "string", true⟩]

end Ty

/-- The name of the type of a shape, as messages show it; an optional value shows as its
target. -/
def Shape.typeName : Shape → String
  | .text n => n
  | .int => "int"
  | .float => "float64"
  | .bool => "bool"
  | .list s => "[]" ++ s.typeName
  | .intMap s => "map[int]" ++ s.typeName
  | .record t => t.qualifiedName
  | .opt s => s.typeName

/-- A decoded value. -/
inductive Value where
  | str (s : String)
  | int (i : Int)
  | float (x : Float)
  | bool (b : Bool)
  /-- An absent list, map or optional value. -/
  | nil
  /-- A list: its items, and the items a longer list left in the storage it grew into, which
  a later decoding into the same list takes up again. -/
  | list (items : List Value) (spare : List Value)
  /-- A map with integer keys, each key once. -/
  | map (entries : List (Int × Value))
  /-- A record by field key; absent fields are zero. -/
  | record (fields : List (String × Value))
  deriving Repr, Inhabited

namespace Value

/-- A list of items with no storage left over. -/
def items (xs : List Value) : Value := .list xs []

/-- The zero value of a shape. -/
def zero : Shape → Value
  | .text _ => .str ""
  | .int => .int 0
  | .float => .float 0
  | .bool => .bool false
  | .record _ => .record []
  | _ => .nil

/-- The value of a record's field; `nil` when absent. -/
def get (v : Value) (key : String) : Value :=
  match v with
  | .record fs => ((fs.find? (·.1 == key)).map (·.2)).getD .nil
  | _ => .nil

/-- The record with a field set. -/
def set (v : Value) (key : String) (x : Value) : Value :=
  match v with
  | .record fs =>
    if fs.any (·.1 == key) then .record (fs.map fun (k, y) => if k == key then (k, x) else (k, y))
    else .record (fs ++ [(key, x)])
  | _ => .record [(key, x)]

/-- Text, or the empty text. -/
def asStr : Value → String
  | .str s => s
  | _ => ""

/-- An integer, or zero. -/
def asInt : Value → Int
  | .int i => i
  | _ => 0

/-- A number, or zero. -/
def asFloat : Value → Float
  | .float x => x
  | _ => 0

/-- A truth value, or false. -/
def asBool : Value → Bool
  | .bool b => b
  | _ => false

/-- The items of a list, none when absent. -/
def asList : Value → List Value
  | .list xs _ => xs
  | _ => []

/-- The entries of a map, none when absent. -/
def asMap : Value → List (Int × Value)
  | .map es => es
  | _ => []

/-- An optional number. -/
def asOptFloat : Value → Option Float
  | .float x => some x
  | _ => none

/-- Whether the value is absent. -/
def isNil : Value → Bool
  | .nil => true
  | _ => false

/-- Whether a field of this value is left out when empty: false, zero, empty text, an absent
or empty list or map. A record is never empty. -/
def isEmpty : Value → Bool
  | .str s => s.isEmpty
  | .int i => i == 0
  | .float x => x == 0
  | .bool b => !b
  | .nil => true
  | .list xs _ => xs.isEmpty
  | .map es => es.isEmpty
  | .record _ => false

end Value

end WdmNet.Schema

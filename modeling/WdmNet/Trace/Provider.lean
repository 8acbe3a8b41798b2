import WdmNet.Trace.Span
import WdmNet.Log.Record
import WdmNet.Text.Blank
import WdmNet.Text.Quoted
import WdmNet.Decimal.Binary
/-!
Installing tracing.

Tracing is configured by whether it is enabled, the service name, the exporter, the collector
endpoint, the fraction of traces sampled and the name of the topology served. Unset values take
defaults: the service `optical-twin`, the `stdout` exporter and the endpoint `localhost:4317`.
The configuration can also be read from environment variables, where a sample ratio outside
`[0, 1]` or not a number is ignored.

Installing a disabled configuration installs nothing and says so at debug level. Otherwise the
exporter is looked up by name in any case (`stdout`, or `otlp` and its alias `otlpgrpc`), an
unknown name fails, and the provider is described by a resource naming the service, the
namespace `optical-twin` and the topology if there is one; the installation is logged at info
level. A trace is kept when its root is sampled: always at a ratio of one or more, never below.
Only the `stdout` exporter writes spans where they can be read back.
-/

namespace WdmNet.Trace

/-- A tracing configuration. -/
structure Config where
  enabled : Bool
  serviceName : String
  exporter : String
  endpoint : String
  sampleRatio : Float
  topology : String
  deriving Repr, Inhabited

/-- The service name when none is set, also the namespace of every service. -/
def defaultServiceName : String := "optical-twin"

/-- The collector endpoint when none is set. -/
def defaultEndpoint : String := "localhost:4317"

/-- The configuration with defaults for the unset service name, exporter and endpoint. -/
def Config.withDefaults (c : Config) : Config :=
  { c with
    serviceName := if c.serviceName.isEmpty then defaultServiceName else c.serviceName
    exporter := if c.exporter.isEmpty then "stdout" else c.exporter
    endpoint := if c.endpoint.isEmpty then defaultEndpoint else c.endpoint }

/-- A sample ratio given as text: a finite number within `[0, 1]`. -/
def readRatio? (raw : String) : Option Float :=
  match Decimal.Scaled.ofNumeral? raw with
  | some d =>
    let r := d.toFloat
    if r.isInf || r < 0 || r > 1 then none else some r
  | none => none

/-- The configuration read from environment variables (`TWIN_TRACING_ENABLED`,
`TWIN_TRACING_SERVICE_NAME`, `TWIN_TRACING_EXPORTER`, `TWIN_OTLP_ENDPOINT`,
`TWIN_TRACING_SAMPLE_RATIO`), an unset variable reading as empty, with defaults. -/
def Config.fromEnv (env : String → String) : Config :=
  Config.withDefaults
    { enabled := Text.lower (env "TWIN_TRACING_ENABLED") == "true"
      serviceName := env "TWIN_TRACING_SERVICE_NAME"
      exporter := Text.lower (env "TWIN_TRACING_EXPORTER")
      endpoint := env "TWIN_OTLP_ENDPOINT"
      sampleRatio := (readRatio? (env "TWIN_TRACING_SAMPLE_RATIO")).getD 1
      topology := "" }

/-- Where finished spans go. -/
inductive Exporter where
  | stdout
  | otlp
  deriving DecidableEq, Repr, Inhabited

/-- The exporter names accepted, in order. -/
def exporterNames : List String := ["otlp", "otlpgrpc", "stdout"]

/-- The exporter of a name in lower case. -/
def Exporter.ofName? : String → Option Exporter
  | "stdout" => some .stdout
  | "otlp" | "otlpgrpc" => some .otlp
  | _ => none

/-- An installed tracer provider. -/
structure Provider where
  exporter : Exporter
  /-- Whether root spans, and so whole traces, are kept. -/
  sampled : Bool
  resource : List (String × String)
  deriving Repr, Inhabited

/-- Why tracing could not be installed. -/
inductive SetupError where
  | unknownExporter (name : String)
  deriving Repr, Inhabited

/-- The message of a setup error. -/
def SetupError.message : SetupError → String
  | .unknownExporter n => "unknown tracing exporter: " ++ Text.quote n ++ " (want one of " ++
      ", ".intercalate exporterNames ++ ")"

/-- Installs tracing: the provider (none when disabled) and the records logged. -/
def install (c : Config) : Except SetupError (Option Provider × List Log.Record) :=
  let c := c.withDefaults
  if !c.enabled then .ok (none, [⟨.debug, "tracing disabled", []⟩])
  else
    match Exporter.ofName? (Text.lower c.exporter) with
    | none => .error (.unknownExporter c.exporter)
    | some e =>
      let resource := [("service.name", c.serviceName), ("service.namespace", defaultServiceName)] ++
        (if c.topology.isEmpty then [] else [("twin.topology", c.topology)])
      .ok (some ⟨e, c.sampleRatio ≥ 1, resource⟩,
        [⟨.info, "tracing enabled", [.str "exporter" c.exporter, .str "service_name" c.serviceName,
          .str "topology" c.topology, ⟨"sample_ratio", .float c.sampleRatio⟩]⟩])

/-- The spans written where they can be read back: the kept spans of a `stdout` exporter. -/
def Provider.written (p : Provider) (spans : List Span) : List Span :=
  if p.sampled && p.exporter == .stdout then spans else []

end WdmNet.Trace

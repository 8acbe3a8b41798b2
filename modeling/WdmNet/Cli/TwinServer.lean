import WdmNet.Cli.Flags
import WdmNet.Cli.TopologyFile
import WdmNet.Cli.Address
import WdmNet.Control.Server
import WdmNet.Metrics.Collector
import WdmNet.Metrics.Exposition
import WdmNet.Trace.Provider
import WdmNet.Topology.Build
/-!
The twin server command.

The twin server loads a topology file, installs tracing as the environment configures it (the
topology named by the file, or the path when the file names none), builds the network with its
switch budget and applies the file's control section, and then serves the control service with
the full instrumentation: server spans, request ids, an access log and metrics. Its metrics
registry holds the control and the propagation collectors and is served at `/metrics` unless
the metrics address is empty. Log records go to standard output at the level and in the format
of the flags, whose defaults come from `LOG_LEVEL` and `LOG_FORMAT`.

A flag that does not read, or an empty `-topology`, ends the run with exit code 2 and the
message on standard error. A failure while starting is logged as `twin server failed` with its
error and ends the run with exit code 1. A server stopped by a termination signal logs that it
shuts down and exits with 0.
-/

namespace WdmNet.Cli

namespace TwinServer

/-- The value of an environment variable, or a fallback when it is empty. -/
def envOr (env : String → String) (key fallback : String) : String :=
  if (env key).isEmpty then fallback else env key

/-- The control service's listening address flag. -/
def grpcFlag : Flag := ⟨"grpc-addr", .text, ":50051", "TCP address the control gRPC server listens on"⟩

/-- The metrics address flag. -/
def metricsFlag : Flag :=
  ⟨"metrics-addr", .text, ":9090", "HTTP address for Prometheus /metrics (empty disables)"⟩

/-- The log level flag. -/
def levelFlag (env : String → String) : Flag :=
  ⟨"log-level", .text, envOr env "LOG_LEVEL" "info", "log level: debug, info, warn, error"⟩

/-- The log format flag. -/
def formatFlag (env : String → String) : Flag :=
  ⟨"log-format", .text, envOr env "LOG_FORMAT" "text", "log format: text or json"⟩

/-- The topology file flag. -/
def topologyFlag : Flag :=
  ⟨"topology", .text, "examples/topologies/linear.yaml", "topology file (.yaml, .yml or .json)"⟩

/-- The per-pass switch budget flag. -/
def maxSwitchesFlag : Flag :=
  ⟨"max-switches", .integer, "0", "per-pass switch budget (0 uses the default)"⟩

/-- The shutdown deadline flag. -/
def shutdownFlag : Flag := ⟨"shutdown-timeout", .duration, "5s", "graceful shutdown deadline"⟩

/-- The twin server's flags. -/
def flags (env : String → String) : FlagSet :=
  ⟨"twin-server", [grpcFlag, metricsFlag, levelFlag env, formatFlag env, topologyFlag,
    maxSwitchesFlag, shutdownFlag]⟩

end TwinServer

/-- A serving twin server. -/
structure TwinServer where
  log : Log.Logger
  twin : Twin
  registry : Metrics.Registry
  /-- What the server wrote to standard output so far. -/
  stdout : List Output

namespace TwinServer

/-- The server after a record is logged. -/
def say (s : TwinServer) (level : Log.Level) (msg : String) (attrs : List Log.Attr) : TwinServer :=
  { s with stdout := s.stdout ++ [.record ⟨level, msg, attrs⟩] }

/-- The server after events of its twin: records are logged and the events of passes are
counted by the metrics. -/
def emit (s : TwinServer) (events : List Event) : TwinServer :=
  events.foldl (fun s e =>
    let s := { s with registry := s.registry.observeEvent e }
    match e with
    | .logged r => { s with stdout := s.stdout ++ [.record r] }
    | _ => s) s

/-- How a run that failed to start ends: the failure logged at error level, exit code 1. -/
def failed (log : Log.Logger) (out : List Output) (msg : String) : Exit :=
  ⟨1, log.sink, out ++ [.record ⟨.error, "twin server failed", [.str "error" msg]⟩], "", []⟩

/-- Starts the server with arguments in a directory, with an environment: the serving server,
or how the run ended. -/
def start (args : List String) (dir : Directory) (env : String → String) : Except Exit TwinServer :=
  let fs := flags env
  match fs.parse args with
  | .error stop => .error ⟨2, none, [], fs.stopText stop ++ stop.message ++ "\n", []⟩
  | .ok st =>
    let path := st.text topologyFlag
    if path.isEmpty then .error ⟨2, none, [], "-topology is required\n", []⟩
    else
      let log := Log.Logger.create (st.text (levelFlag env)) (st.text (formatFlag env))
      match loadTopologyFile dir path with
      | .error m => .error (failed log [] m)
      | .ok d =>
        let tracing := { Trace.Config.fromEnv env with topology := if d.name.isEmpty then path else d.name }
        match Trace.install tracing with
        | .error e => .error (failed log [] ("init tracing: " ++ e.message))
        | .ok (_, records) =>
          let out := records.map Output.record
          let budget := st.integer maxSwitchesFlag
          let buildFailed (out : List Output) (e : Failure) : Exit :=
            failed log out ("build topology " ++ path ++ ": " ++ e.message)
          match d.build (if budget > 0 then budget.toNat else 0) with
          | .error e => .error (buildFailed out e)
          | .ok n =>
          let built := applyControl d.control n
          let s : TwinServer := (⟨log, Twin.create built.net, Metrics.Registry.withCollectors, out⟩ :
            TwinServer).emit built.events
          match built.error with
          | some e => .error (buildFailed s.stdout e)
          | none =>
            let s := s.say .info "topology loaded" [.str "path" path,
              .int "nodes" (d.terminals.length + d.roadms.length), .int "links" d.links.length,
              .int "amplifiers" d.amplifiers.length]
            let metricsAddr := st.text metricsFlag
            let s := if metricsAddr.isEmpty then s
              else s.say .info "serving Prometheus metrics" [.str "addr" metricsAddr]
            let grpcAddr := st.text grpcFlag
            match listenAddress grpcAddr with
            | .error e => .error (failed log s.stdout ("listen " ++ grpcAddr ++ ": " ++ e))
            | .ok bound => .ok (s.say .info "starting control gRPC server" [.str "addr" bound])

/-- Serves a call of the method at `path` with a message; `requestId` is the caller's request
id and `freshId` the one made when there is none. -/
def call (s : TwinServer) (path : String) (msg : Control.Message) (requestId : Option String)
    (freshId : String) : TwinServer × Control.Exchange :=
  let x := Control.handleCall (some s.twin) .instrumented path msg requestId freshId
  let s := { s with twin := x.twin.getD s.twin }
  let s := match x.handled with
    | some (fm, c) => { s with registry := s.registry.requestHandled fm c.name 0 }
    | none => s
  (s.emit x.events, x)

/-- The metric families served at `/metrics`. -/
def families (s : TwinServer) : List Metrics.Family := (s.registry.setCounts s.twin.counts).gather

/-- The files a start with these arguments reads: the topology file, once the flags read. -/
def inputFiles (args : List String) (env : String → String) : List String :=
  match (flags env).parse args with
  | .ok st => let path := st.text topologyFlag; if path.isEmpty then [] else [path]
  | .error _ => []

/-- What the server has written so far, as the output of a running program. -/
def output (s : TwinServer) : Exit := ⟨0, s.log.sink, s.stdout, "", []⟩

/-- Stops the server on a termination signal. -/
def stop (s : TwinServer) : Exit :=
  ⟨0, s.log.sink, (s.say .info "shutting down control server" []).stdout, "", []⟩

end TwinServer

end WdmNet.Cli

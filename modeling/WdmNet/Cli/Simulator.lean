import WdmNet.Cli.Flags
import WdmNet.Cli.TopologyFile
import WdmNet.Topology.Build
import WdmNet.Control.Payload
/-!
The simulator command.

The simulator loads a topology file, builds the network, applies the file's control section
(turning on the terminals named by `-turn-on` instead of the file's list when it is given, and
stopping signals at routing loops silently when `-safe` is), and prints the reception report
of every channel every terminal received: as a table, or as indented JSON with `-format json`.
With `-describe` it also writes the resulting network as a description to a file whose
extension picks JSON or YAML.

A routing loop while turning terminals on is a warning on standard error and the run goes on;
every other failure ends the run with its message after `simulator: ` and exit code 1. Log
records go to standard output at the level and in the format of `LOG_LEVEL` and `LOG_FORMAT`.
-/

namespace WdmNet.Cli

namespace Simulator

/-- The topology file flag. -/
def topologyFlag : Flag :=
  ⟨"topology", .text, "examples/topologies/linear.yaml", "topology file (.yaml, .yml or .json)"⟩

/-- The flag naming the terminals to turn on. -/
def turnOnFlag : Flag :=
  ⟨"turn-on", .text, "", "comma-separated terminals to turn on (default: the file's turn_on list)"⟩

/-- The flag that stops signals at routing loops silently. -/
def safeFlag : Flag :=
  ⟨"safe", .switch, "false", "stop signals at routing loops without reporting an error"⟩

/-- The output format flag. -/
def formatFlag : Flag := ⟨"format", .text, "text", "output format: text or json"⟩

/-- The flag naming the file the resulting description is written to. -/
def describeFlag : Flag :=
  ⟨"describe", .text, "", "write the resulting topology and configuration to this file"⟩

/-- The simulator's flags. -/
def flags : FlagSet := ⟨"simulator", [topologyFlag, turnOnFlag, safeFlag, formatFlag, describeFlag]⟩

/-- The options of a run. -/
structure Options where
  topology : String
  turnOn : List String
  safe : Bool
  json : Bool
  describe : String
  deriving Repr, Inhabited

/-- The options the flags set, or why they are refused. -/
def Options.ofSettings (st : Settings) : Except String Options :=
  let names := ((st.text turnOnFlag).splitOn ",").map Text.trimSpace |>.filter (!·.isEmpty)
  let format := st.text formatFlag
  if format != "text" && format != "json" then .error ("unknown -format " ++ Text.quote format)
  else .ok ⟨st.text topologyFlag, names, st.switch safeFlag, format == "json", st.text describeFlag⟩

/-- A level of a report when it is shown: none for a missing channel or a value that is not
finite. -/
def shown (r : Report) (x : Float) : Option Float :=
  if r.reason == "missing" || x.isNaN || x.isInf then none else some x

/-- A report of a terminal as a JSON row. -/
def row (terminal : String) (r : Report) : Json :=
  let level (x : Float) : Json := ((shown r x).map Json.ofFloat).getD .null
  .obj ([("terminal", .str terminal), ("channel", .ofInt r.channel), ("transceiver", .ofInt r.transceiver),
    ("ok", .bool r.ok)] ++ (if r.reason.isEmpty then [] else [("reason", .str r.reason)]) ++
    [("power_dbm", level r.powerDbm), ("osnr_db", level r.osnrDb), ("gosnr_db", level r.gosnrDb),
     ("threshold_db", .ofFloat r.thresholdDb)])

/-- Text padded with blanks on the right to a width. -/
def padRight (s : String) (width : Nat) : String :=
  s ++ String.ofList (List.replicate (width - s.length) ' ')

/-- Text padded with blanks on the left to a width. -/
def padLeft (s : String) (width : Nat) : String :=
  String.ofList (List.replicate (width - s.length) ' ') ++ s

/-- A line of the table. -/
def tableLine (terminal ch trx status power osnr gosnr reason : String) : String :=
  padRight terminal 12 ++ " " ++ padLeft ch 4 ++ " " ++ padLeft trx 4 ++ " " ++ padRight status 6 ++
    " " ++ padLeft power 9 ++ " " ++ padLeft osnr 9 ++ " " ++ padLeft gosnr 9 ++ "  " ++ reason ++ "\n"

/-- A level in the table: two decimals and the unit, or `-` when it is not shown. -/
def decibels (x : Option Float) (unit : String) : String :=
  match x with
  | some v => Decimal.fixedText v 2 ++ " " ++ unit
  | none => "-"

/-- The table of the reports of each terminal. -/
def table (reports : List (String × Report)) : String :=
  if reports.isEmpty then "no reception reports\n"
  else
    tableLine "terminal" "ch" "trx" "status" "power" "osnr" "gosnr" "reason" ++
      String.join (reports.map fun (t, r) =>
        tableLine t (toString r.channel) (toString r.transceiver) (if r.ok then "OK" else "FAIL")
          (decibels (shown r r.powerDbm) "dBm") (decibels (shown r r.osnrDb) "dB")
          (decibels (shown r r.gosnrDb) "dB") r.reason)

/-- The JSON report of the reports of each terminal: their rows, or `null` for none. -/
def jsonReport (reports : List (String × Report)) : Except String String :=
  match reports.find? fun (_, r) => r.thresholdDb.isNaN || r.thresholdDb.isInf with
  | some (_, r) => .error (Control.unsupportedNumber r.thresholdDb)
  | none =>
    let doc : Json := if reports.isEmpty then .null else .arr (reports.map fun (t, r) => row t r)
    .ok (Json.indented doc ++ "\n")

/-- The files a run with these arguments reads: the topology file, once the flags read. -/
def inputFiles (args : List String) : List String :=
  match flags.parse args with
  | .ok st => match Options.ofSettings st with
    | .ok opts => [opts.topology]
    | .error _ => []
  | .error _ => []

/-- Whether the arguments ask for the report as JSON: the last `-format` given is `json`. -/
def jsonOutput (args : List String) : Bool :=
  match flags.parse args with
  | .ok st => match Options.ofSettings st with
    | .ok opts => opts.json
    | .error _ => false
  | .error _ => false

end Simulator

open Simulator in
/-- Runs the simulator with arguments in a directory, with an environment. -/
def runSimulator (args : List String) (dir : Directory) (env : String → String) : Exit :=
  let log := Log.Logger.create (env "LOG_LEVEL") (env "LOG_FORMAT")
  let fail (out : List Output) (err msg : String) (files : List (String × String)) : Exit :=
    ⟨1, log.sink, out, err ++ "simulator: " ++ msg ++ "\n", files⟩
  match flags.parse args with
  | .error stop =>
    match stop with
    | .help => ⟨1, log.sink, [], flags.stopText stop, []⟩
    | .failed m => fail [] (flags.stopText stop) m []
  | .ok st =>
    match Options.ofSettings st with
    | .error m => fail [] "" m []
    | .ok opts =>
      match loadTopologyFile dir opts.topology with
      | .error m => fail [] "" m []
      | .ok d =>
        match d.build 0 with
        | .error e => fail [] "" e.message []
        | .ok n =>
          let ctl := d.control.getD ⟨[], [], [], [], [], false⟩
          let ctl := { ctl with
            turnOn := if opts.turnOn.isEmpty then ctl.turnOn else opts.turnOn
            safe := ctl.safe || opts.safe }
          let o := applyControl (some ctl) n
          let out := o.events.filterMap fun | .logged r => some (Output.record r) | _ => none
          let warn := match o.error with
            | some e => if e.is .routingLoop then some ("warning: " ++ e.message ++ "\n") else none
            | none => none
          match o.error, warn with
          | some e, none => fail out "" e.message []
          | _, _ =>
            let err := warn.getD ""
            let n := o.net
            let described : Except String (List (String × String)) :=
              if opts.describe.isEmpty then .ok []
              else (writeTopologyFile dir opts.describe n.describe).map fun (d', name) =>
                (d'.files.filter (·.1 == name))
            match described with
            | .error m => fail out err m []
            | .ok files =>
              let reports := n.terminals.flatMap fun t => t.reports.values.map (t.name, ·)
              if opts.json then
                match jsonReport reports with
                | .ok text => ⟨0, log.sink, out ++ [.text text], err, files⟩
                | .error m => fail out err m files
              else ⟨0, log.sink, out ++ [.text (table reports)], err, files⟩

end WdmNet.Cli

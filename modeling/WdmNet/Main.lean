import WdmNet.Cli.Simulator
import WdmNet.Cli.TwinServer
/-!
The command line.

`simulator ARGS` runs the simulator and `twin-server ARGS` the twin server, each with the flags
of its program. A run sees the files of the working directory that it names by a plain relative
name, and the files it writes are written there. The twin server answers no requests from here:
it is started, prints what it logs, and is stopped as by a termination signal once standard
input ends.
-/

namespace WdmNet.Cli

/-- The environment variables the programs read. -/
def environmentKeys : List String :=
  ["LOG_LEVEL", "LOG_FORMAT", "TWIN_TRACING_ENABLED", "TWIN_TRACING_EXPORTER",
   "TWIN_OTLP_ENDPOINT", "TWIN_TRACING_SAMPLE_RATIO", "TWIN_TRACING_SERVICE_NAME"]

/-- The usage text for a missing or unknown command. -/
def usage : String := "usage: wdmnet (simulator | twin-server) [flags]\n"

/-- The environment as a function, read once. -/
def readEnvironment : IO (String → String) := do
  let pairs ← environmentKeys.mapM fun k => do pure (k, (← IO.getEnv k).getD "")
  pure fun k => ((pairs.find? (·.1 == k)).map (·.2)).getD ""

/-- The directory holding the named files that exist under a plain relative name. -/
def readDirectory (paths : List String) : IO Directory := do
  let files ← paths.filterMapM fun path => do
    match Directory.resolve path with
    | some name =>
      try pure (some (name, ← IO.FS.readFile name)) catch _ => pure none
    | none => pure none
  pure ⟨files⟩

/-- Prints how a program ended, writes its files, and gives its exit code. -/
def finish (x : Exit) : IO UInt32 := do
  IO.print x.outputText
  IO.eprint x.stderr
  for (name, text) in x.written do
    IO.FS.writeFile name text
  pure x.code.toNat.toUInt32

/-- Reads standard input to its end. -/
partial def awaitEnd (stdin : IO.FS.Stream) : IO Unit := do
  let line ← stdin.getLine
  if line.isEmpty then pure () else awaitEnd stdin

/-- Starts the twin server, runs it until standard input ends, and stops it. -/
def serve (args : List String) (env : String → String) : IO UInt32 := do
  let dir ← readDirectory (TwinServer.inputFiles args env)
  match TwinServer.start args dir env with
  | .error x => finish x
  | .ok s =>
    IO.print s.output.outputText
    awaitEnd (← IO.getStdin)
    let x := s.stop
    finish { x with stdout := x.stdout.drop s.stdout.length }

end WdmNet.Cli

open WdmNet.Cli in
/-- Runs the command named by the first argument. -/
def main (argv : List String) : IO UInt32 := do
  let env ← readEnvironment
  match argv with
  | "simulator" :: args => finish (runSimulator args (← readDirectory (Simulator.inputFiles args)) env)
  | "twin-server" :: args => serve args env
  | _ => IO.eprint usage; pure 2

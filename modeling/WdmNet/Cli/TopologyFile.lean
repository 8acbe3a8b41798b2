import WdmNet.Cli.Process
import WdmNet.Topology.Load
/-!
Topology files.

A topology file is read and written in the format its extension names: `.yaml` or `.yml` for
YAML and `.json` for JSON, in any case. Any other extension is refused before the file is
opened.
-/

namespace WdmNet.Cli

/-- Reads and validates the description in a file. -/
def loadTopologyFile (dir : Directory) (path : String) : Except String Description := do
  let format ← (Format.ofPath path).mapError (·.message)
  let text ← dir.read path
  (loadDescription text format.name).mapError (·.message)

/-- Writes a description to a file: the directory afterwards and the name of the file. -/
def writeTopologyFile (dir : Directory) (path : String) (d : Description) :
    Except String (Directory × String) := do
  let format ← (Format.ofPath path).mapError (·.message)
  let text ← (d.encode format.name).mapError (·.message)
  dir.write path text

end WdmNet.Cli

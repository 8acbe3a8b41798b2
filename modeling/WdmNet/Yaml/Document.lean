import WdmNet.Yaml.Decode
import WdmNet.Yaml.Emit
/-!
Reading the first YAML document of a text into a value of a record type.

The text is composed into a node graph up to the end of its first document (a syntax error
anywhere up to there, or an alias of an unknown anchor, is the result), and the graph is
decoded into the record type. A text without any document gives the zero record.
-/

namespace WdmNet.Yaml

open Schema

/-- Decodes the first document of a text into a record type: the value, or the message of a
syntax error, of the problems collected, or of what stopped decoding. -/
def decodeFirst (t : Ty) (text : String) : Except String Value :=
  match composeFirst text with
  | .error e => .error e
  | .ok none => .ok (.record [])
  | .ok (some (nodes, root)) => decodeDocument nodes root t

end WdmNet.Yaml

import WdmNet.Metrics.Registry
import WdmNet.Decimal.Notation
/-!
The text exposition of gathered families.

Each family is written as a `# HELP` line, a `# TYPE` line and one line per sample value:
`name{label="value",...} number`, the braces left out when there are no labels. A histogram
gives a `_bucket` line per bound with the label `le` last and the count of observations at
most the bound, a `+Inf` bucket of all observations, then `_sum` and `_count`; a summary gives
`_sum` and `_count`.

Numbers take their shortest general notation (`1e+300`, `0.005`), zero is `0` whatever its
sign, and infinities are `+Inf` and `-Inf`. In help texts a backslash and a line feed are
escaped; label values also escape the double quote.
-/

namespace WdmNet.Metrics

/-- A number of the exposition. -/
def numberText (x : Float) : String := if x == 0 then "0" else Decimal.generalText x

/-- A help text with backslashes and line feeds escaped. -/
def escapeHelp (s : String) : String :=
  String.join (s.toList.map fun c =>
    if c == '\\' then "\\\\" else if c == '\n' then "\\n" else String.singleton c)

/-- A label value with backslashes, line feeds and double quotes escaped. -/
def escapeLabel (s : String) : String :=
  String.join (s.toList.map fun c => if c == '"' then "\\\"" else escapeHelp (String.singleton c))

/-- Label pairs in braces; nothing for no pairs. -/
def labelsText (pairs : List (String × String)) : String :=
  if pairs.isEmpty then ""
  else "\x7b" ++ ",".intercalate (pairs.map fun (k, v) => k ++ "=\"" ++ escapeLabel v ++ "\"") ++ "\x7d"

/-- The sample lines of one reading of a family of this type. -/
def sampleLines (name : String) (type : SampleType) (bounds : List Float)
    (pairs : List (String × String)) : Reading → List String
  | .value v => [name ++ labelsText pairs ++ " " ++ numberText v]
  | .observations n s atMost =>
    let bucket (b : String) (c : Nat) :=
      name ++ "_bucket" ++ labelsText (pairs ++ [("le", b)]) ++ " " ++ numberText (Float.ofNat c)
    let buckets := if type == .histogram then
        List.zipWith (fun b c => bucket (numberText b) c) bounds atMost ++ [bucket "+Inf" n]
      else []
    buckets ++
      [name ++ "_sum" ++ labelsText pairs ++ " " ++ numberText s,
       name ++ "_count" ++ labelsText pairs ++ " " ++ numberText (Float.ofNat n)]

/-- The lines of one family. -/
def Family.lines (f : Family) : List String :=
  ["# HELP " ++ f.name ++ " " ++ escapeHelp f.help, "# TYPE " ++ f.name ++ " " ++ f.type.textName] ++
    f.samples.flatMap fun (pairs, r) => sampleLines f.name f.type f.bounds pairs r

/-- The exposition of families: their lines, each ended by a line feed. -/
def exposition (fs : List Family) : String :=
  String.join ((fs.flatMap Family.lines).map (· ++ "\n"))

end WdmNet.Metrics

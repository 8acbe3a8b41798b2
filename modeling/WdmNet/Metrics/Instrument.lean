import WdmNet.Text.Quoted
/-!
Instruments, their descriptors and their readings.

A metrics registry holds instruments: counters, gauges, histograms and summaries, each either
alone or as a vector, a family of them keyed by the values of its labels. An instrument is
described by its metric name, its help text and the names of its labels.

A metric name is a letter, `_` or `:` followed by letters, digits, `_` and `:`; a label name is a
letter or `_` followed by letters, digits and `_`, and may not start with `__`.

Main definitions:

* `Instrument.serves` — which registered instrument can stand in for another: one that accepts
  the same updates;
* `Descriptor.problem?` — why a descriptor cannot be registered;
* `Reading` — the state of one sample, with `add`, `set` and `observe`.
-/

namespace WdmNet.Metrics

/-- The type of a family of samples. -/
inductive SampleType where
  | counter
  | gauge
  | summary
  | histogram
  deriving DecidableEq, Repr, Inhabited

namespace SampleType

/-- The name of a sample type in capitals. -/
def name : SampleType → String
  | counter => "COUNTER"
  | gauge => "GAUGE"
  | summary => "SUMMARY"
  | histogram => "HISTOGRAM"

/-- The name of a sample type in the text exposition. -/
def textName : SampleType → String
  | counter => "counter"
  | gauge => "gauge"
  | summary => "summary"
  | histogram => "histogram"

end SampleType

/-- The kinds of instrument a registry holds. -/
inductive Instrument where
  | counter
  | gauge
  | histogram
  | summary
  | counterVec
  | gaugeVec
  | histogramVec
  deriving DecidableEq, Repr, Inhabited

namespace Instrument

/-- The type of the samples an instrument gives. -/
def sampleType : Instrument → SampleType
  | counter | counterVec => .counter
  | gauge | gaugeVec => .gauge
  | histogram | histogramVec => .histogram
  | summary => .summary

/-- Whether the instrument is a vector, keyed by label values. -/
def labelled : Instrument → Bool
  | counterVec | gaugeVec | histogramVec => true
  | _ => false

/-- Whether an instrument `held` already registered can be used where one of kind `wanted` is
asked for. A single counter is only ever incremented, which a gauge accepts too; a single
histogram or summary is only ever given observations, which both accept; a gauge must be a
gauge and a vector a vector of the same kind. -/
def serves (held wanted : Instrument) : Bool :=
  match wanted with
  | counter => held == counter || held == gauge
  | histogram | summary => held == histogram || held == summary
  | w => held == w

end Instrument

/-- The description of an instrument. -/
structure Descriptor where
  name : String
  help : String
  /-- The label names of a vector, in the order values are given. -/
  labels : List String
  deriving DecidableEq, Repr, Inhabited

/-- A character that may start a metric name. -/
def isNameStart (c : Char) : Bool := c.isAlpha || c == '_' || c == ':'

/-- Whether a text is a metric name. -/
def isMetricName (s : String) : Bool :=
  match s.toList with
  | [] => false
  | c :: cs => isNameStart c && cs.all fun c => isNameStart c || c.isDigit

/-- Whether a text is a label name that an instrument may declare. -/
def isLabelName (s : String) : Bool :=
  match s.toList with
  | [] => false
  | c :: cs =>
    (c.isAlpha || c == '_') && cs.all (fun c => c.isAlphanum || c == '_') && !s.startsWith "__"

namespace Descriptor

/-- The text of a descriptor as registration errors show it. -/
def text (d : Descriptor) : String :=
  "Desc\x7bfqName: " ++ Text.quote d.name ++ ", help: " ++ Text.quote d.help ++
    ", constLabels: \x7b\x7d, variableLabels: \x7b" ++ ",".intercalate d.labels ++ "\x7d\x7d"

/-- Why the descriptor cannot be registered: a bad metric name, then the first bad label
name, then a label name given twice. -/
def problem? (d : Descriptor) : Option String :=
  if !isMetricName d.name then some (Text.quote d.name ++ " is not a valid metric name")
  else match d.labels.find? (!isLabelName ·) with
    | some l => some (Text.quote l ++ " is not a valid label name for metric " ++ Text.quote d.name)
    | none =>
      if d.labels.eraseDups.length != d.labels.length then
        some ("duplicate label names in constant and variable labels for metric " ++
          Text.quote d.name)
      else none

/-- Two descriptors of one name agree when they have the same help text and the same label
names, in any order. -/
def sameShape (a b : Descriptor) : Bool :=
  a.help == b.help &&
    a.labels.mergeSort (fun x y => decide (x ≤ y)) == b.labels.mergeSort (fun x y => decide (x ≤ y))

end Descriptor

/-- The state of one sample: a number (counters and gauges), or the observations of a
distribution with their count, their sum and, per bucket bound, how many were at most the
bound. -/
inductive Reading where
  | value (v : Float)
  | observations (count : Nat) (sum : Float) (atMost : List Nat)
  deriving Repr, Inhabited

namespace Reading

/-- The reading of a new sample of an instrument with these bucket bounds. -/
def fresh (i : Instrument) (bounds : List Float) : Reading :=
  match i.sampleType with
  | .counter | .gauge => .value 0
  | .histogram => .observations 0 0 (bounds.map fun _ => 0)
  | .summary => .observations 0 0 []

/-- Adds to a number. -/
def add (d : Float) : Reading → Reading
  | .value v => .value (v + d)
  | r => r

/-- Sets a number. -/
def set (v : Float) : Reading → Reading
  | .value _ => .value v
  | r => r

/-- Records an observation under bucket bounds; a bound counts it when it is at least the
observation, so a NaN is counted by no bound. -/
def observe (bounds : List Float) (x : Float) : Reading → Reading
  | .observations n s counts =>
    .observations (n + 1) (s + x) (List.zipWith (fun b c => if x ≤ b then c + 1 else c) bounds counts)
  | r => r

end Reading

end WdmNet.Metrics

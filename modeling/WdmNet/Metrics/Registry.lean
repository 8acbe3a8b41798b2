import WdmNet.Metrics.Instrument
/-!
A registry of instruments.

Instruments are registered one at a time and kept in registration order. A metric name is
registered once: a second instrument of that name is refused, either because its help text or
label names differ from the first one's, or, when they agree, because the name is taken; a
caller that meets a taken name may go on with the instrument already there, if that one
serves for what it wanted (`Instrument.serves`).

A single instrument has its one sample from the start; a vector gets a sample for each
combination of label values the first time that combination is updated. Gathering lists the
instruments that have samples, by name, each with its samples ordered by their label values.

Main definitions:

* `Registry.register` and `Registry.adopt` — registration, strict and reusing;
* `Registry.update` — one sample changed, created first if it is new;
* `Registry.gather` — the families of samples.
-/

namespace WdmNet.Metrics

/-- One sample of an instrument: the values of its labels, in the descriptor's label order,
and its reading. -/
structure Series where
  values : List String
  reading : Reading
  deriving Repr, Inhabited

/-- A registered instrument with its samples in creation order. -/
structure Entry where
  desc : Descriptor
  instrument : Instrument
  /-- The bucket bounds of a histogram, increasing. -/
  bounds : List Float
  series : List Series
  deriving Repr, Inhabited

namespace Entry

/-- A new instrument: a vector without samples, a single instrument with its one sample. -/
def create (desc : Descriptor) (instrument : Instrument) (bounds : List Float) : Entry :=
  { desc, instrument, bounds,
    series := if instrument.labelled then [] else [⟨[], Reading.fresh instrument bounds⟩] }

/-- Applies `f` to the sample with these label values, which is created first if it is new. -/
def update (e : Entry) (values : List String) (f : List Float → Reading → Reading) : Entry :=
  if e.series.any (·.values == values) then
    { e with series := e.series.map fun s =>
        if s.values == values then { s with reading := f e.bounds s.reading } else s }
  else
    { e with series := e.series ++ [⟨values, f e.bounds (Reading.fresh e.instrument e.bounds)⟩] }

end Entry

/-- Why a registration was refused. -/
inductive Refusal where
  /-- The descriptor itself is invalid. -/
  | invalid (d : Descriptor) (problem : String)
  /-- An instrument of that name with another help text or other label names is registered. -/
  | reshaped (d : Descriptor)
  /-- An instrument of that name and shape is registered. -/
  | taken (held : Instrument)
  deriving Repr, Inhabited

/-- The message of a refusal. -/
def Refusal.message : Refusal → String
  | .invalid d p => "descriptor " ++ d.text ++ " is invalid: " ++ p
  | .reshaped d => "a previously registered descriptor with the same fully-qualified name as " ++
      d.text ++ " has different label names or a different help string"
  | .taken _ => "duplicate metrics collector registration attempted"

/-- Instruments in registration order. -/
structure Registry where
  entries : List Entry := []
  deriving Repr, Inhabited

/-- One family of gathered samples. -/
structure Family where
  name : String
  help : String
  type : SampleType
  bounds : List Float
  /-- Each sample's label pairs, by label name, and its reading. -/
  samples : List (List (String × String) × Reading)
  deriving Repr, Inhabited

/-- Whether label values come strictly before others, text by text. -/
def valuesBefore : List String → List String → Bool
  | [], _ :: _ => true
  | a :: as, b :: bs => a < b || (a == b && valuesBefore as bs)
  | _, _ => false

namespace Registry

/-- The instrument of this name. -/
def find? (r : Registry) (name : String) : Option Entry := r.entries.find? (·.desc.name == name)

/-- Registers an instrument whose name is not taken and whose descriptor is valid. -/
def register (r : Registry) (e : Entry) : Except Refusal Registry :=
  match e.desc.problem? with
  | some p => .error (.invalid e.desc p)
  | none =>
    match r.find? e.desc.name with
    | some old => .error (if old.desc.sameShape e.desc then .taken old.instrument else .reshaped e.desc)
    | none => .ok { entries := r.entries ++ [e] }

/-- Registers an instrument, or goes on with the one registered under its name if that one
serves for it; otherwise the message of the refusal. -/
def adopt (r : Registry) (e : Entry) : Except String Registry :=
  match r.register e with
  | .ok r => .ok r
  | .error (.taken held) =>
    if held.serves e.instrument then .ok r
    else .error ("collector " ++ e.desc.name ++ " already registered with incompatible type")
  | .error x => .error x.message

/-- Adopts instruments in order up to the first refusal: the registry with those before it,
and the refusal's message. -/
def adoptAll (r : Registry) : List Entry → Registry × Option String
  | [] => (r, none)
  | e :: es =>
    match r.adopt e with
    | .ok r => r.adoptAll es
    | .error m => (r, some m)

/-- Applies `f` to a sample of the instrument of this name; nothing happens if there is none. -/
def update (r : Registry) (name : String) (values : List String)
    (f : List Float → Reading → Reading) : Registry :=
  { entries := r.entries.map fun e => if e.desc.name == name then e.update values f else e }

/-- The family of an instrument's samples, ordered by label values. -/
def familyOf (e : Entry) : Family :=
  let pairs (s : Series) := (List.zip e.desc.labels s.values).mergeSort fun a b => decide (a.1 ≤ b.1)
  let samples := (e.series.map fun s => (pairs s, s.reading)).mergeSort fun a b =>
    !valuesBefore (b.1.map (·.2)) (a.1.map (·.2))
  { name := e.desc.name, help := e.desc.help, type := e.instrument.sampleType,
    bounds := e.bounds, samples }

/-- The families of all instruments that have samples, by name. -/
def gather (r : Registry) : List Family :=
  ((r.entries.filter (!·.series.isEmpty)).map familyOf).mergeSort fun a b => decide (a.name ≤ b.name)

end Registry

end WdmNet.Metrics

/-!
Trace spans as the exporter writes them.

A span has a name, a kind (1 internal, 2 server), typed attributes, events (an error is
recorded as an `exception` event carrying the message), a status with a description, the
name of the instrumentation scope that made it, and whether it has a parent span.
-/

namespace WdmNet.Trace

/-- The value of a span attribute. -/
inductive AttrValue where
  | str (s : String)
  | int (i : Int)
  | bool (b : Bool)
  | float (x : Float)
  deriving Repr, Inhabited

/-- An event recorded on a span. -/
structure SpanEvent where
  name : String
  attrs : List (String × AttrValue)
  deriving Repr, Inhabited

/-- The status of a span. -/
inductive Status where
  | unset
  | error
  | ok
  deriving DecidableEq, Repr, Inhabited

/-- The name of a status. -/
def Status.name : Status → String
  | unset => "Unset"
  | error => "Error"
  | ok => "Ok"

/-- A finished span. -/
structure Span where
  name : String
  kind : Nat
  attrs : List (String × AttrValue)
  events : List SpanEvent
  status : Status
  description : String
  scope : String
  hasParent : Bool
  deriving Repr, Inhabited

/-- The instrumentation scope of the propagation engine's spans. -/
def engineScope : String := "github.com/Mininet-Optical/mininet-optical-sub000/core"

/-- An internal span of the engine, without events and with status unset. -/
def Span.internal (name : String) (attrs : List (String × AttrValue)) (hasParent : Bool) : Span :=
  ⟨name, 1, attrs, [], .unset, "", engineScope, hasParent⟩

/-- The span with an error recorded on it as an `exception` event. -/
def Span.recordError (s : Span) (message : String) : Span :=
  { s with events := s.events ++ [⟨"exception", [("exception.message", .str message)]⟩] }

/-- The span with an error recorded on it and its status set to that error. -/
def Span.failWith (s : Span) (message : String) : Span :=
  { s.recordError message with status := .error, description := message }

end WdmNet.Trace

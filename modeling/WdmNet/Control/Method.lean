/-!
Full method names of remote calls.

A call names its method as `/package.Service/Method`. Metrics label a call by the service's
last dotted component and the method: the last two slash-separated parts of the name (after
one leading slash) are the service and the method, and a part that is missing or empty is
`unknown`.
-/

namespace WdmNet.Control

/-- The part after the last dot, when something follows that dot. -/
def lastDotted (s : String) : String :=
  match (s.splitOn ".").getLast? with
  | some t => if t.isEmpty then s else t
  | none => s

/-- An empty part reads `unknown`. -/
def orUnknown (s : String) : String := if s.isEmpty then "unknown" else s

/-- The service and the method of a full method name. -/
def splitMethod (full : String) : String × String :=
  if full.isEmpty then ("unknown", "unknown") else
  let body := if full.startsWith "/" then (full.drop 1).toString else full
  match (body.splitOn "/").reverse with
  | method :: service :: _ => (orUnknown (lastDotted service), orUnknown method)
  | _ => ("unknown", "unknown")

end WdmNet.Control

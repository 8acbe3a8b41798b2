import WdmNet.Control.Service
import WdmNet.Control.Method
/-!
Calls arriving at the control server.

A call names a method of the service and carries a message: a record, an empty message, or
bytes that read as an empty message but not as a record. A method the service does not have is
answered `Unimplemented` at once. A method that takes a record refuses bytes that are none with
`Internal` before anything else runs; methods that take nothing accept any message.

An instrumented server wraps every call it accepts in a server span named after the method and
tagged with the service, the method, the status code and, once the call is accepted, the entity
the request names; it gives the call a request id (the caller's, or a fresh one) and a logger
tagged with the method and the id, which the service and its passes write through; it logs the
outcome (`control command applied`, `control query served`, a rejected call for a client's
mistake, a failed call otherwise) and reports the call to the metrics. A failed call leaves an
`exception` event and the error status on the server span. A plain server does none of this.
-/

namespace WdmNet.Control

/-- How the server is set up. -/
inductive Serving where
  /-- Server spans, request ids, an access log and metrics around every call. -/
  | instrumented
  | plain
  deriving DecidableEq, Repr, Inhabited

/-- A message as it arrives. -/
inductive Message where
  | record (p : Payload)
  | empty
  /-- Bytes that read as an empty message but not as a record. -/
  | garbled
  deriving Repr, Inhabited

/-- The instrumentation scope of server spans. -/
def serverScope : String := "go.opentelemetry.io/contrib/instrumentation/google.golang.org/grpc/otelgrpc"

/-- The fields of a request that name the entity a call acts on, in the order they are tried. -/
def entityKeys : List String := ["roadm", "terminal", "amplifier", "node", "name"]

/-- The entity a request names: the first entity field holding non-empty text, with its key. -/
def requestEntity? (req : Option Payload) : Option (String × String) :=
  match req with
  | some p => (entityKeys.map fun k => (k, p.text k)).find? (!·.2.isEmpty)
  | none => none

/-- Whether a status code is a mistake of the caller. -/
def Code.isClientFault : Code → Bool
  | .invalidArgument | .notFound | .alreadyExists | .failedPrecondition => true
  | _ => false

/-- Whether a server span of a call that ended with this code gets the error status with the
status message. -/
def Code.failsServerSpan : Code → Bool
  | .unknown | .deadlineExceeded | .unimplemented | .internal | .unavailable | .dataLoss => true
  | _ => false

/-- The text of a status as an error. -/
def statusText (c : Code) (message : String) : String :=
  "rpc error: code = " ++ c.name ++ " desc = " ++ message

/-- A call served by the server. -/
structure Exchange where
  /-- The twin afterwards; none for a server without one. -/
  twin : Option Twin
  events : List Event
  code : Code
  message : String
  /-- The response of a successful call: a record, or nothing for an empty message. -/
  response : Option Payload
  /-- The full method and status code reported to the metrics. -/
  handled : Option (String × Code)

/-- The message of a failed decoding. -/
def garbledMessage : String :=
  "grpc: error unmarshalling request: proto: cannot parse invalid wire-format data"

/-- The request as the method reads it: a record, or nothing for a method that takes none. -/
def Method.readMessage (m : Method) : Message → Except String (Option Payload)
  | .record p => .ok (if m.takesNothing then none else some p)
  | .empty => .ok (if m.takesNothing then none else some (.record []))
  | .garbled => if m.takesNothing then .ok none else .error garbledMessage

/-- The server span of a call when it starts. -/
def serverSpan (path : String) : Trace.Span :=
  ⟨serviceName ++ "/" ++ path, 2,
    [("rpc.service", .str serviceName), ("rpc.method", .str path), ("rpc.system", .str "grpc")],
    [], .unset, "", serverScope, false⟩

/-- Ends a server span with the status code of its call. -/
def endServerSpan (sp : Trace.Span) (c : Code) (message : String) : Trace.Span :=
  let sp := { sp with attrs := sp.attrs ++ [("rpc.grpc.status_code", .int c.number)] }
  if c.failsServerSpan then { sp with status := .error, description := message } else sp

/-- Sets attributes of a span, replacing those of the same key. -/
def setAttrs (sp : Trace.Span) (as : List (String × Trace.AttrValue)) : Trace.Span :=
  { sp with attrs := sp.attrs.filter (fun (k, _) => !as.any (·.1 == k)) ++ as }

/-- The access log record of a call. -/
def accessRecord (scope : CallScope) (m : Method) (req : Option Payload) (c : Code)
    (message : String) : Event :=
  let fields := [Log.Attr.str "code" c.name, ⟨"duration", .duration 0⟩] ++
    ((requestEntity? req).map fun (k, v) => Log.Attr.str k v).toList
  let err := [Log.Attr.str "error" (statusText c message)]
  let (level, msg, fields) :=
    if c == .ok then
      if m.isQuery then (Log.Level.debug, "control query served", fields)
      else (.info, "control command applied", fields)
    else if c.isClientFault then (.info, "control call rejected", fields ++ err)
    else (.warn, "control call failed", fields ++ err)
  .logged ⟨level, msg, scope.attrs ++ fields⟩

/-- Serves a call of the method at `path` with a message, on a twin (none for a server
without one). `requestId` is the caller's request id, `freshId` the one made when there is
none. -/
def handleCall (tw : Option Twin) (serving : Serving) (path : String) (msg : Message)
    (requestId : Option String) (freshId : String) : Exchange :=
  match Method.ofName? path with
  | none =>
    ⟨tw, [], .unimplemented, "unknown method " ++ path ++ " for service " ++ serviceName, none, none⟩
  | some m =>
    let span := serverSpan path
    let traced (sp : Trace.Span) : List Event := if serving == .instrumented then [.traced sp] else []
    match m.readMessage msg with
    | .error e => ⟨tw, traced (endServerSpan span .internal e), .internal, e, none, none⟩
    | .ok req =>
      match serving with
      | .plain =>
        let v := serve tw .bare m req
        ⟨v.twin, v.events, v.reply.code, v.reply.message, v.reply.response, none⟩
      | .instrumented =>
        let id := match requestId with
          | some i => if i.isEmpty then freshId else i
          | none => freshId
        let scope : CallScope := ⟨[.str "method" m.fullName, .str "request_id" id], true⟩
        let (service, method) := splitMethod m.fullName
        let span := setAttrs span ([("rpc.system", .str "grpc"), ("rpc.service", .str service),
            ("rpc.method", .str method), ("rpc.full_method", .str (serviceName ++ "/" ++ path))] ++
          ((requestEntity? req).map fun (k, v) =>
            [("twin.entity_type", Trace.AttrValue.str k), ("twin.entity", .str v)]).getD [] ++
          [("request_id", .str id)])
        let span := { span with name := "Control/" ++ service ++ "/" ++ method }
        let v := serve tw scope m req
        let c := v.reply.code
        let span := if c == .ok then span
          else span.failWith (statusText c v.reply.message)
        let span := endServerSpan span c v.reply.message
        ⟨v.twin, v.events ++ [accessRecord scope m req c v.reply.message, .traced span], c,
          v.reply.message, v.reply.response, some (m.fullName, c)⟩

end WdmNet.Control

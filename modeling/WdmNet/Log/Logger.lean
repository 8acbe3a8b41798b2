import WdmNet.Log.Line
/-!
Loggers and the scope of a request.

A logger writes records at or above its level in its format; it carries attributes added by
`with`, which come before those of each call. The logger that drops everything has no sink.

A scope travels with a request: an optional request id, the propagation pass it belongs to
and a logger. A missing scope stands for none at all; adding a value to it fails, while the
helpers that make a scope (`ensureRequestId`, `withPass`) start from an empty one.
-/

namespace WdmNet.Log

/-- The level of this name in any case (`warning` for `warn`); `info` for any other name. -/
def Level.parse (s : String) : Level :=
  match Text.lower s with
  | "debug" => .debug
  | "warn" | "warning" => .warn
  | "error" => .error
  | _ => .info

/-- Where a logger's records go: the least level written and the line format. -/
structure Sink where
  level : Level
  format : Format
  deriving Repr, Inhabited

/-- The line of a record, if it is at or above the sink's level. -/
def Sink.write (k : Sink) (r : Record) : Option Line :=
  if k.level.rank ≤ r.level.rank then some (r.line k.format) else none

/-- A logger: its sink (none drops every record) and the attributes added by `with`. -/
structure Logger where
  sink : Option Sink
  attrs : List Attr
  deriving Repr, Inhabited

namespace Logger

/-- A logger at the named level and in the named format. -/
def create (level format : String) : Logger := ⟨some ⟨Level.parse level, Format.parse format⟩, []⟩

/-- The logger that drops every record. -/
def noop : Logger := ⟨none, []⟩

/-- The logger with attributes added after its own. -/
def add (l : Logger) (as : List Attr) : Logger := { l with attrs := l.attrs ++ as }

/-- The record a call writes: the logger's attributes, then the call's. -/
def record (l : Logger) (level : Level) (msg : String) (as : List Attr) : Record :=
  ⟨level, msg, l.attrs ++ as⟩

/-- The line a call writes, if any. -/
def write (l : Logger) (level : Level) (msg : String) (as : List Attr) : Option Line :=
  l.sink.bind fun k => k.write (l.record level msg as)

end Logger

/-- The propagation pass a record belongs to. -/
structure PassScope where
  id : Nat
  kind : String
  origin : String
  safe : Bool
  deriving Repr, Inhabited

/-- The attributes of a pass. -/
def PassScope.attrs (p : PassScope) : List Attr :=
  [⟨"pass", .count p.id⟩, .str "pass_kind" p.kind, .str "origin" p.origin, .bool "safe" p.safe]

/-- The values a request carries. -/
structure Scope where
  requestId : Option String := none
  pass : Option PassScope := none
  logger : Option Logger := none
  deriving Repr, Inhabited

/-- Why a value cannot be added to a missing scope. -/
def nilParent : String := "cannot create context from nil parent"

namespace Scope

/-- The request id of a scope; empty when there is none. -/
def requestIdOf (c : Option Scope) : String := (c.bind (·.requestId)).getD ""

/-- The logger of a scope, if it has one. -/
def loggerOf (c : Option Scope) : Option Logger := c.bind (·.logger)

/-- The pass of a scope, if it has one. -/
def passOf (c : Option Scope) : Option PassScope := c.bind (·.pass)

/-- The scope with a request id. -/
def withRequestId (c : Option Scope) (id : String) : Except String Scope :=
  match c with
  | some s => .ok { s with requestId := some id }
  | none => .error nilParent

/-- The scope with a logger; a missing logger stores the one that drops everything. -/
def withLogger (c : Option Scope) (l : Option Logger) : Except String Scope :=
  match c with
  | some s => .ok { s with logger := some (l.getD .noop) }
  | none => .error nilParent

/-- The logger of the scope, else the fallback, else the one that drops everything. -/
def loggerOr (c : Option Scope) (fallback : Option Logger) : Logger :=
  ((loggerOf c).orElse fun _ => fallback).getD .noop

/-- A scope with a request id: the one it has, else `fresh`. -/
def ensureRequestId (c : Option Scope) (fresh : String) : Scope × String :=
  let s := c.getD {}
  let id := requestIdOf (some s)
  if id.isEmpty then ({ s with requestId := some fresh }, fresh) else (s, id)

/-- A scope with a request id and the logger tagged with it. -/
def withRequestLogger (c : Option Scope) (base : Option Logger) (fresh : String) :
    Scope × Logger :=
  let (s, id) := ensureRequestId c fresh
  (s, (base.getD .noop).add [.str "request_id" id])

/-- A scope for a pass: the scope's logger (else `base`) tagged with the pass, stored with
the pass. -/
def withPass (c : Option Scope) (base : Option Logger) (p : PassScope) : Scope × Logger :=
  let s := c.getD {}
  let l := (loggerOr (some s) base).add p.attrs
  ({ s with pass := some p, logger := some l }, l)

end Scope

/-- How a logging call is made: from a scope or from none, with a request id added to it (when
not empty), through a request logger, inside a pass, and through the logger stored in the
scope. -/
structure CallSetup where
  noScope : Bool
  requestId : String
  requestLogger : Bool
  pass : Option PassScope
  scopeLogger : Bool
  deriving Repr, Inhabited

/-- The scope a call ends with and the logger it writes through, starting from a logger, or
why a step failed; `fresh` is the request id made when one is needed. -/
def CallSetup.run (c : CallSetup) (l : Logger) (fresh : String) :
    Except String (Option Scope × Logger) := do
  let ctx0 : Option Scope := if c.noScope then none else some {}
  let ctx ← if c.requestId.isEmpty then pure ctx0 else some <$> Scope.withRequestId ctx0 c.requestId
  let (ctx, l) := if c.requestLogger then
      let (s, l) := Scope.withRequestLogger ctx (some l) fresh
      (some s, l)
    else (ctx, l)
  let (ctx, l) := match c.pass with
    | some p =>
      let (s, l) := Scope.withPass ctx (some l) p
      (some s, l)
    | none => (ctx, l)
  if c.scopeLogger then do
    let s ← Scope.withLogger ctx (some l)
    pure (some s, Scope.loggerOr (some s) none)
  else pure (ctx, l)

end WdmNet.Log

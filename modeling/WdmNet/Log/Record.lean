import WdmNet.Json.Value
/-!
Log records.

A record has a level, a message and attributes in the order they were added: first those of
the logger it was written through (its context, such as the pass it belongs to), then those
of the call. Attribute values keep their kind, because the two output formats write kinds
differently.
-/

namespace WdmNet.Log

/-- The severity of a record, from least to most severe. -/
inductive Level where
  | debug
  | info
  | warn
  | error
  deriving DecidableEq, Repr, Inhabited

namespace Level

/-- The rank of a level: records below a logger's level are dropped. -/
def rank : Level → Nat
  | debug => 0
  | info => 1
  | warn => 2
  | error => 3

/-- The name of a level as records show it. -/
def name : Level → String
  | debug => "DEBUG"
  | info => "INFO"
  | warn => "WARN"
  | error => "ERROR"

end Level

/-- The value of an attribute. -/
inductive Value where
  | str (s : String)
  | int (i : Int)
  /-- An unsigned counter. -/
  | count (n : Nat)
  | float (x : Float)
  | bool (b : Bool)
  /-- A duration in nanoseconds. -/
  | duration (ns : Int)
  /-- A free-form value, as decoded from JSON. -/
  | any (j : Json)
  deriving Repr, Inhabited

/-- A named value. -/
structure Attr where
  key : String
  value : Value
  deriving Repr, Inhabited

/-- A log record. -/
structure Record where
  level : Level
  msg : String
  attrs : List Attr
  deriving Repr, Inhabited

/-- A text attribute. -/
def Attr.str (k v : String) : Attr := ⟨k, .str v⟩

/-- An integer attribute. -/
def Attr.int (k : String) (v : Int) : Attr := ⟨k, .int v⟩

/-- A boolean attribute. -/
def Attr.bool (k : String) (v : Bool) : Attr := ⟨k, .bool v⟩

/-- The same record with context attributes in front of its own. -/
def Record.within (ctx : List Attr) (r : Record) : Record := { r with attrs := ctx ++ r.attrs }

end WdmNet.Log

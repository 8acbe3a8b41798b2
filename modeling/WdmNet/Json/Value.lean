import WdmNet.Decimal.Notation
/-!
JSON documents.

A document keeps what its text says: object members in the order written (a repeated key
stays repeated), and every number as the literal that spelled it, so that a value read from
a file can be echoed and a message can quote the literal that was refused. Numbers that the
library writes come from `Json.ofFloat` and `Json.ofInt`.
-/

namespace WdmNet

/-- A JSON document with members in written order and numbers as their literals. -/
inductive Json where
  | null
  | bool (b : Bool)
  | num (literal : String)
  | str (s : String)
  | arr (items : List Json)
  | obj (members : List (String × Json))
  deriving Repr, Inhabited, BEq

namespace Json

/-- An integer as a number. -/
def ofInt (n : Int) : Json := num (toString n)

/-- A natural number as a number. -/
def ofNat (n : Nat) : Json := num (toString n)

/-- A finite double as the number text of data files (`Decimal.jsonText`). -/
def ofFloat (x : Float) : Json := num (Decimal.jsonText x)

/-- The first member named `k`, if the document is an object holding one. -/
def field? (j : Json) (k : String) : Option Json :=
  match j with
  | obj ms => (ms.find? (·.1 == k)).map (·.2)
  | _ => none

/-- Whether the document is an object. -/
def isObj : Json → Bool
  | obj _ => true
  | _ => false

/-- The name of the kind of a document, as type errors cite it. -/
def kindName : Json → String
  | null => "null"
  | bool _ => "bool"
  | num _ => "number"
  | str _ => "string"
  | arr _ => "array"
  | obj _ => "object"

end Json

end WdmNet

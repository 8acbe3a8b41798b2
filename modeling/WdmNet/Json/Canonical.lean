import WdmNet.Json.Value
/-!
Canonical JSON documents.

A document read into a generic map and written back keeps one member per key, the one written
last, lists its members in key order, and writes every number as the double nearest to its
literal. `canonical` computes that form, so two documents that a decoder cannot tell apart have
the same canonical form. A decoder that keeps numbers as text writes them back as they were
read; `keepingNumbers` computes that form.
-/

namespace WdmNet.Json

/-- Members with one per key, the last written, in key order. -/
def lastWins (ms : List (String × Json)) : List (String × Json) :=
  let kept := ms.reverse.foldl (fun acc (k, v) => if acc.any (·.1 == k) then acc else acc ++ [(k, v)]) []
  kept.mergeSort fun a b => decide (a.1 ≤ b.1)

/-- A number literal written as the double nearest to it; a literal that is no number stays. -/
def canonicalNumber (lit : String) : Json :=
  match Decimal.Scaled.ofNumeral? lit with
  | some d => ofFloat d.toFloat
  | none => num lit

mutual
/-- A document read into a generic map and written back, with `number` writing each number
literal again. -/
def regroup (number : String → Json) : Json → Json
  | obj ms => obj (lastWins (regroupMembers number ms))
  | arr items => arr (regroupItems number items)
  | num lit => number lit
  | j => j

/-- Items read and written back. -/
def regroupItems (number : String → Json) : List Json → List Json
  | [] => []
  | j :: rest => regroup number j :: regroupItems number rest

/-- Members read and written back, in written order. -/
def regroupMembers (number : String → Json) : List (String × Json) → List (String × Json)
  | [] => []
  | (k, j) :: rest => (k, regroup number j) :: regroupMembers number rest
end

/-- The canonical form of a document: numbers become the double nearest to them. -/
def canonical (j : Json) : Json := regroup canonicalNumber j

/-- A document read and written back with its numbers kept as written. -/
def keepingNumbers (j : Json) : Json := regroup num j

end WdmNet.Json

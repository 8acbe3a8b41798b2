import WdmNet.Decimal.Binary
/-!
The shortest decimal that reads back as a given double.

The reals that round to a nonzero double `sig * 2^exp` form an interval around it whose ends
lie half a unit of the last place away (a quarter below when `sig` is the smallest normal
significand of a binade above the first); the ends belong to it when `sig` is even, since a
tie then rounds to this double. For `n = 1, 2, …, 17` the value's two neighbours on the grid
of `n`-digit decimals are tested against that interval in exact arithmetic; the first `n`
with a hit wins, of two hits the nearer one, and of two equally near ones the even one.
Seventeen digits always suffice for a double.
-/

namespace WdmNet.Decimal

/-- Whether `d * 10^p` lies in the reading interval of `sig * 2^exp`. -/
def readsBack (sig : Nat) (exp : Int) (d : Nat) (p : Int) : Bool :=
  let narrow := sig == Nat.pow 2 52 && exp > -1074
  let lo := 4 * sig - (if narrow then 1 else 2)
  let hi := 4 * sig + 2
  let closed := sig % 2 == 0
  let cl := cmpScaled d p lo (exp - 2)
  let ch := cmpScaled d p hi (exp - 2)
  (cl == .gt || (closed && cl == .eq)) && (ch == .lt || (closed && ch == .eq))

/-- The `n`-digit decimal that reads back as `sig * 2^exp`, if there is one. -/
def shortestOfLength (sig : Nat) (exp : Int) (e10 : Int) (n : Nat) : Option (Nat × Int) :=
  let p := e10 - n + 1
  let d := floorScaled sig exp p
  let below := readsBack sig exp d p
  let above := readsBack sig exp (d + 1) p
  if below && above then
    match cmpScaled (2 * d + 1) p sig (exp + 1) with
    | .lt => some (d + 1, p)
    | .gt => some (d, p)
    | .eq => if d % 2 == 0 then some (d, p) else some (d + 1, p)
  else if below then some (d, p)
  else if above then some (d + 1, p)
  else none

/-- The shortest decimal that reads back as the double, nearest of those; zero gives a zero
coefficient. The coefficient carries no trailing zero. -/
def Binary.shortest (x : Binary) : Scaled :=
  if x.isZero then ⟨x.neg, 0, 0⟩ else
  let e10 := x.decimalExponent
  let found := (List.range 17).findSome? fun i => shortestOfLength x.sig x.exp e10 (i + 1)
  let (c, p) := found.getD (floorScaled x.sig x.exp (e10 - 16), e10 - 16)
  Scaled.normalize ⟨x.neg, c, p⟩

end WdmNet.Decimal

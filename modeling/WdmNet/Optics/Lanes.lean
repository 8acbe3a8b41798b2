/-!
Sums accumulated in lanes.

Sums and dot products over the carriers of a set are not added left to right: the values go
into pairs of lanes, a low and a high one, that meet only near the end. The order matters for
doubles, whose addition rounds; the definitions take any type with an addition, so that the
same sums can be read in exact arithmetic, where the order does not matter.

* `Lanes.sum` takes the values two at a time, the first of a pair to a low lane and the
  second to a high lane: four lane pairs in turn over blocks of eight values, then two lane
  pairs for a block of four, then one for a last pair. The lanes meet, and a value left over
  is added last.
* `Lanes.dot` takes the products four at a time, the first two into one lane pair and the
  last two into another; the one to three products left over go one by one into the low lane
  of the first pair, then the two pairs meet and last their lanes.
-/

namespace WdmNet

/-- A low and a high lane of a running sum. -/
structure Lanes (α : Type) where
  lo : α
  hi : α
  deriving Repr, Inhabited

namespace Lanes

variable {α : Type} [Add α] [Mul α] [OfNat α 0]

/-- Both lanes empty. -/
def zero : Lanes α := ⟨0, 0⟩

/-- Adds lane by lane. -/
def add (a b : Lanes α) : Lanes α := ⟨a.lo + b.lo, a.hi + b.hi⟩

/-- The low lane plus the high lane. -/
def total (a : Lanes α) : α := a.lo + a.hi

/-- Adds the pairs of `xs` to four lane pairs in turn; the tuple is rotated after every pair,
so that after a multiple of four pairs it is back in its order. -/
def spreadFour : List α → Lanes α × Lanes α × Lanes α × Lanes α →
    Lanes α × Lanes α × Lanes α × Lanes α
  | a :: b :: rest, (r0, r1, r2, r3) => spreadFour rest (r1, r2, r3, r0.add ⟨a, b⟩)
  | _, rs => rs

/-- The sum of `xs`: blocks of eight values over four lane pairs, which are then folded into
two; a block of four over those two, folded into one; a last pair; the lanes meet; a last
single value. -/
def sum (xs : List α) : α :=
  let m := xs.length / 8 * 8
  let (r0, r1, r2, r3) := spreadFour (xs.take m) (zero, zero, zero, zero)
  let rest := xs.drop m
  let r0 := r0.add r3
  let r1 := r1.add r2
  let (r0, r1, rest) := match rest with
    | a :: b :: c :: d :: t => (r0.add ⟨a, b⟩, r1.add ⟨c, d⟩, t)
    | t => (r0, r1, t)
  let r0 := r0.add r1
  let (r0, rest) := match rest with
    | a :: b :: t => (r0.add ⟨a, b⟩, t)
    | t => (r0, t)
  match rest with
  | [x] => r0.total + x
  | _ => r0.total

/-- Adds blocks of four products to two lane pairs, the first two of a block to `r0` and the
last two to `r1`; returns the products left over (fewer than four). -/
def dotBlocks : List α → Lanes α × Lanes α → (Lanes α × Lanes α) × List α
  | a :: b :: c :: d :: rest, (r0, r1) => dotBlocks rest (r0.add ⟨a, b⟩, r1.add ⟨c, d⟩)
  | rest, rs => (rs, rest)

/-- The dot product from the products `ps`: blocks of four over two lane pairs, the remaining
products one by one into the low lane of the first pair, then the pairs meet and last the
lanes. -/
def dotFrom (ps : List α) : α :=
  let ((r0, r1), rest) := dotBlocks ps (zero, zero)
  let r0 : Lanes α := ⟨rest.foldl (· + ·) r0.lo, r0.hi⟩
  (r0.add r1).total

/-- The dot product of `xs` and `ys` (of the common length). -/
def dot (xs ys : List α) : α :=
  dotFrom (List.zipWith (· * ·) xs ys)

end Lanes

end WdmNet

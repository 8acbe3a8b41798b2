import Mathlib
import WdmNet.Optics.Lanes
import WdmNet.Optics.Scalar
import WdmNet.Proofs.Roadm.Leveling
/-!
The optical formulas in exact arithmetic.

Gain control, the Raman factors and the GN model are written over any number type (`Scalar`).
Over the real numbers (`Scalar.real`) they use the exponential, the inverse hyperbolic sine, `π`,
the absolute value and the decibel scales of analysis, every value is finite, and sums, dot
products and means are the plain ones the numerical library documents. The simulator's library
accumulates its sums in lanes (`Lanes.sum`, `Lanes.dot`) in an order chosen for doubles; in
exact arithmetic the order does not matter, and the lanes give the plain sum and the plain dot
product (`Lanes.sum_eq_sum`, `Lanes.dot_eq_sum`): the documented contract holds of them.
-/

namespace WdmNet

/-- Exact arithmetic: the exponential, `eˣ - 1`, the inverse hyperbolic sine, `π`, the absolute
value and the decibel scales of the real numbers, and the plain sum, dot product and mean. A
ratio that is not positive has no decibel value; `linearToDb` gives there what `Real.logb`
gives, and no statement reads it. -/
noncomputable def Scalar.real : Scalar ℝ where
  exp := Real.exp
  exp1m x := Real.exp x - 1
  asinh := Real.arsinh
  pi := Real.pi
  abs x := |x|
  ofNat n := n
  dbToLinear := ExactState.dbToLinear
  linearToDb := ExactState.linearToDb
  finite _ := true
  sum := List.sum
  dot xs ys := (List.zipWith (· * ·) xs ys).sum
  mean xs := xs.sum / xs.length

namespace Lanes

variable {α : Type} [AddCommMonoid α]

@[simp] theorem add_total (a b : Lanes α) : (a.add b).total = a.total + b.total := by
  simp only [add, total]
  abel

@[simp] theorem zero_total : (zero : Lanes α).total = 0 := by
  simp [zero, total]

@[simp] theorem mk_total (lo hi : α) : (⟨lo, hi⟩ : Lanes α).total = lo + hi := rfl

/-- The four totals of a tuple of lane pairs together. -/
def quadTotal (q : Lanes α × Lanes α × Lanes α × Lanes α) : α :=
  q.1.total + q.2.1.total + q.2.2.1.total + q.2.2.2.total

/-- Spreading an even number of values over four lane pairs adds their sum to the totals. -/
theorem quadTotal_spreadFour (xs : List α) (rs : Lanes α × Lanes α × Lanes α × Lanes α)
    (heven : xs.length % 2 = 0) : quadTotal (spreadFour xs rs) = quadTotal rs + xs.sum := by
  fun_induction spreadFour xs rs with
  | case1 a b rest r0 r1 r2 r3 ih =>
    rw [ih (by simp at heven; omega)]
    simp only [quadTotal, add_total, mk_total, List.sum_cons]
    abel
  | case2 xs rs hxs =>
    -- an even list that is not two values and more is empty
    rcases xs with _ | ⟨x, _ | ⟨y, rest⟩⟩
    · simp
    · simp at heven
    · exact (hxs x y rest rs.1 rs.2.1 rs.2.2.1 rs.2.2.2 rfl rfl).elim

/-- In exact arithmetic the lanes give the plain sum. -/
theorem sum_eq_sum (xs : List α) : Lanes.sum xs = xs.sum := by
  have hsplit : xs.sum = (xs.take (xs.length / 8 * 8)).sum + (xs.drop (xs.length / 8 * 8)).sum := by
    rw [← List.sum_append, List.take_append_drop]
  have hblocks := quadTotal_spreadFour (xs.take (xs.length / 8 * 8)) (zero, zero, zero, zero)
    (by simp only [List.length_take]; omega)
  have hrest : (xs.drop (xs.length / 8 * 8)).length < 8 := by
    simp only [List.length_drop]
    omega
  unfold Lanes.sum
  dsimp only
  generalize spreadFour (xs.take (xs.length / 8 * 8)) (zero, zero, zero, zero) = q at hblocks
  generalize xs.drop (xs.length / 8 * 8) = rest at hrest hsplit
  obtain ⟨r0, r1, r2, r3⟩ := q
  simp only [quadTotal, zero_total, add_zero, zero_add] at hblocks
  rw [hsplit, ← hblocks]
  -- at most seven values are left, taken as a block of four, a pair and a last value
  rcases rest with _ | ⟨a, _ | ⟨b, _ | ⟨c, _ | ⟨d, _ | ⟨e, _ | ⟨f, _ | ⟨g, _ | ⟨h, t⟩⟩⟩⟩⟩⟩⟩⟩
  case cons.cons.cons.cons.cons.cons.cons.cons =>
    simp only [List.length_cons] at hrest
    omega
  all_goals
    simp only [add_total, mk_total, List.sum_cons, List.sum_nil, add_zero]
    abel

/-- Blocks of four values spread over two lane pairs add their sum to the totals, less what is
left over. -/
theorem dotBlocks_total (ps : List α) (rs : Lanes α × Lanes α) :
    (dotBlocks ps rs).1.1.total + (dotBlocks ps rs).1.2.total + (dotBlocks ps rs).2.sum =
      rs.1.total + rs.2.total + ps.sum := by
  fun_induction dotBlocks ps rs with
  | case1 a b c d rest r0 r1 ih =>
    rw [ih]
    simp only [add_total, mk_total, List.sum_cons]
    abel
  | case2 rest rs => rfl

/-- In exact arithmetic the lanes of a dot product give the plain sum of the products. -/
theorem dotFrom_eq_sum (ps : List α) : dotFrom ps = ps.sum := by
  have hblocks := dotBlocks_total ps (zero, zero)
  unfold dotFrom
  dsimp only
  generalize dotBlocks ps (zero, zero) = q at hblocks
  obtain ⟨⟨r0, r1⟩, rest⟩ := q
  simp only [zero_total, add_zero, zero_add] at hblocks
  -- the values left over go one by one into the low lane
  have hfold : rest.foldl (· + ·) r0.lo = r0.lo + rest.sum := by
    rw [List.foldl_eq_apply_foldr]
    rfl
  rw [← hblocks]
  simp only [hfold, add_total, mk_total]
  simp only [total]
  abel

/-- In exact arithmetic the lanes give the plain dot product. -/
theorem dot_eq_sum {β : Type} [CommSemiring β] (xs ys : List β) :
    dot xs ys = (List.zipWith (· * ·) xs ys).sum :=
  dotFrom_eq_sum _

end Lanes

end WdmNet

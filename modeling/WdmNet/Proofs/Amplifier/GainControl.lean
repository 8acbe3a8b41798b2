import WdmNet.Network.Amplifier
import WdmNet.Proofs.Optics.Exact
/-!
Automatic gain control settles in two iterations, in exact arithmetic.

Gain control (`GainControl.adjustGain`) measures the gain that the carriers realise at the
current system gain and moves the system gain by the difference to the target, until the
difference is within `gainToleranceDb`. In exact arithmetic the realised gain is the system gain
plus an offset `K` that only the carriers' powers and the ripple of their channels determine
(`realizedGain_eq_add_offset`): for total power the decibel value of the power-weighted mean
ripple gain (`realizedGain_totalPower`), for the geometric mean the mean ripple over the carriers
that have power (`realizedGain_geometricMean`). So the first move lands on `target - K`, where
the realised gain is the target exactly, and the second measurement stops the loop
(`controlLoop_of_affine`). Run again on the same carriers, gain control then keeps the gain it
reached: in exact arithmetic it has always settled (`GainControl.Settles`,
`adjustGain_rerun`).

Main statement: `GainControl.gain_control_settles_within_two`.
-/

namespace WdmNet

namespace GainControl

variable {ripple : Int → ℝ} {powers : List (Int × ℝ)}

/-! ### The realised gain is the system gain plus an offset -/

theorem gainToleranceDb_pos : (0 : ℝ) < gainToleranceDb := by
  norm_num [gainToleranceDb]

/-- The carriers with power, among carriers whose powers are not negative and have a positive
sum, are not none. -/
theorem exists_powered (hnonneg : ∀ c ∈ powers, 0 ≤ c.2) (hpos : 0 < (powers.map (·.2)).sum) :
    ∃ c ∈ powers, 0 < c.2 := by
  by_contra hnone
  simp only [not_exists, not_and, not_lt] at hnone
  -- otherwise every power is zero
  have hzero : (powers.map (·.2)).sum = 0 :=
    List.sum_eq_zero fun x hx => by
      obtain ⟨c, hc, rfl⟩ := List.mem_map.mp hx
      exact le_antisymm (hnone c hc) (hnonneg c hc)
  linarith

theorem powered_length_pos (hnonneg : ∀ c ∈ powers, 0 ≤ c.2)
    (hpos : 0 < (powers.map (·.2)).sum) : 0 < (powers.filter (·.2 > 0)).length := by
  obtain ⟨c, hc, hcpos⟩ := exists_powered hnonneg hpos
  exact List.length_pos_of_mem (List.mem_filter.mpr ⟨hc, by simpa using hcpos⟩)

/-- A decibel value of a sum of system gain and ripple splits into a product. -/
theorem dbToLinear_add (x y : ℝ) :
    ExactState.dbToLinear (x + y) = ExactState.dbToLinear x * ExactState.dbToLinear y := by
  unfold ExactState.dbToLinear
  rw [add_div, Real.rpow_add (by norm_num)]

/-- With total power, the realised gain is the system gain plus the decibel value of the
power-weighted mean of the channels' ripple gains. -/
theorem realizedGain_totalPower (hnonneg : ∀ c ∈ powers, 0 ≤ c.2)
    (hpos : 0 < (powers.map (·.2)).sum) (sys : ℝ) :
    totalPower.realizedGain Scalar.real ripple powers sys =
      sys + 10 * Real.logb 10
        ((powers.map fun c => c.2 * ExactState.dbToLinear (ripple c.1)).sum /
          (powers.map (·.2)).sum) := by
  -- the weighted ripple gains have a positive sum, as some carrier has power
  have hweighted : 0 < (powers.map fun c => c.2 * ExactState.dbToLinear (ripple c.1)).sum := by
    obtain ⟨c, hc, hcpos⟩ := exists_powered hnonneg hpos
    have hterm : 0 < c.2 * ExactState.dbToLinear (ripple c.1) :=
      mul_pos hcpos (ExactState.dbToLinear_pos _)
    refine lt_of_lt_of_le hterm (List.single_le_sum (fun x hx => ?_) _ (List.mem_map_of_mem hc))
    obtain ⟨d, hd, rfl⟩ := List.mem_map.mp hx
    exact mul_nonneg (hnonneg d hd) (ExactState.dbToLinear_pos _).le
  -- the system gain is a common factor of every channel's output
  have hfactor : (powers.map fun c => c.2 * ExactState.dbToLinear (sys + ripple c.1)).sum =
      ExactState.dbToLinear sys * (powers.map fun c => c.2 * ExactState.dbToLinear (ripple c.1)).sum := by
    rw [← List.sum_map_mul_left]
    congr 1
    refine List.map_congr_left fun c _ => ?_
    rw [dbToLinear_add]
    ring
  have hsys : Real.logb 10 (ExactState.dbToLinear sys) = sys / 10 := by
    unfold ExactState.dbToLinear
    rw [Real.logb_rpow (by norm_num) (by norm_num)]
  simp only [realizedGain, Scalar.real, ExactState.linearToDb]
  rw [hfactor, mul_div_assoc, Real.logb_mul (ExactState.dbToLinear_pos sys).ne'
    (div_pos hweighted hpos).ne', hsys]
  ring

/-- With the geometric mean, the realised gain is the system gain plus the mean ripple of the
carriers that have power; there is at least one. -/
theorem realizedGain_geometricMean (hnonneg : ∀ c ∈ powers, 0 ≤ c.2)
    (hpos : 0 < (powers.map (·.2)).sum) (sys : ℝ) :
    geometricMean.realizedGain Scalar.real ripple powers sys =
      sys + ((powers.filter (·.2 > 0)).map fun c => ripple c.1).sum /
        (powers.filter (·.2 > 0)).length := by
  have hm : (0 : ℝ) < (powers.filter (·.2 > 0)).length := by
    exact_mod_cast powered_length_pos hnonneg hpos
  -- the mean of the channel gains is the system gain plus the mean of the ripples
  have hsum : ((powers.filter (·.2 > 0)).map fun c => sys + ripple c.1).sum =
      (powers.filter (·.2 > 0)).length * sys + ((powers.filter (·.2 > 0)).map fun c => ripple c.1).sum := by
    rw [List.sum_map_add]
    simp
  simp only [realizedGain, Scalar.real, List.length_map]
  rw [hsum]
  field_simp

/-- The realised gain is the system gain plus the gain realised at system gain zero: an offset
that the powers and the ripple determine, whatever the system gain. -/
theorem realizedGain_eq_add_offset (g : GainControl) (hnonneg : ∀ c ∈ powers, 0 ≤ c.2)
    (hpos : 0 < (powers.map (·.2)).sum) (sys : ℝ) :
    g.realizedGain Scalar.real ripple powers sys = sys + g.realizedGain Scalar.real ripple powers 0 := by
  cases g with
  | totalPower =>
    rw [realizedGain_totalPower hnonneg hpos, realizedGain_totalPower hnonneg hpos, zero_add]
  | geometricMean =>
    rw [realizedGain_geometricMean hnonneg hpos, realizedGain_geometricMean hnonneg hpos, zero_add]

/-! ### The loop -/

/-- Gain control when the realised gain is the system gain plus `K`. The first iteration stops
if the start is within the tolerance; otherwise the system gain moves to `target - K`, where the
realised gain is the target, and a second iteration, if one is left, stops there. -/
theorem controlLoop_of_affine {realized : ℝ → ℝ} {K : ℝ} (hK : ∀ s, realized s = s + K)
    (target sys : ℝ) (fuel iters : Nat) :
    controlLoop Scalar.real realized target (fuel + 1) sys iters =
      if |target - (sys + K)| ≤ gainToleranceDb then (sys, iters + 1)
      else (target - K, iters + 1 + min fuel 1) := by
  simp only [controlLoop, hK, Scalar.real]
  split
  · rfl
  · have hmove : sys + (target - (sys + K)) = target - K := by ring
    rw [hmove]
    cases fuel with
    | zero => rfl
    | succ fuel =>
      -- at `target - K` the difference is zero
      have hmet : |target - (target - K + K)| ≤ gainToleranceDb := by
        rw [sub_add_cancel, sub_self, abs_zero]
        exact gainToleranceDb_pos.le
      have hone : min (fuel + 1) 1 = 1 := by omega
      simp only [controlLoop, hK, hmet, if_true, hone]

/-- Carriers that have power get the whole run of gain control from the given system gain. -/
theorem adjustGain_of_powered (g : GainControl) (hne : powers ≠ [])
    (hpos : 0 < (powers.map (·.2)).sum) (target sys : ℝ) (maxIters : Nat) :
    g.adjustGain Scalar.real ripple powers target sys maxIters =
      controlLoop Scalar.real (g.realizedGain Scalar.real ripple powers) target maxIters sys 0 := by
  have hfold : powers.foldl (fun acc c => acc + c.2) 0 = (powers.map (·.2)).sum := by
    rw [← List.foldl_map, List.sum_eq_foldl]
  have hguard : (powers.isEmpty || decide (powers.foldl (fun acc c => acc + c.2) 0 ≤ 0)) = false := by
    simp [hne, hfold, hpos]
  simp only [adjustGain, hguard, Bool.false_eq_true, if_false]

/-- Automatic gain control settles within two iterations, in exact arithmetic. For carriers of
powers that are not negative and have a positive sum, any ripple of their channels, either
strategy, any target, any starting system gain and at least one iteration allowed: the mean over
the carriers with power is over at least one, and the total power is not zero; the realised
gain is the system gain plus an offset `K` (the gain realised at system gain zero); gain control
runs at most two iterations, and at most as many as allowed; afterwards the realised gain is
within the tolerance of the target, and the system gain within the tolerance of `target - K`. -/
theorem gain_control_settles_within_two (g : GainControl) (hne : powers ≠ [])
    (hnonneg : ∀ c ∈ powers, 0 ≤ c.2) (hpos : 0 < (powers.map (·.2)).sum) (target sys : ℝ)
    {maxIters : Nat} (hmax : 1 ≤ maxIters) :
    (powers.filter (·.2 > 0)).length ≠ 0 ∧ Scalar.real.sum (powers.map (·.2)) ≠ 0 ∧
      (∀ s, g.realizedGain Scalar.real ripple powers s =
        s + g.realizedGain Scalar.real ripple powers 0) ∧
      (g.adjustGain Scalar.real ripple powers target sys maxIters).2 ≤ min 2 maxIters ∧
      |g.realizedGain Scalar.real ripple powers
          (g.adjustGain Scalar.real ripple powers target sys maxIters).1 - target| ≤
        gainToleranceDb ∧
      |(g.adjustGain Scalar.real ripple powers target sys maxIters).1 -
          (target - g.realizedGain Scalar.real ripple powers 0)| ≤ gainToleranceDb := by
  have haffine : ∀ s, g.realizedGain Scalar.real ripple powers s =
      s + g.realizedGain Scalar.real ripple powers 0 :=
    realizedGain_eq_add_offset g hnonneg hpos
  refine ⟨(powered_length_pos hnonneg hpos).ne', hpos.ne', haffine, ?_⟩
  obtain ⟨fuel, rfl⟩ : ∃ fuel, maxIters = fuel + 1 := ⟨maxIters - 1, by omega⟩
  rw [adjustGain_of_powered g hne hpos, controlLoop_of_affine haffine]
  split
  · -- the start is within the tolerance: one iteration, nothing moves
    rename_i hwithin
    refine ⟨by omega, ?_, ?_⟩
    · rw [haffine, abs_sub_comm]
      exact hwithin
    · rw [show sys - (target - g.realizedGain Scalar.real ripple powers 0) =
          -(target - (sys + g.realizedGain Scalar.real ripple powers 0)) by ring, abs_neg]
      exact hwithin
  · -- one move to `target - K`, and at most one more iteration to see it
    refine ⟨by omega, ?_, ?_⟩
    · rw [haffine, sub_add_cancel, sub_self, abs_zero]
      exact gainToleranceDb_pos.le
    · rw [sub_self, abs_zero]
      exact gainToleranceDb_pos.le

/-- One carrier of one watt on channel 1, flat ripple, total power, a target of 20 dB from a
system gain of zero, twenty iterations allowed. -/
theorem gain_control_settles_for_one_carrier :
    [((1 : Int), (1 : ℝ))] ≠ [] ∧ (∀ c ∈ [((1 : Int), (1 : ℝ))], 0 ≤ c.2) ∧
      0 < ([((1 : Int), (1 : ℝ))].map (·.2)).sum ∧ 1 ≤ 20 ∧
      (([((1 : Int), (1 : ℝ))].filter (·.2 > 0)).length ≠ 0 ∧
        Scalar.real.sum ([((1 : Int), (1 : ℝ))].map (·.2)) ≠ 0 ∧
        (∀ s, totalPower.realizedGain Scalar.real (fun _ => 0) [((1 : Int), (1 : ℝ))] s =
          s + totalPower.realizedGain Scalar.real (fun _ => 0) [((1 : Int), (1 : ℝ))] 0) ∧
        (totalPower.adjustGain Scalar.real (fun _ => 0) [((1 : Int), (1 : ℝ))] 20 0 20).2 ≤
          min 2 20 ∧
        |totalPower.realizedGain Scalar.real (fun _ => 0) [((1 : Int), (1 : ℝ))]
            (totalPower.adjustGain Scalar.real (fun _ => 0) [((1 : Int), (1 : ℝ))] 20 0 20).1 -
              20| ≤ gainToleranceDb ∧
        |(totalPower.adjustGain Scalar.real (fun _ => 0) [((1 : Int), (1 : ℝ))] 20 0 20).1 -
            (20 - totalPower.realizedGain Scalar.real (fun _ => 0) [((1 : Int), (1 : ℝ))] 0)| ≤
          gainToleranceDb) := by
  have hne : [((1 : Int), (1 : ℝ))] ≠ [] := by simp
  have hnonneg : ∀ c ∈ [((1 : Int), (1 : ℝ))], 0 ≤ c.2 := by simp
  have hpos : 0 < ([((1 : Int), (1 : ℝ))].map (·.2)).sum := by norm_num
  exact ⟨hne, hnonneg, hpos, by decide,
    gain_control_settles_within_two totalPower hne hnonneg hpos 20 0 (by decide)⟩

/-! ### Run again, gain control keeps its gain -/

section Settles

variable {α : Type} [Add α] [Sub α] [Mul α] [Div α] [LT α] [DecidableLT α] [LE α] [DecidableLE α]
  [OfNat α 0] [OfScientific α]

/-- Gain control has settled on some carriers: run again on them from the system gain it
reached, it keeps that gain. -/
def Settles (g : GainControl) (S : Scalar α) (ripple : Int → α) (powers : List (Int × α))
    (target sys : α) (maxIters : Nat) : Prop :=
  (g.adjustGain S ripple powers target (g.adjustGain S ripple powers target sys maxIters).1
      maxIters).1 =
    (g.adjustGain S ripple powers target sys maxIters).1

end Settles

/-- Gain control, run again on the same carriers from the system gain it reached, keeps that
gain, in exact arithmetic: it has always settled. Without carriers or power nothing moves;
otherwise the gain reached is the start, within the tolerance of the target, or `target - K`,
where the realised gain is the target. -/
theorem adjustGain_rerun (g : GainControl) (hnonneg : ∀ c ∈ powers, 0 ≤ c.2) (target sys : ℝ)
    (maxIters : Nat) : g.Settles Scalar.real ripple powers target sys maxIters := by
  unfold Settles
  by_cases hguard :
      (powers.isEmpty || decide (powers.foldl (fun acc c => acc + c.2) 0 ≤ 0)) = true
  · -- the guard does not read the gain
    simp only [adjustGain, hguard, if_true]
  · have hfold : powers.foldl (fun acc c => acc + c.2) 0 = (powers.map (·.2)).sum := by
      rw [← List.foldl_map, List.sum_eq_foldl]
    simp only [Bool.or_eq_true, decide_eq_true_eq, not_or, List.isEmpty_iff, hfold,
      not_le] at hguard
    obtain ⟨hne, hpos⟩ := hguard
    have haffine : ∀ s, g.realizedGain Scalar.real ripple powers s =
        s + g.realizedGain Scalar.real ripple powers 0 :=
      realizedGain_eq_add_offset g hnonneg hpos
    rw [adjustGain_of_powered g hne hpos, adjustGain_of_powered g hne hpos]
    cases maxIters with
    | zero => rfl
    | succ fuel =>
      rw [controlLoop_of_affine haffine target sys]
      by_cases hwithin : |target - (sys + g.realizedGain Scalar.real ripple powers 0)| ≤
          gainToleranceDb
      · -- the start was within the tolerance, and still is
        rw [if_pos hwithin, controlLoop_of_affine haffine, if_pos hwithin]
      · -- the gain moved to `target - K`, where the realised gain is the target
        rw [if_neg hwithin, controlLoop_of_affine haffine, sub_add_cancel, sub_self, abs_zero,
          if_pos gainToleranceDb_pos.le]

end GainControl

end WdmNet

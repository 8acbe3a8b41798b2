import Mathlib.Analysis.SpecialFunctions.Log.Base
import Mathlib.Analysis.SpecialFunctions.Pow.Real
import WdmNet.Network.Propagation
/-!
VOA leveling in exact arithmetic.

A ROADM output scales each carrier by the fabric loss and then caps its power at the VOA target
of the output (`Flow.levelWith`, which `leveled` instantiates with the floating-point decibel
conversions). Read in real numbers, the same formula has a closed form. Let `P'` be the power
after fabric loss and `T` the target in dBm: the cap scales the whole state by
`min 1 (dbmToWatts T / P')`. So the VOA never amplifies, the output power is
`min P' (dbmToWatts T)`, and since the power and both noises are scaled by one positive factor,
the OSNR and the generalized OSNR (at any symbol rate) are what they were after the fabric.

Main statement: `ExactState.leveled_some`.
-/

namespace WdmNet

/-- A signal state in real numbers: power, ASE noise and NLI noise, in watts. -/
structure ExactState where
  power : ℝ
  ase : ℝ
  nli : ℝ

namespace ExactState

/-- Every quantity multiplied by the same factor. -/
def scale (s : ExactState) (k : ℝ) : ExactState := ⟨s.power * k, s.ase * k, s.nli * k⟩

/-- A decibel value as a ratio. -/
noncomputable def dbToLinear (x : ℝ) : ℝ := 10 ^ (x / 10)

/-- A power in watts, in dBm. -/
noncomputable def wattsToDbm (w : ℝ) : ℝ := 10 * Real.logb 10 (w * 1000)

/-- A ratio in decibels. -/
noncomputable def linearToDb (v : ℝ) : ℝ := 10 * Real.logb 10 v

/-- A power in dBm, in watts. -/
noncomputable def dbmToWatts (x : ℝ) : ℝ := dbToLinear x * (1 / 1000)

/-- The leveling of a ROADM output, with the decibel conversions of exact arithmetic. -/
noncomputable def leveled (loss : ℝ) (target : Option ℝ) (s : ExactState) : ExactState :=
  Flow.levelWith scale power dbToLinear wattsToDbm loss target s

@[simp] theorem scale_power (s : ExactState) (k : ℝ) : (s.scale k).power = s.power * k := rfl

@[simp] theorem scale_ase (s : ExactState) (k : ℝ) : (s.scale k).ase = s.ase * k := rfl

@[simp] theorem scale_nli (s : ExactState) (k : ℝ) : (s.scale k).nli = s.nli * k := rfl

theorem scale_one (s : ExactState) : s.scale 1 = s := by
  simp [scale]

theorem dbToLinear_pos (x : ℝ) : 0 < dbToLinear x :=
  Real.rpow_pos_of_pos (by norm_num) _

theorem dbmToWatts_pos (x : ℝ) : 0 < dbmToWatts x :=
  mul_pos (dbToLinear_pos x) (by norm_num)

/-- A power is above a target in dBm exactly when it is above the target's power. -/
theorem wattsToDbm_sub_pos_iff {p : ℝ} (hp : 0 < p) (t : ℝ) :
    0 < wattsToDbm p - t ↔ dbmToWatts t < p := by
  have hp' : 0 < p * 1000 := by positivity
  have hlog : t / 10 < Real.logb 10 (p * 1000) ↔ (10 : ℝ) ^ (t / 10) < p * 1000 :=
    Real.lt_logb_iff_rpow_lt (by norm_num) hp'
  calc 0 < wattsToDbm p - t
      ↔ t / 10 < Real.logb 10 (p * 1000) := by
        unfold wattsToDbm
        constructor <;> intro h <;> linarith
    _ ↔ (10 : ℝ) ^ (t / 10) < p * 1000 := hlog
    _ ↔ dbmToWatts t < p := by
        unfold dbmToWatts dbToLinear
        constructor <;> intro h <;> linarith

/-- Scaling down by the excess over a target brings a positive power to the target's power. -/
theorem dbToLinear_neg_excess {p : ℝ} (hp : 0 < p) (t : ℝ) :
    dbToLinear (-(wattsToDbm p - t)) = dbmToWatts t / p := by
  have hp' : 0 < p * 1000 := by positivity
  have hexp : -(wattsToDbm p - t) / 10 = t / 10 - Real.logb 10 (p * 1000) := by
    unfold wattsToDbm
    ring
  unfold dbToLinear dbmToWatts dbToLinear
  rw [hexp, Real.rpow_sub (by norm_num), Real.rpow_logb (by norm_num) (by norm_num) hp']
  field_simp

/-- The VOA's factor on a state whose power is `p` after the fabric: `min 1 (dbmToWatts t / p)`. -/
theorem cap_eq {s : ExactState} (hp : 0 < s.power) (t : ℝ) :
    (if wattsToDbm s.power - t > 0 then s.scale (dbToLinear (-(wattsToDbm s.power - t))) else s) =
      s.scale (min 1 (dbmToWatts t / s.power)) := by
  split
  · rename_i hex
    have hlt := (wattsToDbm_sub_pos_iff hp t).mp hex
    have hk : dbmToWatts t / s.power < 1 := (div_lt_one hp).mpr hlt
    rw [dbToLinear_neg_excess hp, min_eq_right hk.le]
  · rename_i hex
    have hle : s.power ≤ dbmToWatts t :=
      not_lt.mp fun h => hex ((wattsToDbm_sub_pos_iff hp t).mpr h)
    have hk : 1 ≤ dbmToWatts t / s.power := (one_le_div hp).mpr hle
    rw [min_eq_left hk, scale_one]

/-- Leveling towards a target, in exact arithmetic: the fabric scales the state by its loss,
and the VOA then by `min 1 (dbmToWatts t / P')`, where `P'` is the power after the fabric. -/
theorem leveled_some (loss t : ℝ) {s : ExactState} (hp : 0 < s.power) :
    leveled loss (some t) s =
      (s.scale (dbToLinear (-loss))).scale
        (min 1 (dbmToWatts t / (s.power * dbToLinear (-loss)))) := by
  have hp' : 0 < (s.scale (dbToLinear (-loss))).power := mul_pos hp (dbToLinear_pos _)
  exact cap_eq hp' t

theorem leveled_none (loss : ℝ) (s : ExactState) :
    leveled loss none s = s.scale (dbToLinear (-loss)) := rfl

/-- The output power of a capped output: the power after the fabric, or the target's power if
that is lower. So the VOA never amplifies. -/
theorem leveled_some_power (loss t : ℝ) {s : ExactState} (hp : 0 < s.power) :
    (leveled loss (some t) s).power = min (s.power * dbToLinear (-loss)) (dbmToWatts t) := by
  have hp' : 0 < s.power * dbToLinear (-loss) := mul_pos hp (dbToLinear_pos _)
  rw [leveled_some loss t hp, scale_power, scale_power, mul_min_of_nonneg _ _ hp'.le, mul_one,
    mul_div_cancel₀ _ hp'.ne']

/-- Scaling a state by a nonzero factor keeps its signal-to-noise ratios: power over ASE, and
power over ASE plus any multiple of the NLI noise. -/
theorem scale_ratio (s : ExactState) {k : ℝ} (hk : k ≠ 0) (c : ℝ) :
    (s.scale k).power / ((s.scale k).ase + (s.scale k).nli * c) = s.power / (s.ase + s.nli * c) := by
  simp only [scale_power, scale_ase, scale_nli]
  rw [show s.ase * k + s.nli * k * c = (s.ase + s.nli * c) * k by ring, mul_div_mul_right _ _ hk]

/-- Leveling keeps the OSNR and the generalized OSNR of the state after the fabric: the VOA's
factor is positive. -/
theorem leveled_some_ratio (loss t : ℝ) {s : ExactState} (hp : 0 < s.power) (c : ℝ) :
    (leveled loss (some t) s).power / ((leveled loss (some t) s).ase + (leveled loss (some t) s).nli * c) =
      (s.scale (dbToLinear (-loss))).power /
        ((s.scale (dbToLinear (-loss))).ase + (s.scale (dbToLinear (-loss))).nli * c) := by
  have hp' : 0 < s.power * dbToLinear (-loss) := mul_pos hp (dbToLinear_pos _)
  have hk : 0 < min 1 (dbmToWatts t / (s.power * dbToLinear (-loss))) :=
    lt_min one_pos (div_pos (dbmToWatts_pos t) hp')
  rw [leveled_some loss t hp]
  exact scale_ratio _ hk.ne' c

end ExactState

end WdmNet

import WdmNet.Network.Fiber
import WdmNet.Proofs.Optics.Exact
/-!
The laws of the GN model in exact arithmetic.

`GnFibre.increments` gives each channel of a set the nonlinear interference of the GN model:
nothing for a channel without power or symbol rate, otherwise the coefficient times `Rc` times
the sum, over the channels that have a symbol rate, of `Gk² Gc ψ`. Over the real numbers the
accumulation is a plain sum (`channelIncrement_eq`), and it splits into the cross-channel terms
of all channels plus the correction that the channel under test takes its self-channel term
instead (`sum_zipIdx_eq`). The coefficient and every `ψ` have the sign of the asymptotic length,
so every term adds a non-negative amount (`coefficient_mul_psi_nonneg`). Hence the increments are
not negative, a channel without power has none, scaling all powers by `λ ≥ 0` scales them by `λ³`
(powers enter only as `Gk² Gc`; `ψ` reads rates and frequencies), and a further carrier only adds
its own cross-channel term to each other channel. None of this needs the channels sorted, their
powers non-negative or their rates positive.

Main statement: `GnFibre.interference_laws`.
-/

namespace WdmNet

/-- A channel with its power scaled. -/
def GnChannel.scalePower (lam : ℝ) (c : GnChannel ℝ) : GnChannel ℝ :=
  { c with power := lam * c.power }

namespace GnFibre

/-! ### The increments by position -/

section
variable {α : Type} [Add α] [Sub α] [Mul α] [Div α] [LE α] [DecidableLE α] [BEq α] [OfNat α 0]
  [OfNat α 2] (S : Scalar α) (fib : GnFibre α)

/-- Whether the model is switched off for the whole fibre: NLI disabled, no dispersion or no
asymptotic length. -/
def Off : Prop := (fib.disabled || fib.beta2 == 0 || fib.asymLength == 0) = true

instance : Decidable fib.Off := inferInstanceAs (Decidable (_ = true))

theorem increments_of_off (chs : List (GnChannel α)) (h : fib.Off) :
    fib.increments S chs = chs.map fun _ => 0 := by
  unfold increments
  rw [if_pos (show (fib.disabled || fib.beta2 == 0 || fib.asymLength == 0) = true from h)]

theorem increments_of_not_off (chs : List (GnChannel α)) (h : ¬fib.Off) :
    fib.increments S chs = chs.zipIdx.map fun p => fib.channelIncrement S chs p.1 p.2 := by
  unfold increments
  rw [if_neg (show ¬(fib.disabled || fib.beta2 == 0 || fib.asymLength == 0) = true from h)]

@[simp] theorem length_increments (chs : List (GnChannel α)) :
    (fib.increments S chs).length = chs.length := by
  by_cases h : fib.Off
  · simp [increments_of_off S fib chs h]
  · simp [increments_of_not_off S fib chs h]

/-- The increment at a position is the channel's own, or zero when the model is off. -/
theorem getElem?_increments {chs : List (GnChannel α)} {c : Nat} {cut : GnChannel α}
    (hc : chs[c]? = some cut) :
    (fib.increments S chs)[c]? =
      some (if fib.Off then 0 else fib.channelIncrement S chs cut c) := by
  by_cases h : fib.Off
  · rw [increments_of_off S fib chs h, List.getElem?_map, hc, if_pos h]
    rfl
  · rw [increments_of_not_off S fib chs h, List.getElem?_map, List.getElem?_zipIdx, hc, if_neg h]
    simp

end

/-! ### The sum over the channels -/

/-- A fold that adds one value per item is the start plus the sum of the values. -/
theorem foldl_eq_add_sum {β : Type} (t : β → ℝ) {step : ℝ → β → ℝ}
    (hstep : ∀ acc x, step acc x = acc + t x) (l : List β) (a : ℝ) :
    l.foldl step a = a + (l.map t).sum := by
  induction l generalizing a with
  | nil => simp
  | cons x l ih => rw [List.foldl_cons, ih, hstep, List.map_cons, List.sum_cons, add_assoc]

section Sum
variable {β : Type} (f : β → Bool → ℝ)

/-- Positions counted from beyond `c` never hit `c`. -/
theorem sum_zipIdx_of_lt (l : List β) {s c : Nat} (hcs : c < s) :
    ((l.zipIdx s).map fun p => f p.1 (p.2 == c)).sum = (l.map (f · false)).sum := by
  induction l generalizing s with
  | nil => rfl
  | cons x l ih =>
    have hne : (s == c) = false := by simpa using Nat.ne_of_gt hcs
    rw [List.zipIdx_cons, List.map_cons, List.sum_cons, ih (by omega), hne]
    rfl

/-- Exactly one position hits `s + c`: the sum is that of the items taken as others, corrected
at the item in position `c`. -/
theorem sum_zipIdx_self (l : List β) (s c : Nat) (hc : c < l.length) :
    ((l.zipIdx s).map fun p => f p.1 (p.2 == s + c)).sum =
      (l.map (f · false)).sum + (f l[c] true - f l[c] false) := by
  induction l generalizing s c with
  | nil => simp at hc
  | cons x l ih =>
    rw [List.zipIdx_cons, List.map_cons, List.sum_cons, List.map_cons, List.sum_cons]
    cases c with
    | zero =>
      -- the head is the item itself, every later position is another one
      rw [sum_zipIdx_of_lt f l (Nat.lt_succ_self (s + 0))]
      simp only [Nat.add_zero, beq_self_eq_true, List.getElem_cons_zero]
      ring
    | succ c =>
      have hpos : (s == s + (c + 1)) = false := by simp
      have hshift : s + (c + 1) = s + 1 + c := by omega
      rw [hpos, hshift, ih (s + 1) c (by simpa using hc), List.getElem_cons_succ]
      ring

theorem sum_zipIdx_eq (l : List β) (c : Nat) (hc : c < l.length) :
    (l.zipIdx.map fun p => f p.1 (p.2 == c)).sum =
      (l.map (f · false)).sum + (f l[c] true - f l[c] false) := by
  simpa using sum_zipIdx_self f l 0 c hc

end Sum

/-! ### Exact arithmetic -/

variable (fib : GnFibre ℝ)

/-- What a channel `ch` adds to the interference of the channel under test `cut`, before the
coefficient: `Gk² Gc ψ`, nothing for a channel without symbol rate. -/
noncomputable def term (cut ch : GnChannel ℝ) (self : Bool) : ℝ :=
  if ch.symbolRate ≤ 0 then 0
  else ch.power / ch.symbolRate * (ch.power / ch.symbolRate) * (cut.power / cut.symbolRate) *
    fib.psi Scalar.real cut ch self

/-- In exact arithmetic a channel's increment is the plain sum of the terms of all channels,
times the coefficient and its symbol rate. -/
theorem channelIncrement_eq (chs : List (GnChannel ℝ)) (cut : GnChannel ℝ) (c : Nat) :
    fib.channelIncrement Scalar.real chs cut c =
      if cut.symbolRate ≤ 0 ∨ cut.power ≤ 0 then 0
      else (chs.zipIdx.map fun p => fib.term cut p.1 (p.2 == c)).sum *
        fib.coefficient Scalar.real * cut.symbolRate := by
  unfold channelIncrement
  simp only [Bool.or_eq_true, decide_eq_true_eq]
  split
  · rfl
  · rw [foldl_eq_add_sum (fun p => fib.term cut p.1 (p.2 == c)) ?_, zero_add]
    intro acc p
    obtain ⟨ch, k⟩ := p
    unfold term
    split <;> simp_all

/-- `L ψ` is not negative for a cross-channel `ψ`: the two arguments of `asinh` have the sign of
the asymptotic length `L` and are ordered by it. -/
theorem nonneg_mul_arsinh_sub (L a b r : ℝ) {x y : ℝ} (ha : 0 ≤ a) (hb : 0 ≤ b) (hr : 0 ≤ r)
    (hxy : x ≤ y) :
    0 ≤ L * (Real.arsinh (a * L * b * r * y) - Real.arsinh (a * L * b * r * x)) := by
  have habr : 0 ≤ a * b * r := mul_nonneg (mul_nonneg ha hb) hr
  have hy : a * L * b * r * y = L * (a * b * r * y) := by ring
  have hx : a * L * b * r * x = L * (a * b * r * x) := by ring
  have hord : a * b * r * x ≤ a * b * r * y := mul_le_mul_of_nonneg_left hxy habr
  rw [hy, hx]
  rcases le_total 0 L with hL | hL
  · -- the arguments keep their order, the difference is not negative
    exact mul_nonneg hL (sub_nonneg.mpr (Real.arsinh_le_arsinh.mpr
      (mul_le_mul_of_nonneg_left hord hL)))
  · -- the arguments change order, the difference is not positive
    exact mul_nonneg_of_nonpos_of_nonpos hL (sub_nonpos.mpr (Real.arsinh_le_arsinh.mpr
      (mul_le_mul_of_nonpos_left hord hL)))

/-- `L ψ` is not negative for the self-channel `ψ`. -/
theorem nonneg_mul_arsinh (L a b r : ℝ) (ha : 0 ≤ a) (hb : 0 ≤ b) :
    0 ≤ L * Real.arsinh (a * L * b * r * r) := by
  have hK : 0 ≤ a * b * (r * r) := mul_nonneg (mul_nonneg ha hb) (mul_self_nonneg r)
  have harg : a * L * b * r * r = L * (a * b * (r * r)) := by ring
  rw [harg]
  rcases le_total 0 L with hL | hL
  · exact mul_nonneg hL (Real.arsinh_nonneg_iff.mpr (mul_nonneg hL hK))
  · exact mul_nonneg_of_nonpos_of_nonpos hL
      (Real.arsinh_nonpos_iff.mpr (mul_nonpos_of_nonpos_of_nonneg hL hK))

/-- Every `ψ` has the sign of the asymptotic length. -/
theorem nonneg_mul_psi {cut ch : GnChannel ℝ} (hrc : 0 < cut.symbolRate)
    (hrk : 0 < ch.symbolRate) (self : Bool) :
    0 ≤ fib.asymLength * fib.psi Scalar.real cut ch self := by
  have hpi : 0 ≤ Real.pi * Real.pi := mul_self_nonneg _
  cases self with
  | true =>
    exact nonneg_mul_arsinh fib.asymLength _ |fib.beta2| cut.symbolRate
      (div_nonneg hpi zero_le_two) (abs_nonneg _)
  | false =>
    exact nonneg_mul_arsinh_sub fib.asymLength _ |fib.beta2| cut.symbolRate hpi (abs_nonneg _)
      hrc.le (by linarith)

/-- So has the coefficient: their product is not negative. -/
theorem coefficient_mul_psi_nonneg (hL : fib.asymLength ≠ 0) {cut ch : GnChannel ℝ}
    (hrc : 0 < cut.symbolRate) (hrk : 0 < ch.symbolRate) (self : Bool) :
    0 ≤ fib.coefficient Scalar.real * fib.psi Scalar.real cut ch self := by
  set num := (16 : ℝ) / 27 * (fib.gamma * fib.effLength * (fib.gamma * fib.effLength))
  have hnum : 0 ≤ num := mul_nonneg (by norm_num) (mul_self_nonneg _)
  have hden : 0 ≤ 2 * Real.pi * |fib.beta2| :=
    mul_nonneg (mul_nonneg zero_le_two Real.pi_pos.le) (abs_nonneg _)
  have hcoef : fib.coefficient Scalar.real =
      num / (2 * Real.pi * |fib.beta2| * fib.asymLength) := by
    simp [coefficient, Scalar.real, num]
  -- `coefficient ψ = num / (2π |β₂| L²) · (L ψ)`
  have hsplit : fib.coefficient Scalar.real * fib.psi Scalar.real cut ch self =
      num / (2 * Real.pi * |fib.beta2| * (fib.asymLength * fib.asymLength)) *
        (fib.asymLength * fib.psi Scalar.real cut ch self) := by
    rw [hcoef]
    field_simp
  rw [hsplit]
  exact mul_nonneg (div_nonneg hnum (mul_nonneg hden (mul_self_nonneg _)))
    (fib.nonneg_mul_psi hrc hrk self)

/-- Once the coefficient is applied, a term of a channel under test that has power and a
symbol rate is not negative. -/
theorem term_mul_coefficient_nonneg (hL : fib.asymLength ≠ 0) {cut : GnChannel ℝ}
    (hrc : 0 < cut.symbolRate) (hpc : 0 < cut.power) (ch : GnChannel ℝ) (self : Bool) :
    0 ≤ fib.term cut ch self * fib.coefficient Scalar.real := by
  unfold term
  split
  · simp
  · rename_i hrk
    have hgk : 0 ≤ ch.power / ch.symbolRate * (ch.power / ch.symbolRate) := mul_self_nonneg _
    have hgc : 0 ≤ cut.power / cut.symbolRate := (div_pos hpc hrc).le
    have hrearr : ch.power / ch.symbolRate * (ch.power / ch.symbolRate) *
        (cut.power / cut.symbolRate) * fib.psi Scalar.real cut ch self * fib.coefficient Scalar.real =
        ch.power / ch.symbolRate * (ch.power / ch.symbolRate) * (cut.power / cut.symbolRate) *
          (fib.coefficient Scalar.real * fib.psi Scalar.real cut ch self) := by ring
    rw [hrearr]
    exact mul_nonneg (mul_nonneg hgk hgc)
      (fib.coefficient_mul_psi_nonneg hL hrc (not_le.mp hrk) self)

/-- A channel's increment is not negative. -/
theorem channelIncrement_nonneg (hL : fib.asymLength ≠ 0) (chs : List (GnChannel ℝ))
    (cut : GnChannel ℝ) (c : Nat) : 0 ≤ fib.channelIncrement Scalar.real chs cut c := by
  rw [channelIncrement_eq]
  split
  · exact le_rfl
  · rename_i hguard
    push Not at hguard
    rw [← List.sum_map_mul_right]
    refine mul_nonneg (List.sum_nonneg fun x hx => ?_) hguard.1.le
    obtain ⟨p, -, rfl⟩ := List.mem_map.mp hx
    exact fib.term_mul_coefficient_nonneg hL hguard.1 hguard.2 _ _

theorem asymLength_ne_zero {fib : GnFibre ℝ} (h : ¬fib.Off) : fib.asymLength ≠ 0 := by
  intro hL
  exact h (by simp [Off, hL])

/-! ### Scaling the powers -/

theorem term_scalePower (lam : ℝ) (cut ch : GnChannel ℝ) (self : Bool) :
    fib.term (cut.scalePower lam) (ch.scalePower lam) self = lam ^ 3 * fib.term cut ch self := by
  -- `ψ` reads no power
  have hpsi : fib.psi Scalar.real (cut.scalePower lam) (ch.scalePower lam) self =
      fib.psi Scalar.real cut ch self := rfl
  have hrate : (ch.scalePower lam).symbolRate = ch.symbolRate := rfl
  unfold term
  rw [hpsi, hrate]
  split
  · simp
  · simp only [GnChannel.scalePower]
    ring

theorem channelIncrement_scalePower {lam : ℝ} (hlam : 0 ≤ lam) (chs : List (GnChannel ℝ))
    (cut : GnChannel ℝ) (c : Nat) :
    fib.channelIncrement Scalar.real (chs.map (GnChannel.scalePower lam)) (cut.scalePower lam) c =
      lam ^ 3 * fib.channelIncrement Scalar.real chs cut c := by
  rw [channelIncrement_eq, channelIncrement_eq]
  rcases hlam.eq_or_lt with rfl | hpos
  · -- no power at all
    simp [GnChannel.scalePower]
  · have hpower : (cut.scalePower lam).power ≤ 0 ↔ cut.power ≤ 0 := by
      simp only [GnChannel.scalePower]
      exact ⟨fun h => nonpos_of_mul_nonpos_right h hpos,
        fun h => mul_nonpos_of_nonneg_of_nonpos hpos.le h⟩
    have hrate : (cut.scalePower lam).symbolRate = cut.symbolRate := rfl
    rw [hrate]
    by_cases hg : cut.symbolRate ≤ 0 ∨ cut.power ≤ 0
    · rw [if_pos (by rwa [hpower]), if_pos hg, mul_zero]
    · rw [if_neg (by rwa [hpower]), if_neg hg, List.zipIdx_map, List.map_map]
      have hterms : ((fun p : GnChannel ℝ × Nat => fib.term (cut.scalePower lam) p.1 (p.2 == c)) ∘
          Prod.map (GnChannel.scalePower lam) id) =
          fun p => lam ^ 3 * fib.term cut p.1 (p.2 == c) := by
        funext p
        exact fib.term_scalePower lam cut p.1 _
      rw [hterms, List.sum_map_mul_left]
      ring

/-- Scaling every power by `λ ≥ 0` scales every increment by `λ³`. -/
theorem increments_scalePower {lam : ℝ} (hlam : 0 ≤ lam) (chs : List (GnChannel ℝ)) :
    fib.increments Scalar.real (chs.map (GnChannel.scalePower lam)) =
      (fib.increments Scalar.real chs).map (lam ^ 3 * ·) := by
  apply List.ext_getElem?
  intro c
  rcases hc : chs[c]? with _ | cut
  · have hlen : chs.length ≤ c := List.getElem?_eq_none_iff.mp hc
    rw [List.getElem?_eq_none (by simpa using hlen), List.getElem?_map,
      List.getElem?_eq_none (by simpa using hlen)]
    rfl
  · have hsc : (chs.map (GnChannel.scalePower lam))[c]? = some (cut.scalePower lam) := by
      simp [hc]
    rw [getElem?_increments _ _ hsc, List.getElem?_map, getElem?_increments _ _ hc]
    by_cases h : fib.Off
    · simp [h]
    · simp only [if_neg h, Option.map_some, fib.channelIncrement_scalePower hlam]

/-! ### A further carrier -/

/-- After an insertion at `i`, the channel at position `j` sits at `j` or `j + 1`. -/
theorem getElem?_insertIdx_shift {chs : List (GnChannel ℝ)} {i j : Nat} (hj : j < chs.length)
    (x : GnChannel ℝ) :
    (chs.insertIdx i x)[if j < i then j else j + 1]? = some chs[j] := by
  by_cases hji : j < i
  · rw [if_pos hji, List.getElem?_insertIdx_of_lt hji, List.getElem?_eq_getElem hj]
  · rw [if_neg hji, List.getElem?_insertIdx_of_gt (by omega)]
    simp [List.getElem?_eq_getElem hj]

/-- Inserting a carrier `x` adds its cross-channel term to the increment of every channel that
was there. -/
theorem channelIncrement_insertIdx (chs : List (GnChannel ℝ)) {i j j' : Nat}
    (hi : i ≤ chs.length) (hj : j < chs.length) (x : GnChannel ℝ)
    (hat : (chs.insertIdx i x)[j']? = some chs[j]) :
    fib.channelIncrement Scalar.real (chs.insertIdx i x) chs[j] j' =
      fib.channelIncrement Scalar.real chs chs[j] j +
        if chs[j].symbolRate ≤ 0 ∨ chs[j].power ≤ 0 then 0
        else fib.term chs[j] x false * fib.coefficient Scalar.real * chs[j].symbolRate := by
  obtain ⟨hj'lt, hat⟩ := List.getElem?_eq_some_iff.mp hat
  -- the channels taken as others gain `x`
  have hothers : ((chs.insertIdx i x).map (fib.term chs[j] · false)).sum =
      fib.term chs[j] x false + (chs.map (fib.term chs[j] · false)).sum := by
    rw [((List.perm_insertIdx x chs hi).map _).sum_eq, List.map_cons, List.sum_cons]
  rw [channelIncrement_eq, channelIncrement_eq]
  split
  · simp
  · rw [sum_zipIdx_eq _ _ j' hj'lt, sum_zipIdx_eq _ _ j hj, hat, hothers]
    ring

/-- A further carrier never lowers the increment of a channel that was there. -/
theorem increments_insertIdx_mono (chs : List (GnChannel ℝ)) {i : Nat} (hi : i ≤ chs.length)
    (x : GnChannel ℝ) :
    List.Forall₂ (· ≤ ·) (fib.increments Scalar.real chs)
      ((fib.increments Scalar.real (chs.insertIdx i x)).eraseIdx i) := by
  have hlen : (chs.insertIdx i x).length = chs.length + 1 := List.length_insertIdx_of_le_length hi x
  refine List.forall₂_of_length_eq_of_get ?_ fun j h₁ h₂ => ?_
  · rw [List.length_eraseIdx, length_increments, length_increments, hlen]
    split <;> omega
  · have hj : j < chs.length := by simpa using h₁
    have hat := getElem?_insertIdx_shift (i := i) hj x
    -- read both sides through their options
    have hold := getElem?_increments Scalar.real fib (List.getElem?_eq_getElem hj)
    have hnew := getElem?_increments Scalar.real fib hat
    have herase := List.getElem?_eraseIdx (l := fib.increments Scalar.real (chs.insertIdx i x))
      (i := i) (j := j)
    have hshift : (if j < i then (fib.increments Scalar.real (chs.insertIdx i x))[j]?
        else (fib.increments Scalar.real (chs.insertIdx i x))[j + 1]?) =
        (fib.increments Scalar.real (chs.insertIdx i x))[if j < i then j else j + 1]? := by
      by_cases hji : j < i <;> simp [hji]
    rw [List.getElem?_eq_getElem h₁] at hold
    rw [List.getElem?_eq_getElem h₂, hshift, hnew] at herase
    simp only [List.get_eq_getElem]
    rw [Option.some.inj hold, Option.some.inj herase]
    split
    · exact le_rfl
    · rename_i hoff
      rw [fib.channelIncrement_insertIdx chs hi hj x hat]
      refine le_add_of_nonneg_right ?_
      split
      · exact le_rfl
      · rename_i hguard
        push Not at hguard
        exact mul_nonneg (fib.term_mul_coefficient_nonneg (asymLength_ne_zero hoff) hguard.1
          hguard.2 x false) hguard.1.le

/-! ### The laws together -/

/-- The laws of the GN model in exact arithmetic, for every fibre and every list of channels:
the increments are aligned with the channels and not negative; a channel without power has
none; a fibre with NLI disabled gives none at all; scaling every power by `λ ≥ 0` scales every
increment by `λ³`; and inserting a carrier anywhere never lowers the increment of a channel that
was there. -/
theorem interference_laws (chs : List (GnChannel ℝ)) :
    (fib.increments Scalar.real chs).length = chs.length ∧
    (∀ y ∈ fib.increments Scalar.real chs, 0 ≤ y) ∧
    (∀ (c : Nat) (cut : GnChannel ℝ), chs[c]? = some cut → cut.power = 0 →
      (fib.increments Scalar.real chs)[c]? = some 0) ∧
    (fib.disabled = true → fib.increments Scalar.real chs = chs.map fun _ => 0) ∧
    (∀ lam : ℝ, 0 ≤ lam → fib.increments Scalar.real (chs.map (GnChannel.scalePower lam)) =
      (fib.increments Scalar.real chs).map (lam ^ 3 * ·)) ∧
    (∀ (i : Nat) (x : GnChannel ℝ), i ≤ chs.length →
      List.Forall₂ (· ≤ ·) (fib.increments Scalar.real chs)
        ((fib.increments Scalar.real (chs.insertIdx i x)).eraseIdx i)) := by
  refine ⟨length_increments _ _ chs, fun y hy => ?_, fun c cut hc hzero => ?_,
    fun hdis => increments_of_off _ _ chs (by simp [Off, hdis]),
    fun lam hlam => fib.increments_scalePower hlam chs,
    fun i x hi => fib.increments_insertIdx_mono chs hi x⟩
  · -- each increment is zero or a channel's own
    obtain ⟨c, hc, rfl⟩ := List.getElem_of_mem hy
    have hcut := getElem?_increments Scalar.real fib
      (List.getElem?_eq_getElem (by simpa using hc : c < chs.length))
    rw [List.getElem?_eq_getElem hc] at hcut
    rw [Option.some.inj hcut]
    split
    · exact le_rfl
    · rename_i hoff
      exact fib.channelIncrement_nonneg (asymLength_ne_zero hoff) _ _ _
  · rw [getElem?_increments _ _ hc, channelIncrement_eq]
    simp [hzero]

end GnFibre

end WdmNet

import WdmNet.Network.Terminal
import WdmNet.Proofs.Signal.ChannelOrder
/-!
States that compare equal read the same.

`SignalState.same` compares power and noises with the floating-point `==`, under which the two
zeros are equal and a NaN equals nothing. Two floats that `==` calls equal are the same number or
two zeros of either sign (`Float.SameValue`): the same unpacked value, up to the sign of a zero.
That is no congruence in general, since `1 / 0` and `1 / -0` differ. But sums, products and
quotients by a common divisor of such floats are again equal or two zeros (`Float.Agree`), and
every reading a receiver takes off a state, the power in dBm, the OSNR and the generalized
OSNR, sends a zero to `-∞` before any logarithm and divides only by a positive noise. So each
reading is the same float for two states that `same` relates (`SignalState.readings_eq_of_same`).

Two channel sets related by `ChannelSet.sameAs`, both on the channels of their signals, hold for
each channel carriers of one signal whose states `same` relates; a receiver's report on a
channel is therefore the same over either set (`Terminal.report_eq_of_sameAs`).

Main statements: `SignalState.readings_eq_of_same`, `Terminal.report_eq_of_sameAs`.
-/

namespace WdmNet

open Float.Model Float.Model.UnpackedFloat

/-! ### Unpacked floats -/

/-- Two unpacked floats that are the same, or two zeros of any signs. -/
def UnpackedAgree (u v : UnpackedFloat) : Prop :=
  u = v ∨ (∃ s, u = .zero s) ∧ (∃ s, v = .zero s)

namespace UnpackedAgree

variable {u u' v v' : UnpackedFloat}

theorem refl (u : UnpackedFloat) : UnpackedAgree u u := .inl rfl

/-- Floats that compare equal agree: the same infinity, the same finite number, or two
zeros. -/
theorem of_compare_eq (h : u.compare v = some .eq) : UnpackedAgree u v := by
  rcases u with ⟨s⟩ | _ | ⟨s⟩ | ⟨s, m, e, hm⟩ <;> rcases v with ⟨t⟩ | _ | ⟨t⟩ | ⟨t, m', e', hm'⟩ <;>
    (try cases s) <;> (try cases t) <;> dsimp only [UnpackedFloat.compare] at h <;>
    simp only [Option.some.injEq, reduceCtorEq, Ordering.swap_eq_eq, Ordering.then_eq_eq,
      Std.LawfulEqCmp.compare_eq_iff_eq] at h
  case infinity.infinity.negative.negative | infinity.infinity.positive.positive => exact .inl rfl
  case zero.zero.negative.negative | zero.zero.negative.positive | zero.zero.positive.negative
    | zero.zero.positive.positive => exact .inr ⟨⟨_, rfl⟩, ⟨_, rfl⟩⟩
  case finite.finite.negative.negative | finite.finite.positive.positive =>
    -- one sign, one exponent, one mantissa
    obtain ⟨rfl, rfl⟩ := h
    exact .inl rfl

theorem compare_zero_left (s s' : UnpackedFloat.Sign) (v : UnpackedFloat) :
    (UnpackedFloat.zero s).compare v = (UnpackedFloat.zero s').compare v := by
  rcases v with ⟨t⟩ | _ | ⟨t⟩ | ⟨t, m, e, h⟩ <;> (try cases t) <;> rfl

theorem compare_zero_right (s s' : UnpackedFloat.Sign) (u : UnpackedFloat) :
    u.compare (.zero s) = u.compare (.zero s') := by
  rcases u with ⟨t⟩ | _ | ⟨t⟩ | ⟨t, m, e, h⟩ <;> (try cases t) <;> rfl

/-- Comparison sees no sign of a zero. -/
theorem compare (hu : UnpackedAgree u u') (hv : UnpackedAgree v v') :
    u.compare v = u'.compare v' := by
  rcases hu with rfl | ⟨⟨s, rfl⟩, ⟨s', rfl⟩⟩
  · rcases hv with rfl | ⟨⟨t, rfl⟩, ⟨t', rfl⟩⟩
    · rfl
    · exact compare_zero_right t t' u
  · rw [compare_zero_left s s']
    rcases hv with rfl | ⟨⟨t, rfl⟩, ⟨t', rfl⟩⟩
    · rfl
    · exact compare_zero_right t t' _

theorem add_zero_zero (spec : Format) (s t : UnpackedFloat.Sign) :
    ∃ r, UnpackedFloat.add spec (.zero s) (.zero t) = .zero r := by
  cases s <;> cases t <;> exact ⟨_, rfl⟩

/-- A zero added to a number is the number, whatever its sign; two zeros add to a zero. -/
theorem add (spec : Format) (hu : UnpackedAgree u u') (hv : UnpackedAgree v v') :
    UnpackedAgree (UnpackedFloat.add spec u v) (UnpackedFloat.add spec u' v') := by
  rcases hu with rfl | ⟨⟨s, rfl⟩, ⟨s', rfl⟩⟩ <;> rcases hv with rfl | ⟨⟨t, rfl⟩, ⟨t', rfl⟩⟩
  · exact .inl rfl
  · rcases u with ⟨r⟩ | _ | ⟨r⟩ | ⟨r, m, e, h⟩
    · exact .inl rfl
    · exact .inl rfl
    · exact .inr ⟨add_zero_zero spec r t, add_zero_zero spec r t'⟩
    · exact .inl rfl
  · rcases v with ⟨r⟩ | _ | ⟨r⟩ | ⟨r, m, e, h⟩
    · exact .inl rfl
    · exact .inl rfl
    · exact .inr ⟨add_zero_zero spec s r, add_zero_zero spec s' r⟩
    · exact .inl rfl
  · exact .inr ⟨add_zero_zero spec s t, add_zero_zero spec s' t'⟩

/-- A zero times anything is a zero or NaN, the same for either sign. -/
theorem mul (spec : Format) (hu : UnpackedAgree u u') (hv : UnpackedAgree v v') :
    UnpackedAgree (UnpackedFloat.mul spec u v) (UnpackedFloat.mul spec u' v') := by
  rcases hu with rfl | ⟨⟨s, rfl⟩, ⟨s', rfl⟩⟩ <;> rcases hv with rfl | ⟨⟨t, rfl⟩, ⟨t', rfl⟩⟩
  · exact .inl rfl
  · rcases u with ⟨r⟩ | _ | ⟨r⟩ | ⟨r, m, e, h⟩
    · exact .inl rfl
    · exact .inl rfl
    · exact .inr ⟨⟨_, rfl⟩, ⟨_, rfl⟩⟩
    · exact .inr ⟨⟨_, rfl⟩, ⟨_, rfl⟩⟩
  · rcases v with ⟨r⟩ | _ | ⟨r⟩ | ⟨r, m, e, h⟩
    · exact .inl rfl
    · exact .inl rfl
    · exact .inr ⟨⟨_, rfl⟩, ⟨_, rfl⟩⟩
    · exact .inr ⟨⟨_, rfl⟩, ⟨_, rfl⟩⟩
  · exact .inr ⟨⟨_, rfl⟩, ⟨_, rfl⟩⟩

/-- A zero divided by anything is a zero or NaN, the same for either sign. A zero divisor has
no such rule: `1 / 0` and `1 / -0` are opposite infinities. -/
theorem div_left (spec : Format) (hu : UnpackedAgree u u') (v : UnpackedFloat) :
    UnpackedAgree (UnpackedFloat.div spec u v) (UnpackedFloat.div spec u' v) := by
  rcases hu with rfl | ⟨⟨s, rfl⟩, ⟨s', rfl⟩⟩
  · exact .inl rfl
  · rcases v with ⟨r⟩ | _ | ⟨r⟩ | ⟨r, m, e, h⟩
    · exact .inr ⟨⟨_, rfl⟩, ⟨_, rfl⟩⟩
    · exact .inl rfl
    · exact .inl rfl
    · exact .inr ⟨⟨_, rfl⟩, ⟨_, rfl⟩⟩

theorem unpack_pack_zero (s : UnpackedFloat.Sign) : (Float.Model.pack (.zero s)).unpack = .zero s := by
  cases s <;> rfl

end UnpackedAgree

/-! ### Floats -/

namespace Float

variable {x x' y y' : Float}

/-- Two floats that compare equal: the same number or two zeros, read off their unpacked
values. -/
def SameValue (x y : Float) : Prop := UnpackedAgree x.toModel.unpack y.toModel.unpack

/-- Two floats that are the same, or two zeros. -/
def Agree (x y : Float) : Prop :=
  x = y ∨ (∃ s, x.toModel.unpack = .zero s) ∧ (∃ s, y.toModel.unpack = .zero s)

theorem SameValue.refl (x : Float) : SameValue x x := .inl rfl

theorem Agree.sameValue (h : Agree x y) : SameValue x y := by
  rcases h with rfl | hz
  · exact .inl rfl
  · exact .inr hz

theorem SameValue.of_beq (h : (x == y) = true) : SameValue x y := by
  have h' : (x.toModel.unpack.compare y.toModel.unpack == some .eq) = true := h
  exact UnpackedAgree.of_compare_eq (beq_iff_eq.mp h')

/-- The result of an operation on unpacked values that agree: the same float, or two
zeros. -/
theorem agree_ofModel_pack {u v : UnpackedFloat} (h : UnpackedAgree u v) :
    Agree (.ofModel (Float.Model.pack u)) (.ofModel (Float.Model.pack v)) := by
  rcases h with rfl | ⟨⟨s, rfl⟩, ⟨t, rfl⟩⟩
  · exact .inl rfl
  · exact .inr ⟨⟨s, UnpackedAgree.unpack_pack_zero s⟩, ⟨t, UnpackedAgree.unpack_pack_zero t⟩⟩

theorem SameValue.le_iff (hx : SameValue x x') (hy : SameValue y y') : x ≤ y ↔ x' ≤ y' := by
  simp only [LE.le, Float.le, decide_eq_true_eq]
  show (x.toModel.unpack.compare y.toModel.unpack).any (·.isLE) = true ↔
    (x'.toModel.unpack.compare y'.toModel.unpack).any (·.isLE) = true
  rw [UnpackedAgree.compare hx hy]

theorem SameValue.add (hx : SameValue x x') (hy : SameValue y y') : Agree (x + y) (x' + y') :=
  agree_ofModel_pack (UnpackedAgree.add _ hx hy)

theorem SameValue.mul (hx : SameValue x x') (hy : SameValue y y') : Agree (x * y) (x' * y') :=
  agree_ofModel_pack (UnpackedAgree.mul _ hx hy)

theorem SameValue.div_left (hx : SameValue x x') (y : Float) : Agree (x / y) (x' / y) :=
  agree_ofModel_pack (UnpackedAgree.div_left _ hx _)

/-- A zero of either sign is at most zero. -/
theorem le_zero_of_unpack_zero {s : UnpackedFloat.Sign} (hx : x.toModel.unpack = .zero s) :
    x ≤ 0 := by
  simp only [LE.le, Float.le, decide_eq_true_eq]
  show (x.toModel.unpack.compare (0 : Float).toModel.unpack).any (·.isLE) = true
  rw [hx]
  cases s <;> rfl

theorem SameValue.unpack_eq (h : SameValue x x') (hx : ¬ x ≤ 0) :
    x.toModel.unpack = x'.toModel.unpack := by
  rcases h with h | ⟨⟨s, hs⟩, -⟩
  · exact h
  · exact absurd (le_zero_of_unpack_zero hs) hx

theorem div_eq_div (hx : x.toModel.unpack = x'.toModel.unpack)
    (hy : y.toModel.unpack = y'.toModel.unpack) : x / y = x' / y' := by
  show Float.ofModel (Float.Model.pack (UnpackedFloat.div .binary64 x.toModel.unpack y.toModel.unpack)) =
    Float.ofModel (Float.Model.pack (UnpackedFloat.div .binary64 x'.toModel.unpack y'.toModel.unpack))
  rw [hx, hy]

end Float

/-! ### Readings of a state -/

namespace Units

/-- Decibels of two floats that are the same or two zeros: a zero is `-∞` dB, before any
logarithm. -/
theorem linearToDb_congr {v v' : Float} (h : Float.Agree v v') : linearToDb v = linearToDb v' := by
  rcases h with rfl | ⟨⟨s, hs⟩, ⟨s', hs'⟩⟩
  · rfl
  · unfold linearToDb
    rw [if_pos (Float.le_zero_of_unpack_zero hs), if_pos (Float.le_zero_of_unpack_zero hs')]

theorem wattsToDbm_congr {w w' : Float} (h : Float.SameValue w w') : wattsToDbm w = wattsToDbm w' :=
  linearToDb_congr (h.mul (Float.SameValue.refl _))

end Units

/-- A signal-to-noise ratio in dB is the same for signals and noises that compare equal: it
divides only when both are above zero, and then they are the same numbers. -/
theorem ratioDb_congr {s s' n n' : Float} (hs : Float.SameValue s s') (hn : Float.SameValue n n') :
    ratioDb s n = ratioDb s' n' := by
  have h0 := Float.SameValue.refl 0
  unfold ratioDb
  by_cases hsz : s ≤ 0
  · rw [if_pos hsz, if_pos ((hs.le_iff h0).mp hsz)]
  · rw [if_neg hsz, if_neg fun h => hsz ((hs.le_iff h0).mpr h)]
    by_cases hnz : n ≤ 0
    · rw [if_pos hnz, if_pos ((hn.le_iff h0).mp hnz)]
    · rw [if_neg hnz, if_neg fun h => hnz ((hn.le_iff h0).mpr h),
        Float.div_eq_div (hs.unpack_eq hsz) (hn.unpack_eq hnz)]

namespace SignalState

variable {a b : SignalState}

theorem sameValue_of_same (h : a.same b = true) :
    Float.SameValue a.power b.power ∧ Float.SameValue a.ase b.ase ∧ Float.SameValue a.nli b.nli := by
  simp only [same, Bool.and_eq_true] at h
  exact ⟨.of_beq h.1.1, .of_beq h.1.2, .of_beq h.2⟩

/-- What a receiver reads off two states that `same` relates is the same: the power in dBm,
the OSNR, and the generalized OSNR at every symbol rate. -/
theorem readings_eq_of_same (h : a.same b = true) :
    Units.wattsToDbm a.power = Units.wattsToDbm b.power ∧ osnrDb a = osnrDb b ∧
      ∀ rate, gosnrDb a rate = gosnrDb b rate := by
  obtain ⟨hp, ha, hn⟩ := sameValue_of_same h
  refine ⟨Units.wattsToDbm_congr hp, ratioDb_congr hp ha, fun rate => ?_⟩
  unfold gosnrDb
  dsimp only
  split
  · -- the noise over the reference bandwidth: ASE plus the scaled NLI
    have hnli := ((hn.mul (Float.SameValue.refl Grid.referenceBandwidth)).sameValue.div_left rate)
    exact ratioDb_congr hp (ha.add hnli.sameValue).sameValue
  · exact ratioDb_congr hp ha

end SignalState

/-! ### Sets and reports -/

namespace ChannelSet

variable {index : Nat → Option Int}

/-- Two carriers of one signal whose states `same` relates. -/
def Matching (c c' : Carrier) : Prop := c.sig = c'.sig ∧ c.state.same c'.state = true

/-- Sets that `sameAs` relates, each carrier on the channel of its signal, hold for each channel
matching carriers, or neither holds one. -/
theorem find?_rel_of_sameAs {S S' : ChannelSet} (h : S.sameAs S' = true) (hs : Sound index S)
    (hs' : Sound index S') (ch : Int) : Option.Rel Matching (S.find? ch) (S'.find? ch) := by
  induction S generalizing S' with
  | nil =>
    cases S' with
    | nil => exact .none
    | cons _ _ => cases h
  | cons a as ih =>
    cases S' with
    | nil => cases h
    | cons b bs =>
      simp only [sameAs, Bool.and_eq_true, beq_iff_eq] at h
      obtain ⟨⟨hsig, hst⟩, hrest⟩ := h
      -- carriers of one signal are on one channel
      have hch : a.channel = b.channel := by
        have ha := hs.channel a List.mem_cons_self
        have hb := hs'.channel b List.mem_cons_self
        rw [hsig, hb] at ha
        exact (Option.some.inj ha).symm
      unfold ChannelSet.find? at ih ⊢
      rw [List.find?_cons, List.find?_cons, hch]
      split
      · exact .some ⟨hsig, hst⟩
      · exact ih hrest hs.tail hs'.tail

end ChannelSet

namespace Terminal

/-- A report reads the transceivers and the arrivals of its port only: over arrivals that hold
matching carriers for its channel, or none, it is the same. -/
theorem report_eq_of_rel {t t' : Terminal} (rate : Nat → Float) (ch : Int) (b : RxBinding)
    (htr : t'.transceivers = t.transceivers)
    (hf : Option.Rel ChannelSet.Matching ((t.portSet b.port true).find? ch)
      ((t'.portSet b.port true).find? ch)) :
    t.report rate ch b = t'.report rate ch b := by
  have hthr : t'.transceiver? b.transceiver = t.transceiver? b.transceiver := by
    unfold transceiver?
    rw [htr]
  unfold report
  rw [hthr]
  revert hf
  generalize (t.portSet b.port true).find? ch = o
  generalize (t'.portSet b.port true).find? ch = o'
  intro hf
  cases hf with
  | none => rfl
  | some hm =>
    rename_i c c'
    obtain ⟨hsig, hsame⟩ := hm
    obtain ⟨hdbm, hosnr, hg⟩ := SignalState.readings_eq_of_same hsame
    dsimp only
    rw [hdbm, hosnr, hg, hsig]

/-- A report is the same over two arrivals that `sameAs` relates, each on the channels of its
signals. -/
theorem report_eq_of_sameAs {index : Nat → Option Int} {t t' : Terminal} (rate : Nat → Float)
    (ch : Int) (b : RxBinding) (htr : t'.transceivers = t.transceivers)
    (hsame : (t.portSet b.port true).sameAs (t'.portSet b.port true) = true)
    (hs : ChannelSet.Sound index (t.portSet b.port true))
    (hs' : ChannelSet.Sound index (t'.portSet b.port true)) :
    t.report rate ch b = t'.report rate ch b :=
  report_eq_of_rel rate ch b htr (ChannelSet.find?_rel_of_sameAs hsame hs hs' ch)

end Terminal

end WdmNet

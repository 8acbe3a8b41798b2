import WdmNet.Proofs.Amplifier.GainControl
import WdmNet.Proofs.Network.Fresh
import WdmNet.Proofs.Roadm.Table
/-!
Outputs that no recomputed input reaches keep their carriers.

A round of switching recomputes the processed carriers of some inputs `P` of a ROADM and then
rebuilds only the outputs `Roadm.affectedOutputs P`: those that a rule from an input of `P` sends
to, and those holding a carrier that came from an input of `P` (`Roadm.mem_affectedOutputs`).
That is enough. While the rules, VOA targets, configuration and boosts of the ROADM stay as they
were (`Roadm.SwitchesAlike`) and no signal is turned on or off:

* a carrier of an input of `P` competes for no other output (`Roadm.routesTo_of_not_affected`);
* the inputs outside `P` hold what they held, so the candidates of every other output are what
  they were (`Roadm.candidates_eq_of_not_affected`);
* so rebuilding such an output collects the same carriers from the same inputs
  (`Flow.collectOutput_eq_of_not_affected`);
* a boost keeps the signals and channels of the carriers (`Flow.boostOutput_keys`), so the
  output gets carriers of the same signals on the same channels;
* a boost that the outbound link carries is left to the link (`Flow.boostRun`); one that runs
  runs on the set it ran on before and, as the write left it and once its gain control has
  settled there (`Amplifier.Settles`; in exact arithmetic it always has,
  `GainControl.adjustGain_rerun`), gives what it gave (`Flow.boostOutput_again`).

Main statement: `Flow.unaffected_output_unchanged`.
-/

namespace WdmNet

namespace Roadm

variable {r r₀ : Roadm} {P : List Int} {o : Int}

/-- What `affectedOutputs` computes: the outputs that a rule from one of the inputs sends to, and
the outputs holding a carrier that came from one of them. -/
theorem mem_affectedOutputs :
    o ∈ r.affectedOutputs P ↔
      (∃ id rule, r.rules.get? id = some rule ∧ rule.inPort ∈ P ∧ rule.outPort = o) ∨
        ∃ src, r.outSrc.get? o = some src ∧ ∃ ch i, src.get? ch = some i ∧ i ∈ P := by
  unfold affectedOutputs
  rw [mem_sortDedup, List.mem_append, List.mem_filterMap, List.mem_filterMap]
  refine or_congr ⟨?_, ?_⟩ ⟨?_, ?_⟩
  · rintro ⟨rule, hmem, hsome⟩
    obtain ⟨id, hid⟩ := TreeMap.mem_values.mp hmem
    by_cases hin : rule.inPort ∈ P
    · rw [if_pos (List.contains_iff_mem.mpr hin)] at hsome
      exact ⟨id, rule, hid, hin, Option.some.inj hsome⟩
    · rw [if_neg (by simpa using hin)] at hsome
      cases hsome
  · rintro ⟨id, rule, hid, hin, rfl⟩
    exact ⟨rule, TreeMap.mem_values.mpr ⟨id, hid⟩, by simp [hin]⟩
  · rintro ⟨⟨out, src⟩, hmem, hsome⟩
    simp only [Option.ite_none_right_eq_some, Option.some.injEq, List.any_eq_true,
      List.contains_iff_mem] at hsome
    obtain ⟨⟨⟨ch, i⟩, hsrc, hi⟩, rfl⟩ := hsome
    rw [Std.TreeMap.mem_toList_iff_getElem?_eq_some] at hmem hsrc
    exact ⟨src, by rw [Std.TreeMap.get?_eq_getElem?, hmem], ch, i,
      by rw [Std.TreeMap.get?_eq_getElem?, hsrc], hi⟩
  · rintro ⟨src, hsrc, ch, i, hi, hP⟩
    refine ⟨(o, src), ?_, ?_⟩
    · rw [Std.TreeMap.mem_toList_iff_getElem?_eq_some, ← Std.TreeMap.get?_eq_getElem?, hsrc]
    · have hmem : (ch, i) ∈ src.toList := by
        rw [Std.TreeMap.mem_toList_iff_getElem?_eq_some, ← Std.TreeMap.get?_eq_getElem?, hi]
      simp only [Option.ite_none_right_eq_some, List.any_eq_true, List.contains_iff_mem, and_true]
      exact ⟨(ch, i), hmem, hP⟩

/-- Two states of a ROADM that switch alike: the same rules and index, VOA targets,
configuration and boosts. -/
structure SwitchesAlike (r r₀ : Roadm) : Prop where
  rules : r.rules = r₀.rules
  route : r.route = r₀.route
  voa : r.voa = r₀.voa
  config : r.config = r₀.config
  boosts : r.boosts = r₀.boosts

theorem SwitchesAlike.ruleFor (h : r.SwitchesAlike r₀) : r.ruleFor = r₀.ruleFor := by
  funext i ch
  unfold Roadm.ruleFor
  rw [h.route, h.rules]

theorem SwitchesAlike.routesTo (h : r.SwitchesAlike r₀) (on : Nat → Bool) (o : Int) :
    r.routesTo on o = r₀.routesTo on o := by
  funext p
  unfold Roadm.routesTo
  rw [h.ruleFor]

theorem SwitchesAlike.outCarrier (h : r.SwitchesAlike r₀) (rh : Nat) (o : Int) :
    r.outCarrier rh o = r₀.outCarrier rh o := by
  funext c
  simp only [Roadm.outCarrier, Flow.leveled, voaTarget, h.voa, h.config]

theorem SwitchesAlike.boostOutput (h : r.SwitchesAlike r₀) (f : Flow) :
    f.boostOutput r = f.boostOutput r₀ := by
  funext rh o set
  unfold Flow.boostOutput
  rw [h.boosts]

/-- A carrier processed on a recomputed input competes for no output that the input does not
affect. -/
theorem routesTo_of_not_affected (ht : r.TableInv) (ho : o ∉ r.affectedOutputs P)
    (on : Nat → Bool) {p : Int × Carrier} (hp : p.1 ∈ P) : r.routesTo on o p = false := by
  unfold routesTo
  split
  · rename_i rule hrule
    obtain ⟨id, -, hid⟩ := ruleFor_eq_some.mp hrule
    -- the rule switches the carrier's own input, so it does not send to `o`
    have hout : rule.outPort ≠ o := fun hout => ho (mem_affectedOutputs.mpr
      (.inl ⟨id, rule, hid, (ht.ruleFor_sound hrule).1 ▸ hp, hout⟩))
    simp [hout]
  · rfl

/-- A filter that rejects every carrier of the inputs `P` sees the same processed carriers in
two states whose inputs outside `P` hold the same carriers. -/
theorem processed_filter_eq (hin : ∀ i, i ∉ P → r.inProc.get? i = r₀.inProc.get? i)
    {q : Int × Carrier → Bool} (hq : ∀ p : Int × Carrier, p.1 ∈ P → q p = false) :
    r.processed.filter q = r₀.processed.filter q := by
  -- the inputs of `P` contribute nothing that passes
  have hkeep : ∀ m : Std.TreeMap Int ChannelSet,
      (m.toList.flatMap fun e => e.2.map (e.1, ·)).filter q =
        ((m.filter fun i _ => !P.contains i).toList.flatMap fun e => e.2.map (e.1, ·)).filter
          q := by
    intro m
    rw [Std.TreeMap.toList_filter, List.filter_flatMap, List.filter_flatMap]
    induction m.toList with
    | nil => rfl
    | cons e l ih =>
      rw [List.filter_cons]
      split
      · rw [List.flatMap_cons, List.flatMap_cons, ih]
      · rename_i hP
        have he : e.1 ∈ P := by simpa using hP
        have hnil : (e.2.map (e.1, ·)).filter q = [] :=
          List.filter_eq_nil_iff.mpr fun x hx => by
            obtain ⟨c, -, rfl⟩ := List.mem_map.mp hx
            simp [hq (e.1, c) he]
        rw [List.flatMap_cons, ih, hnil, List.nil_append]
  -- outside `P` the two tables agree
  have hsame : (r.inProc.filter fun i _ => !P.contains i).toList =
      (r₀.inProc.filter fun i _ => !P.contains i).toList := by
    refine Std.TreeMap.equiv_iff_toList_eq.mp (Std.TreeMap.Equiv.of_forall_constGet?_eq fun i => ?_)
    rw [Std.TreeMap.getElem?_filter', Std.TreeMap.getElem?_filter']
    by_cases hi : i ∈ P
    · simp [hi]
    · rw [← Std.TreeMap.get?_eq_getElem?, ← Std.TreeMap.get?_eq_getElem?, hin i hi]
  unfold processed
  rw [hkeep r.inProc, hkeep r₀.inProc, hsame]

/-- The candidates of an output that the recomputed inputs do not affect are what they were. -/
theorem candidates_eq_of_not_affected (ht : r.TableInv) (halike : r.SwitchesAlike r₀)
    (ho : o ∉ r.affectedOutputs P) (hin : ∀ i, i ∉ P → r.inProc.get? i = r₀.inProc.get? i)
    (on : Nat → Bool) : r.candidates on o = r₀.candidates on o := by
  unfold candidates
  rw [← halike.routesTo on o]
  exact processed_filter_eq hin fun _ hp => routesTo_of_not_affected ht ho on hp

end Roadm

/-- Gain control of an amplifier has settled on a set of carriers: run again on them from the
gain it reaches, it keeps that gain. It is `GainControl.Settles` on doubles, which in exact
arithmetic always holds (`GainControl.adjustGain_rerun`). -/
def Amplifier.Settles (a : Amplifier) (set : ChannelSet) : Prop :=
  a.control.Settles Scalar.float a.profile.rippleDb (Amplifier.channelPowers set) a.targetGainDb
    a.systemGainDb a.config.maxAgcIterations.toNat

/-- An amplifier whose gain control has settled on a set amplifies it as before when run again,
whatever carriers it holds. -/
theorem Amplifier.amplifyState_rerun {a : Amplifier} {set : ChannelSet} (hs : a.Settles set)
    (s : ChannelSet) :
    Amplifier.amplifyState (Amplifier.adjustGain { (a.adjustGain set).1 with signals := s } set).1 =
      Amplifier.amplifyState (a.adjustGain set).1 := by
  have hgain :
      (Amplifier.adjustGain { (a.adjustGain set).1 with signals := s } set).1.systemGainDb =
        (a.adjustGain set).1.systemGainDb := hs
  funext c
  unfold Amplifier.amplifyState
  rw [hgain]
  rfl

namespace Flow

/-- An amplifier on a set that is not empty: gain control, then gain and noise for each carrier
at the gain reached; the amplifier keeps the outcome and the carriers. -/
theorem amplify_of_getElem? {f : Flow} {b : Nat} {a : Amplifier} (ha : f.net.amps[b]? = some a)
    {set : ChannelSet} (hne : set.isEmpty = false) :
    (f.amplify b set).2 = set.map (fun c => { c with
        state := Amplifier.amplifyState (a.adjustGain set).1 c
        recordedAt := Amplifier.location (a.adjustGain set).1 }) ∧
      (f.amplify b set).1.net.amps[b]? =
        some { (a.adjustGain set).1 with signals := (f.amplify b set).2 } := by
  unfold amplify
  simp only [ha, hne, Bool.false_eq_true, if_false, true_and]
  rw [update_net]
  simp only [Network.modifyAmp, Array.getElem?_modify, if_true, visitAll_amps, emit_net, ha,
    Option.map_some]

theorem amplify_nil (f : Flow) (b : Nat) : (f.amplify b []).2 = [] := by
  unfold amplify
  split
  · rfl
  · simp

/-- An amplifier run again on a set, as its run on that set left it and with its gain control
settled there, gives what it gave. -/
theorem amplify_again {f g : Flow} {b : Nat} {set : ChannelSet}
    (hs : ∀ a, f.net.amps[b]? = some a → a.Settles set)
    (hg : g.net.amps[b]? = (f.amplify b set).1.net.amps[b]?) :
    (g.amplify b set).2 = (f.amplify b set).2 := by
  cases ha : f.net.amps[b]? with
  | none =>
    -- no amplifier at the handle: both pass the set through
    have hf : f.amplify b set = (f, set) := by
      unfold amplify
      rw [ha]
    rw [hf, ha] at hg
    rw [hf]
    unfold amplify
    rw [hg]
  | some a =>
    cases hne : set.isEmpty with
    | true =>
      obtain rfl := List.isEmpty_iff.mp hne
      rw [amplify_nil, amplify_nil]
    | false =>
      obtain ⟨hout, hamp⟩ := amplify_of_getElem? ha hne
      rw [hamp] at hg
      rw [(amplify_of_getElem? hg hne).1, hout]
      -- the second run reaches the gain of the first and amplifies with it
      rw [Amplifier.amplifyState_rerun (hs a ha)]
      rfl

/-- An amplifier keeps the signals and channels of the carriers it amplifies. -/
theorem amplify_keys (f : Flow) (b : Nat) (set : ChannelSet) :
    (f.amplify b set).2.map (fun c => (c.sig, c.channel)) = set.map fun c => (c.sig, c.channel) := by
  unfold amplify
  split
  · rfl
  · split
    · rename_i hne
      rw [List.isEmpty_iff.mp hne]
    · simp [List.map_map, Function.comp_def]

/-- The boost of an output keeps the signals and channels of the carriers it boosts. -/
theorem boostOutput_keys (f : Flow) (r : Roadm) (rh : Nat) (o : Int) (set : ChannelSet) :
    (f.boostOutput r rh o set).2.map (fun c => (c.sig, c.channel)) =
      set.map fun c => (c.sig, c.channel) := by
  unfold boostOutput
  split
  · split
    · split
      · rfl
      · exact amplify_keys f _ set
    · exact amplify_keys f _ set
  · rfl

/-- The amplifier that the boost of output `o` runs when the output is written: the port's
boost, unless the outbound link carries it, which then runs it as part of the link. -/
def boostRun (f : Flow) (r : Roadm) (rh : Nat) (o : Int) : Option Nat :=
  (r.boosts.get? o).filter fun b => !(f.net.outboundLink rh o).any (·.boost == some b)

/-- The boost of an output port run again on a set, with the same outbound link, gives what it
gave when the boost is carried by the link, and otherwise when its amplifier is as the run on
that set left it and its gain control had settled there. -/
theorem boostOutput_again {f g : Flow} {r : Roadm} {rh : Nat} {o : Int} {set : ChannelSet}
    (hl : g.net.outboundLink rh o = f.net.outboundLink rh o)
    (hs : ∀ b a, f.boostRun r rh o = some b → f.net.amps[b]? = some a → a.Settles set)
    (hg : ∀ b, f.boostRun r rh o = some b →
      g.net.amps[b]? = (f.boostOutput r rh o set).1.net.amps[b]?) :
    (g.boostOutput r rh o set).2 = (f.boostOutput r rh o set).2 := by
  cases hb : r.boosts.get? o with
  | none => simp only [boostOutput, hb]
  | some b =>
    cases hlink : f.net.outboundLink rh o with
    | none =>
      have hrun : f.boostRun r rh o = some b := by
        rw [boostRun, hb, hlink]
        rfl
      have hg' := hg b hrun
      simp only [boostOutput, hb, hl, hlink] at hg' ⊢
      exact amplify_again (fun a ha => hs b a hrun ha) hg'
    | some l =>
      simp only [boostOutput, hb, hl, hlink]
      split
      · rfl
      · -- the link does not carry the boost, so the port runs it
        rename_i hcarry
        have hrun : f.boostRun r rh o = some b := by
          rw [boostRun, hb, hlink]
          simp [hcarry]
        have hg' := hg b hrun
        simp only [boostOutput, hb, hlink, if_neg hcarry] at hg'
        exact amplify_again (fun a ha => hs b a hrun ha) hg'

/-- Writing an output leaves the amplifiers as its boost left them. -/
theorem switchOutput_amps {f : Flow} {rh : Nat} {r : Roadm} (hr : f.net.roadmAt? rh = some r)
    (o : Int) :
    (f.switchOutput rh o).1.net.amps =
      ((f.collectOutput r rh o).1.boostOutput r rh o
        (f.collectOutput r rh o).2.1.sortByChannel).1.net.amps := by
  unfold switchOutput
  rw [hr]
  rfl

variable {f₀ f : Flow} {rh : Nat} {r₀ r : Roadm} {P : List Int} {o : Int}

/-- Rebuilding an output that the recomputed inputs do not affect collects the carriers it
collected before, from the same inputs. -/
theorem collectOutput_eq_of_not_affected (ht : r.TableInv) (halike : r.SwitchesAlike r₀)
    (hon : ∀ i, (f.net.signal i).active = (f₀.net.signal i).active)
    (hin : ∀ i, i ∉ P → r.inProc.get? i = r₀.inProc.get? i)
    (ho : o ∉ r.affectedOutputs P) :
    (f.collectOutput r rh o).2 = (f₀.collectOutput r₀ rh o).2 := by
  have hfun : (fun i => (f.net.signal i).active) = fun i => (f₀.net.signal i).active := funext hon
  have hc : r.candidates (fun i => (f.net.signal i).active) o =
      r₀.candidates (fun i => (f₀.net.signal i).active) o := by
    rw [hfun]
    exact Roadm.candidates_eq_of_not_affected ht halike ho hin _
  obtain ⟨h₁, h₂, -⟩ := collectOutput_run r rh o f
  obtain ⟨g₁, g₂, -⟩ := collectOutput_run r₀ rh o f₀
  exact Prod.ext (by rw [h₁, g₁, hc, halike.outCarrier]) (by rw [h₂, g₂, hc])

/-- Recomputing only the affected outputs agrees with recomputing all of them.

Let `r₀` be the ROADM at `rh` when output `o` was last written, by `switchOutput` from the flow
`f₀`, and `r` the ROADM now, in the flow `f`, after the processed carriers of the inputs `P`
were recomputed. Suppose the switch table of `r` is consistent, `r` switches like `r₀` (same
rules, VOA targets, configuration and boosts), no signal was turned on or off, the inputs
outside `P` hold what they held, and the outbound link of `o` is the same. Then for an output
`o` that is not among `r.affectedOutputs P`, rebuilding `o` now collects the carriers, with the
same states, and their sources that the write collected, and returns carriers of the same
signals on the same channels as `o` holds. It returns exactly the carriers `o` holds when its
boost is carried by the outbound link or absent, and otherwise when the boost's amplifier is as
the write of `o` left it and its gain control had settled on the set it boosted, as in exact
arithmetic it always has. -/
theorem unaffected_output_unchanged (hr₀ : f₀.net.roadmAt? rh = some r₀)
    (hr : f.net.roadmAt? rh = some r) (ht : r.TableInv) (halike : r.SwitchesAlike r₀)
    (hon : ∀ i, (f.net.signal i).active = (f₀.net.signal i).active)
    (hin : ∀ i, i ∉ P → r.inProc.get? i = r₀.inProc.get? i)
    (hlast : r.outSets.get? o = some (f₀.switchOutput rh o).2)
    (hlink : f.net.outboundLink rh o = f₀.net.outboundLink rh o)
    (ho : o ∉ r.affectedOutputs P) :
    (f.collectOutput r rh o).2 = (f₀.collectOutput r₀ rh o).2 ∧
      (r.outSets.get? o).map (·.map fun c => (c.sig, c.channel)) =
        some ((f.switchOutput rh o).2.map fun c => (c.sig, c.channel)) ∧
      ((∀ b, f₀.boostRun r₀ rh o = some b →
          f.net.amps[b]? = (f₀.switchOutput rh o).1.net.amps[b]? ∧
          ∀ a, f₀.net.amps[b]? = some a → a.Settles (f₀.collectOutput r₀ rh o).2.1.sortByChannel) →
        r.outSets.get? o = some (f.switchOutput rh o).2) := by
  have hcollect : (f.collectOutput r rh o).2 = (f₀.collectOutput r₀ rh o).2 :=
    collectOutput_eq_of_not_affected ht halike hon hin ho
  obtain ⟨sigs, hnet⟩ := collectOutput_net r rh o f
  obtain ⟨sigs₀, hnet₀⟩ := collectOutput_net r₀ rh o f₀
  refine ⟨hcollect, ?_, fun hboost => ?_⟩
  · -- both are boosts of the same collected set, and a boost keeps signals and channels
    rw [hlast, switchOutput_snd hr, switchOutput_snd hr₀, Option.map_some, boostOutput_keys,
      boostOutput_keys, hcollect]
  rw [hlast, switchOutput_snd hr, switchOutput_snd hr₀, hcollect, halike.boostOutput]
  -- the boost sees the amplifiers and the links as they were before collection
  have hrun : ((f₀.collectOutput r₀ rh o).1).boostRun r₀ rh o = f₀.boostRun r₀ rh o := by
    unfold boostRun
    rw [hnet₀]
    rfl
  refine congrArg some
    (boostOutput_again ?_ (fun b a hb ha => (hboost b (hrun ▸ hb)).2 a ?_) fun b hb => ?_).symm
  · rw [hnet, hnet₀]
    exact hlink
  · rwa [hnet₀] at ha
  · rw [hnet, ← switchOutput_amps hr₀]
    exact (hboost b (hrun ▸ hb)).1

end Flow

/-- A ROADM with a rule from input 1 to output 1 on channel 1 and one from input 2 to output 2
on channel 2, both channels on: once input 2 is recomputed, output 1, which input 2 does not
affect, is rebuilt to the carriers it holds. -/
theorem unaffected_output_of_two_inputs :
    let c₁ : Carrier := ⟨0, 1, 0, 0, ⟨1, 0, 0⟩, Location.nowhere⟩
    let c₂ : Carrier := ⟨1, 2, 0, 0, ⟨1, 0, 0⟩, Location.nowhere⟩
    let r₀ : Roadm := { Roadm.create 0 "r" ⟨0, none, [], []⟩ with
      rules := ((∅ : Std.TreeMap String SwitchRule).insert "a" ⟨"a", 1, 1, [1]⟩).insert "b"
        ⟨"b", 2, 2, [2]⟩
      route := ((∅ : Std.TreeMap PortChannel String).insert ⟨1, 1⟩ "a").insert ⟨2, 2⟩ "b"
      inProc := (∅ : Std.TreeMap Int ChannelSet).insert 1 [c₁] }
    let f₀ : Flow := ⟨{ Network.empty 0 with
      nodes := #[.roadm r₀]
      signals := #[⟨1, 0, 0, true, [], []⟩, ⟨2, 0, 0, true, [], []⟩] },
      ⟨0, "", "", false, #[], ∅, #[]⟩⟩
    let r : Roadm := { r₀ with
      inProc := r₀.inProc.insert 2 [c₂]
      outSets := r₀.outSets.insert 1 (f₀.switchOutput 0 1).2 }
    let f : Flow := ⟨{ f₀.net with nodes := #[.roadm r] }, f₀.pass⟩
    r.TableInv ∧ (1 : Int) ∉ r.affectedOutputs [2] ∧
      (f.collectOutput r 0 1).2 = (f₀.collectOutput r₀ 0 1).2 ∧
      r.outSets.get? 1 = some (f.switchOutput 0 1).2 := by
  intro c₁ c₂ r₀ f₀ r f
  have hwf : ∀ (id : String) (i : Int), Text.trimSpace id = id → id ≠ "" → 0 ≤ i →
      Grid.isChannel i = true → (SwitchRule.mk id i i [i]).WellFormed id :=
    fun id i htrim hne hi hch => ⟨rfl, hne, htrim, hi, hi, List.cons_ne_nil _ _,
      List.pairwise_singleton _ _, fun ch hmem => by rw [List.mem_singleton.mp hmem]; exact hch⟩
  have ha := (Roadm.tableInv_create 0 "r" ⟨0, none, [], []⟩).insertRule rfl (fun _ _ => rfl)
    (hwf "a" 1 (by decide) (by decide) (by decide) (by decide))
  have ht : r.TableInv := (ha.insertRule rfl (fun _ _ => rfl)
    (hwf "b" 2 (by decide) (by decide) (by decide) (by decide))).of_tables rfl rfl
  have ho : (1 : Int) ∉ r.affectedOutputs [2] := by
    unfold Roadm.affectedOutputs
    rw [mem_sortDedup]
    decide
  have hin : ∀ i, i ∉ [(2 : Int)] → r.inProc.get? i = r₀.inProc.get? i := by
    intro i hi
    show (r₀.inProc.insert 2 [c₂]).get? i = r₀.inProc.get? i
    rw [get?_insert_eq, if_neg (by rintro rfl; exact hi (List.mem_singleton_self 2))]
  have hlast : r.outSets.get? 1 = some (f₀.switchOutput 0 1).2 := by
    show ((∅ : Std.TreeMap Int ChannelSet).insert 1 (f₀.switchOutput 0 1).2).get? 1 = _
    rw [get?_insert_eq, if_pos rfl]
  -- the output has no boost, so nothing is asked of an amplifier
  have hnone : f₀.boostRun r₀ 0 1 = none := rfl
  obtain ⟨hcollect, -, hsame⟩ := @Flow.unaffected_output_unchanged f₀ f 0 r₀ r [2] 1 rfl rfl ht
    ⟨rfl, rfl, rfl, rfl, rfl⟩ (fun _ => rfl) hin hlast rfl ho
  exact ⟨ht, ho, hcollect, hsame fun _ hb => absurd (hnone.symm.trans hb) (by simp)⟩

end WdmNet

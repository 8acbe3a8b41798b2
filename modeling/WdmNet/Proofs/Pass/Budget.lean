import WdmNet.Proofs.Pass.Frame
/-!
The budgets of a pass never bind.

The engine recurses through `switchRoadm` on a depth budget, and the switching loop of a ROADM
runs on a round budget. Neither budget is the reason a pass stops.

* Depth. `switchRoadm` is only entered on an idle ROADM, and it marks that ROADM busy for the
  whole of its loop, so every nested switch sees one idle ROADM fewer. A depth budget above
  the number of idle ROADMs is therefore never exhausted, and any larger budget computes the
  same pass (`fanOut_depth_stable`). A launch gives one more than the number of nodes.
* Rounds. Every round of a switching loop raises the ROADM's switch count, nothing in a pass
  lowers it, and once it passes `maxSwitches` the loop stops with a limit error. So the loop
  ends within `maxSwitches + 1` rounds, and the `maxSwitches + 2` rounds it is given are never
  all used (`switchLoop_rounds_stable`). It ends with nothing pending at its ROADM
  (`switchLoop_settles`): either no input is pending, or the pending inputs were dropped when
  the budget ran out.

The depth argument is an induction on the budget whose step compares the engine run with two
switching functions that agree wherever the engine can call them (`fanOut_congr`,
`switchLoop_congr`); the frame facts of `Proofs.Pass.Frame` say where that is.

Main statement: `pass_budgets_never_bind`.
-/

namespace WdmNet

theorem Network.roadmAt?_modifyRoadm_self (n : Network) (h : Nat) (g : Roadm → Roadm) :
    (n.modifyRoadm h g).roadmAt? h = (n.roadmAt? h).map g := by
  unfold Network.roadmAt? Network.modifyRoadm
  rw [Array.getElem?_modify, if_pos rfl]
  rcases n.nodes[h]? with _ | _ | r <;> rfl

namespace Flow

/-- Two switching functions agree on every idle ROADM of every flow whose busy flags are
those of `f`. -/
def SwitchAgree (f : Flow) (sw₁ sw₂ : Flow → Nat → Flow) : Prop :=
  ∀ g rh, (∀ h, g.net.busyAt h = f.net.busyAt h) → rh ∈ g.net.idle → sw₁ g rh = sw₂ g rh

theorem SwitchAgree.of_keeps {f g : Flow} {sw₁ sw₂ : Flow → Nat → Flow}
    (hA : SwitchAgree f sw₁ sw₂) (hk : Keeps f g) : SwitchAgree g sw₁ sw₂ :=
  fun k rh hb hi => hA k rh (fun h => (hb h).trans (hk.busy h)) hi

section Congruence

variable {sw₁ sw₂ : Flow → Nat → Flow}

theorem deliverRoadm_congr {f : Flow} (hA : SwitchAgree f sw₁ sw₂) (rh : Nat) (port : Int)
    (set : ChannelSet) (isLast : Bool) :
    f.deliverRoadm sw₁ rh port set isLast = f.deliverRoadm sw₂ rh port set isLast := by
  unfold deliverRoadm
  split
  · rfl
  · rename_i r hr
    dsimp only
    split
    · rfl
    · rename_i hb
      simp only [Bool.not_eq_true, Bool.or_eq_false_iff, Bool.not_eq_false'] at hb
      exact hA _ rh (keeps_acceptAt f r rh port set).busy (idle_acceptAt hr hb.2 port set)

theorem propagateLink_congr {f : Flow} (hA : SwitchAgree f sw₁ sw₂) (l : Link)
    (set : ChannelSet) (isLast : Bool) :
    f.propagateLink sw₁ l set isLast = f.propagateLink sw₂ l set isLast := by
  unfold propagateLink
  dsimp only
  split
  · exact deliverRoadm_congr (hA.of_keeps ((keeps_emit f _).trans (keeps_traverse _ l set))) _ _ _ _
  · rfl
  · rfl

/-- Two folds of steps agree from every flow with the busy flags of `f` when their steps
agree there and the first one's steps keep those flags. -/
theorem foldl_congr_of_keeps {α : Type} {f : Flow} {op₁ op₂ : Flow → α → Flow}
    (hk : ∀ g a, Keeps g (op₁ g a)) (hA : ∀ g a, Keeps f g → op₁ g a = op₂ g a) :
    ∀ (l : List α) (g : Flow), Keeps f g → l.foldl op₁ g = l.foldl op₂ g := by
  intro l
  induction l with
  | nil => intro g _; rfl
  | cons a l ih =>
    intro g hg
    simp only [List.foldl_cons]
    rw [← hA g a hg]
    exact ih _ (hg.trans (hk g a))

/-- A fan-out runs the same with two switching functions that agree wherever it calls them. -/
theorem fanOut_congr (hk : SwitchKeeps sw₁) {f : Flow} (hA : SwitchAgree f sw₁ sw₂) (src : Nat)
    (items : List (Int × ChannelSet)) : f.fanOut sw₁ src items = f.fanOut sw₂ src items := by
  unfold fanOut
  dsimp only
  -- every flow the deliveries pass through keeps the busy flags of `f`
  refine foldl_congr_of_keeps (fun g d => ?_) (fun g d hg => ?_) _ _ (keeps_dropUnlinked f src _)
  · obtain ⟨l, set, isLast⟩ := d
    exact keeps_propagateLink hk g l set isLast
  · obtain ⟨l, set, isLast⟩ := d
    exact propagateLink_congr (hA.of_keeps hg) l set isLast

end Congruence

/-- A switching loop runs the same with two fan-outs that agree on every flow with the busy
flags it starts from. -/
theorem switchLoop_congr {fan₁ fan₂ : Flow → List (Int × ChannelSet) → Flow}
    (hk : ∀ g items, Keeps g (fan₁ g items)) (rh : Nat) :
    ∀ (rounds : Nat) (f : Flow),
      (∀ g items, (∀ h, g.net.busyAt h = f.net.busyAt h) → fan₁ g items = fan₂ g items) →
      f.switchLoop fan₁ rh rounds = f.switchLoop fan₂ rh rounds := by
  intro rounds
  induction rounds with
  | zero => intro f _; rfl
  | succ rounds ih =>
    intro f hA
    -- a round hands its fan-out a flow with the busy flags of `f`, and the fan-out keeps them
    have step : ∀ g items, Keeps f g →
        switchLoop fan₁ (fan₁ g items) rh rounds = switchLoop fan₂ (fan₂ g items) rh rounds := by
      intro g items hg
      rw [← hA g items hg.busy]
      refine ih _ fun g' items' hg' => hA g' items' fun h => ?_
      exact (hg' h).trans (((hk g items).busy h).trans (hg.busy h))
    unfold switchLoop
    split
    · rfl
    · split
      · rfl
      · dsimp only
        split
        · rfl
        · exact step _ _ ((keeps_countRound f rh).trans (keeps_switchRound _ rh _ _))

/-- Once the depth budget covers the idle ROADMs, switching an idle ROADM computes the same with
any larger budget. -/
theorem switchRoadm_depth_stable (depth : Nat) :
    ∀ (f : Flow) (rh k : Nat), rh ∈ f.net.idle → f.net.idle.card ≤ depth →
      switchRoadm (depth + k) f rh = switchRoadm depth f rh := by
  induction depth with
  | zero =>
    intro f rh k hidle hcard
    have := Finset.card_pos.mpr ⟨rh, hidle⟩
    omega
  | succ depth ih =>
    intro f rh k hidle hcard
    rw [show depth + 1 + k = depth + k + 1 by omega]
    simp only [switchRoadm]
    refine congrArg (fun g : Flow => g.update (·.modifyRoadm rh ({ · with busy := false }))) ?_
    -- inside the loop the ROADM is busy: one idle ROADM fewer, one unit of depth less
    refine switchLoop_congr (keeps_fanOut_switchRoadm _ rh) rh _ _ ?_
    intro g items hg
    refine fanOut_congr (switchKeeps_switchRoadm _) (fun g' rh' hg' hi => ?_) rh items
    refine ih g' rh' k hi ?_
    have hcard' : g'.net.idle = f.net.idle.erase rh := by
      rw [Network.idle_congr fun h => (hg' h).trans (hg h)]
      exact Network.idle_setBusy
    rw [hcard', Finset.card_erase_of_mem hidle]
    omega

/-- Once the depth budget covers the idle ROADMs, a fan-out computes the same with any larger
budget. -/
theorem fanOut_depth_stable (f : Flow) (src : Nat) (items : List (Int × ChannelSet))
    (depth k : Nat) (hcard : f.net.idle.card ≤ depth) :
    f.fanOut (switchRoadm (depth + k)) src items = f.fanOut (switchRoadm depth) src items := by
  refine fanOut_congr (switchKeeps_switchRoadm _) (fun g rh hg hidle => ?_) src items
  refine switchRoadm_depth_stable depth g rh k hidle ?_
  rwa [Network.idle_congr hg]

/-- A round that goes on hands its fan-out a switch count raised by one, so with one round
fewer the loop still passes the budget. -/
theorem budget_after_round {fan : Flow → List (Int × ChannelSet) → Flow}
    (hfan : ∀ g items, Keeps g (fan g items)) {f g : Flow} {rh rounds : Nat}
    (items : List (Int × ChannelSet))
    (hg : Keeps { f with pass := { f.pass with
      switches := f.pass.switches.insert rh (f.pass.switches.getD rh 0 + 1) } } g)
    (hle : f.pass.switches.getD rh 0 + 1 ≤ f.net.maxSwitches)
    (hmax : f.net.maxSwitches < rounds + 1 + f.pass.switches.getD rh 0) :
    0 < rounds ∧ (fan g items).net.maxSwitches < rounds + (fan g items).pass.switches.getD rh 0 := by
  have hk := hg.trans (hfan g items)
  have hbudget : (fan g items).net.maxSwitches = f.net.maxSwitches := hk.budget
  have hcount := hk.counts rh
  simp only [Std.TreeMap.getD_insert_self] at hcount
  rw [hbudget]
  omega

/-- A switching loop ends by the round that takes its ROADM's switch count past
`maxSwitches`: every round raises that count, and nothing in a pass lowers it. So once the
rounds and the count already made pass the budget, more rounds change nothing. -/
theorem switchLoop_rounds_stable {fan : Flow → List (Int × ChannelSet) → Flow}
    (hfan : ∀ g items, Keeps g (fan g items)) (rh k : Nat) :
    ∀ (rounds : Nat) (f : Flow), 0 < rounds →
      f.net.maxSwitches < rounds + f.pass.switches.getD rh 0 →
      f.switchLoop fan rh (rounds + k) = f.switchLoop fan rh rounds := by
  intro rounds
  induction rounds with
  | zero => intro f h0; omega
  | succ rounds ih =>
    intro f _ hmax
    have step : ∀ g items, Keeps { f with pass := { f.pass with
        switches := f.pass.switches.insert rh (f.pass.switches.getD rh 0 + 1) } } g →
        f.pass.switches.getD rh 0 + 1 ≤ f.net.maxSwitches →
        (fan g items).switchLoop fan rh (rounds + k) = (fan g items).switchLoop fan rh rounds := by
      intro g items hg hle
      obtain ⟨hpos, hmax'⟩ := budget_after_round hfan items hg hle hmax
      exact ih _ hpos hmax'
    rw [show rounds + 1 + k = rounds + k + 1 by omega, switchLoop.eq_2 fan f rh (rounds + k),
      switchLoop.eq_2 fan f rh rounds]
    split
    · rfl
    · split
      · rfl
      · dsimp only
        split
        · rfl
        · exact step _ _ (keeps_switchRound _ rh _ _) (by omega)

/-- A switching loop given enough rounds ends with nothing pending at its ROADM: either no
input is pending any more, or the budget has run out and the pending inputs are dropped. -/
theorem switchLoop_settles {fan : Flow → List (Int × ChannelSet) → Flow}
    (hfan : ∀ g items, Keeps g (fan g items)) (rh : Nat) :
    ∀ (rounds : Nat) (f : Flow), 0 < rounds →
      f.net.maxSwitches < rounds + f.pass.switches.getD rh 0 →
      ∀ r, (f.switchLoop fan rh rounds).net.roadmAt? rh = some r → r.pending.isEmpty := by
  intro rounds
  induction rounds with
  | zero => intro f h0; omega
  | succ rounds ih =>
    intro f _ hmax r hr
    have step : ∀ g items, Keeps { f with pass := { f.pass with
        switches := f.pass.switches.insert rh (f.pass.switches.getD rh 0 + 1) } } g →
        f.pass.switches.getD rh 0 + 1 ≤ f.net.maxSwitches →
        ∀ r, ((fan g items).switchLoop fan rh rounds).net.roadmAt? rh = some r →
          r.pending.isEmpty := by
      intro g items hg hle
      obtain ⟨hpos, hmax'⟩ := budget_after_round hfan items hg hle hmax
      exact ih _ hpos hmax'
    rw [switchLoop.eq_2] at hr
    split at hr
    · rename_i hnone
      rw [hnone] at hr
      cases hr
    · rename_i r₀ hr₀
      split at hr
      · rename_i hempty
        rw [hr₀, Option.some.injEq] at hr
        rw [← hr]
        exact hempty
      · dsimp only at hr
        split at hr
        · -- the budget has run out: the pending inputs are cleared
          simp only [update, fail, Network.roadmAt?_modifyRoadm_self, hr₀, Option.map_some,
            Option.some.injEq] at hr
          rw [← hr]
          exact Std.TreeMap.isEmpty_emptyc
        · exact step _ _ (keeps_switchRound _ rh _ _) (by omega) r hr

/-- The budgets of a pass never bind, and every switching loop settles. The fan-out of a
launch, which gets one unit of depth more than the network has nodes, computes the same with
any larger depth budget; a ROADM's switching loop computes the same with any number of rounds
beyond the `maxSwitches + 1` that the pass has not yet spent on that ROADM, and it ends with
nothing pending at the ROADM. So a pass never runs out of either budget: every ROADM is
switched at most once at a time and does the work of at most `maxSwitches` rounds in all, and
once the switch budget is spent every further round drops the pending inputs with a limit
error. -/
theorem pass_budgets_never_bind :
    (∀ (f : Flow) (src : Nat) (items : List (Int × ChannelSet)) (k : Nat),
      f.fanOut (switchRoadm (f.net.nodes.size + 1 + k)) src items =
        f.fanOut (switchRoadm (f.net.nodes.size + 1)) src items) ∧
    (∀ (depth : Nat) (f : Flow) (rh k : Nat),
      f.switchLoop (fun g items => g.fanOut (switchRoadm depth) rh items) rh
          (f.net.maxSwitches - f.pass.switches.getD rh 0 + 1 + k) =
        f.switchLoop (fun g items => g.fanOut (switchRoadm depth) rh items) rh
          (f.net.maxSwitches - f.pass.switches.getD rh 0 + 1)) ∧
    (∀ (depth : Nat) (f : Flow) (rh : Nat),
      ((f.switchLoop (fun g items => g.fanOut (switchRoadm depth) rh items) rh
          (f.net.maxSwitches - f.pass.switches.getD rh 0 + 1)).net.roadmAt? rh).all
        (·.pending.isEmpty)) := by
  refine ⟨?_, ?_, ?_⟩
  · intro f src items k
    have hcard : f.net.idle.card ≤ f.net.nodes.size + 1 :=
      (Network.idle_card_le f.net).trans (Nat.le_succ _)
    exact fanOut_depth_stable f src items _ k hcard
  · intro depth f rh k
    exact switchLoop_rounds_stable (keeps_fanOut_switchRoadm depth rh) rh k _ f (by omega)
      (by omega)
  · intro depth f rh
    rw [Option.all_eq_true]
    exact switchLoop_settles (keeps_fanOut_switchRoadm depth rh) rh _ f (by omega) (by omega)

end Flow

end WdmNet

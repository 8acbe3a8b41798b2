import Mathlib.Data.Finset.Card
import Mathlib.Logic.Relation
import WdmNet.Network.Propagation
import WdmNet.Proofs.Signal.Path
/-!
What a propagation pass leaves as it was.

A pass changes signals, port sets, amplifiers, spans and reports. It does not change which
ROADMs are switching once a step has returned, nor the switch budget, the identity of the pass
or the pass counter; it only raises the switch counts of the pass, and it changes a signal only
by recording visits of this pass. `Flow.Keeps f g` says this of a flow `g` reached from `f`. Every
step of the engine keeps it, and a switching function that keeps it whenever it switches an
idle ROADM (`Flow.SwitchKeeps`) makes every delivery and fan-out keep it. `switchRoadm` is such
a function at every depth: it marks the ROADM busy, and clears the flag again when its loop
is done.

Main statements: `Flow.keeps_fanOut`, `Flow.keeps_switchLoop`, `Flow.switchKeeps_switchRoadm`.
-/

namespace WdmNet

namespace Network

/-- The busy flag of the ROADM with this handle; nothing for a terminal or a free handle. -/
def busyAt (n : Network) (h : Nat) : Option Bool :=
  match n.nodes[h]? with
  | some (.roadm r) => some r.busy
  | _ => none

/-- The ROADMs that are not switching. -/
def idle (n : Network) : Finset Nat :=
  (Finset.range n.nodes.size).filter fun h => n.busyAt h = some false

theorem mem_idle {n : Network} {h : Nat} : h ∈ n.idle ↔ n.busyAt h = some false := by
  simp only [idle, Finset.mem_filter, Finset.mem_range, and_iff_right_iff_imp]
  intro hb
  by_contra hs
  simp [busyAt, Array.getElem?_eq_none (Nat.le_of_not_lt hs)] at hb

theorem idle_card_le (n : Network) : n.idle.card ≤ n.nodes.size :=
  (Finset.card_filter_le _ _).trans (by simp)

theorem idle_congr {m n : Network} (h : ∀ i, m.busyAt i = n.busyAt i) : m.idle = n.idle := by
  ext i
  simp only [mem_idle, h]

@[simp] theorem busyAt_modifyTerminal (n : Network) (i : Nat) (g : Terminal → Terminal) (h : Nat) :
    (n.modifyTerminal i g).busyAt h = n.busyAt h := by
  unfold busyAt modifyTerminal
  rw [Array.getElem?_modify]
  by_cases hih : i = h
  · rw [if_pos hih]
    rcases n.nodes[h]? with _ | _ | _ <;> rfl
  · rw [if_neg hih]

/-- A change of a ROADM that leaves its busy flag alone leaves every busy flag alone. -/
theorem busyAt_modifyRoadm (n : Network) (i : Nat) {g : Roadm → Roadm}
    (hg : ∀ r, (g r).busy = r.busy) (h : Nat) : (n.modifyRoadm i g).busyAt h = n.busyAt h := by
  unfold busyAt modifyRoadm
  rw [Array.getElem?_modify]
  by_cases hih : i = h
  · rw [if_pos hih]
    rcases n.nodes[h]? with _ | _ | r
    · rfl
    · rfl
    · simp [hg r]
  · rw [if_neg hih]

/-- Setting the busy flag of a ROADM changes that flag only. -/
theorem busyAt_setBusy (n : Network) (i : Nat) (b : Bool) (h : Nat) :
    (n.modifyRoadm i ({ · with busy := b })).busyAt h =
      if i = h then (n.busyAt h).map fun _ => b else n.busyAt h := by
  unfold busyAt modifyRoadm
  rw [Array.getElem?_modify]
  by_cases hih : i = h
  · rw [if_pos hih, if_pos hih]
    rcases n.nodes[h]? with _ | _ | _ <;> rfl
  · rw [if_neg hih, if_neg hih]

/-- Marking a ROADM busy takes it, and only it, out of the idle ROADMs. -/
theorem idle_setBusy {n : Network} {i : Nat} :
    (n.modifyRoadm i ({ · with busy := true })).idle = n.idle.erase i := by
  ext h
  rw [Finset.mem_erase, mem_idle, mem_idle, busyAt_setBusy]
  by_cases hih : i = h
  · subst hih
    simp
  · simp [hih, Ne.symm hih]

theorem busyAt_of_roadmAt {n : Network} {h : Nat} {r : Roadm} (hr : n.roadmAt? h = some r) :
    n.busyAt h = some r.busy := by
  unfold roadmAt? at hr
  unfold busyAt
  rcases hn : n.nodes[h]? with _ | _ | r'
  · simp only [hn, reduceCtorEq] at hr
  · simp only [hn, reduceCtorEq] at hr
  · simp only [hn, Option.some.injEq] at hr ⊢
    rw [hr]

/-- A change of one signal leaves a position as it was, or applies the change there. -/
theorem signal_modifySignal (n : Network) (j : Nat) (g : Signal → Signal) (i : Nat) :
    (n.modifySignal j g).signal i = n.signal i ∨ (n.modifySignal j g).signal i = g (n.signal i) := by
  unfold signal modifySignal
  rw [Array.getElem?_modify]
  by_cases hji : j = i
  · rw [if_pos hji]
    rcases n.signals[i]? with _ | s
    · exact .inl rfl
    · exact .inr rfl
  · exact .inl (by rw [if_neg hji])

/-- A change of one signal by a step of `R` is one step of `R`, or none, at every position. -/
theorem signal_modifySignal_rel {R : Signal → Signal → Prop} (n : Network) (j : Nat)
    {g : Signal → Signal} (hg : ∀ s, R s (g s)) (i : Nat) :
    Relation.ReflTransGen R (n.signal i) ((n.modifySignal j g).signal i) := by
  rcases signal_modifySignal n j g i with h | h
  · rw [h]
  · rw [h]
    exact .single (hg _)

end Network

/-- Raising the count of one key by one raises no count. -/
theorem getD_le_getD_insert_succ (m : Std.TreeMap Nat Nat) (k h : Nat) :
    m.getD h 0 ≤ (m.insert k (m.getD k 0 + 1)).getD h 0 := by
  rw [Std.TreeMap.getD_insert]
  split
  · rename_i heq
    rw [compare_eq_iff_eq] at heq
    subst heq
    exact Nat.le_succ _
  · exact Nat.le_refl _

namespace Flow

/-- What a step of a pass can do and what it leaves as it was: the busy flag of every ROADM,
the switch budget, the identity of the pass and the pass counter stay; the switch counts of
the pass may only grow; and a signal changes only by visits recorded in this pass. -/
structure Keeps (f g : Flow) : Prop where
  busy : ∀ h, g.net.busyAt h = f.net.busyAt h
  budget : g.net.maxSwitches = f.net.maxSwitches
  counts : ∀ h, f.pass.switches.getD h 0 ≤ g.pass.switches.getD h 0
  id : g.pass.id = f.pass.id
  passSeq : g.net.passSeq = f.net.passSeq
  signals : ∀ i,
    Relation.ReflTransGen (Signal.RecordedIn f.pass.id) (f.net.signal i) (g.net.signal i)

theorem Keeps.refl (f : Flow) : Keeps f f :=
  ⟨fun _ => rfl, rfl, fun _ => Nat.le_refl _, rfl, rfl, fun _ => .refl⟩

theorem Keeps.trans {f g k : Flow} (h₁ : Keeps f g) (h₂ : Keeps g k) : Keeps f k :=
  ⟨fun h => (h₂.busy h).trans (h₁.busy h), h₂.budget.trans h₁.budget,
    fun h => (h₁.counts h).trans (h₂.counts h), h₂.id.trans h₁.id,
    h₂.passSeq.trans h₁.passSeq, fun i => (h₁.signals i).trans (h₁.id ▸ h₂.signals i)⟩

theorem Keeps.idle_eq {f g : Flow} (h : Keeps f g) : g.net.idle = f.net.idle :=
  Network.idle_congr h.busy

theorem keeps_foldl {α : Type} (l : List α) (op : Flow → α → Flow)
    (hop : ∀ g a, Keeps g (op g a)) (f : Flow) : Keeps f (l.foldl op f) := by
  induction l generalizing f with
  | nil => exact Keeps.refl f
  | cons a l ih => exact (hop f a).trans (ih (op f a))

theorem keeps_foldl_fst {α β : Type} (l : List α) (op : Flow × β → α → Flow × β)
    (hop : ∀ p a, Keeps p.1 (op p a).1) (p : Flow × β) : Keeps p.1 (l.foldl op p).1 := by
  induction l generalizing p with
  | nil => exact Keeps.refl p.1
  | cons a l ih => exact (hop p a).trans (ih (op p a))

theorem Keeps.of_net {f g : Flow} (hn : g.net = f.net) (hid : g.pass.id = f.pass.id)
    (hs : g.pass.switches = f.pass.switches) : Keeps f g :=
  ⟨fun _ => by rw [hn], by rw [hn], fun _ => by rw [hs], hid, by rw [hn], fun _ => by rw [hn]⟩

theorem keeps_emit (f : Flow) (e : Event) : Keeps f (f.emit e) := Keeps.of_net rfl rfl rfl

theorem keeps_debug (f : Flow) (msg : String) (attrs : List Log.Attr) :
    Keeps f (f.debug msg attrs) := Keeps.of_net rfl rfl rfl

theorem keeps_drop (f : Flow) (node : String) (reason : DropReason) (ch : Int) :
    Keeps f (f.drop node reason ch) := Keeps.of_net rfl rfl rfl

theorem keeps_fail (f : Flow) (e : Failure) : Keeps f (f.fail e) := Keeps.of_net rfl rfl rfl

theorem keeps_loop (f : Flow) (node : String) (ch : Int) : Keeps f (f.loop node ch) := by
  simp only [loop]
  split
  · exact keeps_drop f node .loop ch
  · exact (keeps_drop f node .loop ch).trans (keeps_fail _ _)

/-- A change of the network keeps the flow when it keeps every busy flag, the budget and the
pass counter, and changes signals only by visits of this pass. -/
theorem keeps_update (f : Flow) {g : Network → Network}
    (hb : ∀ h, (g f.net).busyAt h = f.net.busyAt h) (hm : (g f.net).maxSwitches = f.net.maxSwitches)
    (hseq : (g f.net).passSeq = f.net.passSeq)
    (hsig : ∀ i, Relation.ReflTransGen (Signal.RecordedIn f.pass.id) (f.net.signal i)
      ((g f.net).signal i)) :
    Keeps f (f.update g) :=
  ⟨hb, hm, fun _ => Nat.le_refl _, rfl, hseq, hsig⟩

theorem keeps_modifyAmp (f : Flow) (h : Nat) (g : Amplifier → Amplifier) :
    Keeps f (f.update (·.modifyAmp h g)) :=
  keeps_update f (fun _ => rfl) rfl rfl fun _ => .refl

theorem keeps_modifySpan (f : Flow) (h : Nat) (g : Span → Span) :
    Keeps f (f.update (·.modifySpan h g)) :=
  keeps_update f (fun _ => rfl) rfl rfl fun _ => .refl

theorem keeps_visit (f : Flow) (c : Carrier) (loc : Location) (exit : SignalState) :
    Keeps f (f.visit c loc exit) :=
  keeps_update f (fun _ => rfl) rfl rfl
    (Network.signal_modifySignal_rel f.net c.sig fun _ => ⟨_, _, _, _, rfl⟩)

theorem keeps_stamp (f : Flow) (loc : Location) (set : ChannelSet) :
    Keeps f (f.stamp loc set).1 :=
  keeps_foldl set _ (fun g c => keeps_visit g c loc c.state) f

theorem keeps_visitAll (f : Flow) (loc : Location) (set out : ChannelSet) :
    Keeps f (f.visitAll loc set out) :=
  keeps_foldl _ _ (fun g ⟨c, o⟩ => keeps_visit g c loc o.state) f

theorem keeps_amplify (f : Flow) (h : Nat) (set : ChannelSet) : Keeps f (f.amplify h set).1 := by
  unfold amplify
  split
  · exact Keeps.refl f
  · split
    · exact keeps_modifyAmp f h _
    · split
      exact ((keeps_emit _ _).trans (keeps_visitAll _ _ _ _)).trans (keeps_modifyAmp _ h _)

theorem keeps_transmit (f : Flow) (h : Nat) (m : RamanModel) (set : ChannelSet) :
    Keeps f (f.transmit h m set).1 := by
  unfold transmit
  split
  · exact Keeps.refl f
  · split
    · exact keeps_modifySpan f h _
    · exact (keeps_visitAll _ _ _ _).trans (keeps_modifySpan _ h _)

theorem keeps_traverse (f : Flow) (l : Link) (set : ChannelSet) : Keeps f (f.traverse l set).1 := by
  unfold traverse
  -- the link's boost first, then a span and its amplifier for every hop
  refine Keeps.trans ?_ (keeps_foldl_fst _ _ (fun p h => ?_) _)
  · split
    · exact keeps_amplify f _ set
    · exact Keeps.refl f
  · obtain ⟨g, cur⟩ := p
    have ht := keeps_transmit g h.span l.raman cur
    rcases hx : g.transmit h.span l.raman cur with ⟨g', cur'⟩
    rw [hx] at ht
    simp only [hx]
    split
    · exact ht.trans (keeps_amplify g' _ cur')
    · exact ht

theorem Keeps.of_pair {β : Type} {f g : Flow} {p : Flow × β} {b : β} (heq : p = (g, b))
    (h : Keeps f p.1) : Keeps f g := by
  rw [heq] at h
  exact h

theorem keeps_modifyRoadm (f : Flow) (rh : Nat) {g : Roadm → Roadm}
    (hg : ∀ r, (g r).busy = r.busy) : Keeps f (f.update (·.modifyRoadm rh g)) :=
  keeps_update f (Network.busyAt_modifyRoadm f.net rh hg) rfl rfl fun _ => .refl

theorem keeps_clearPending (f : Flow) (rh : Nat) :
    Keeps f (f.update (·.modifyRoadm rh ({ · with pending := {} }))) :=
  keeps_modifyRoadm f rh fun _ => rfl

theorem keeps_modifyTerminal (f : Flow) (th : Nat) (g : Terminal → Terminal) :
    Keeps f (f.update (·.modifyTerminal th g)) :=
  keeps_update f (Network.busyAt_modifyTerminal f.net th g) rfl rfl fun _ => .refl

theorem keeps_dropUnrouted (f : Flow) (r : Roadm) (i : Int) (set : ChannelSet) :
    Keeps f (f.dropUnrouted r i set) := by
  refine keeps_foldl set _ (fun g c => ?_) f
  split
  · exact keeps_drop _ _ _ _
  · exact Keeps.refl g

theorem keeps_preamplify (f : Flow) (r : Roadm) (i : Int) : Keeps f (f.preamplify r i).1 := by
  have hd := keeps_dropUnrouted f r i (r.portSet i true)
  unfold preamplify
  dsimp only
  split
  · exact hd
  · split
    · split
      · exact hd
      · exact hd.trans (keeps_amplify _ _ _)
    · exact hd.trans (keeps_amplify _ _ _)

theorem keeps_collectOutput (f : Flow) (r : Roadm) (rh : Nat) (out : Int) :
    Keeps f (f.collectOutput r rh out).1 := by
  unfold collectOutput
  refine keeps_foldl_fst _ _ (fun (p : Flow × ChannelSet × Std.TreeMap Int Int) (ic : Int × Carrier) => ?_) (f, [], {})
  obtain ⟨g, set, src⟩ := p
  obtain ⟨i, c⟩ := ic
  dsimp only
  split
  · exact Keeps.refl g
  · split
    · exact Keeps.refl g
    · split
      · exact keeps_drop _ _ _ _
      · exact keeps_visit _ _ _ _

theorem keeps_boostOutput (f : Flow) (r : Roadm) (rh : Nat) (out : Int) (set : ChannelSet) :
    Keeps f (f.boostOutput r rh out set).1 := by
  unfold boostOutput
  split
  · split
    · split
      · exact Keeps.refl f
      · exact keeps_amplify _ _ _
    · exact keeps_amplify _ _ _
  · exact Keeps.refl f

theorem keeps_switchOutput (f : Flow) (rh : Nat) (out : Int) : Keeps f (f.switchOutput rh out).1 := by
  unfold switchOutput
  split
  · exact Keeps.refl f
  · rename_i r _
    split
    rename_i g set src hc
    split
    rename_i g' set' hb
    have h₁ : Keeps f g := Keeps.of_pair hc (keeps_collectOutput f r rh out)
    have h₂ : Keeps g g' := Keeps.of_pair hb (keeps_boostOutput g r rh out _)
    exact h₁.trans (h₂.trans (keeps_modifyRoadm g' rh fun _ => rfl))

theorem keeps_dropUnbound (f : Flow) (t : Terminal) (port : Int) (set : ChannelSet) :
    Keeps f (f.dropUnbound t port set) := by
  refine keeps_foldl set _ (fun g c => ?_) f
  split
  · split
    · exact Keeps.refl g
    · exact keeps_drop _ _ _ _
  · exact keeps_drop _ _ _ _

theorem keeps_announce (f : Flow) (t : Terminal) (byPort : List (Int × List Report)) :
    Keeps f (f.announce t byPort) := by
  refine keeps_foldl byPort _ (fun g ⟨_, reports⟩ => ?_) f
  have hr : Keeps g (reports.foldl (fun f rep =>
      let f := f.emit (.received t.name rep.ok)
      if rep.ok then f
      else f.debug "channel reception failed"
        [.str "terminal" t.name, .int "channel" rep.channel, .str "reason" rep.reason]) g) := by
    refine keeps_foldl reports _ (fun k rep => ?_) g
    dsimp only
    split
    · exact keeps_emit _ _
    · exact (keeps_emit _ _).trans (keeps_debug _ _ _)
  dsimp only
  split
  · exact hr.trans (keeps_emit _ _)
  · exact hr

theorem keeps_deliverTerminal (f : Flow) (th : Nat) (port : Int) (set : ChannelSet)
    (isLast : Bool) : Keeps f (f.deliverTerminal th port set isLast) := by
  unfold deliverTerminal
  split
  · exact Keeps.refl f
  · rename_i t _
    split
    rename_i g kept hs
    have h₁ : Keeps f (g.dropUnbound t port kept) :=
      (Keeps.of_pair hs (keeps_stamp f _ set)).trans (keeps_dropUnbound g t port kept)
    dsimp only
    split
    · exact h₁.trans (keeps_modifyTerminal _ _ _)
    · exact h₁.trans ((keeps_modifyTerminal _ _ _).trans (keeps_announce _ _ _))

theorem keeps_dropLoops (f : Flow) (r : Roadm) (rh : Nat) (set : ChannelSet) :
    Keeps f (f.dropLoops r rh set).1 := by
  refine keeps_foldl_fst set _ (fun ⟨g, kept⟩ c => ?_) (f, [])
  dsimp only
  split
  · exact keeps_loop _ _ _
  · exact Keeps.refl g

theorem keeps_acceptAt (f : Flow) (r : Roadm) (rh : Nat) (port : Int) (set : ChannelSet) :
    Keeps f (f.acceptAt r rh port set) := by
  unfold acceptAt
  split
  rename_i g kept hl
  split
  rename_i g' kept' hs
  exact (Keeps.of_pair hl (keeps_dropLoops f r rh set)).trans
    ((Keeps.of_pair hs (keeps_stamp g _ kept)).trans (keeps_modifyRoadm g' rh
      (fun _ => rfl : ∀ r : Roadm, (r.accept g'.pass.id port kept').busy = r.busy)))

theorem idle_acceptAt {f : Flow} {r : Roadm} {rh : Nat} (hr : f.net.roadmAt? rh = some r)
    (hb : r.busy = false) (port : Int) (set : ChannelSet) :
    rh ∈ (f.acceptAt r rh port set).net.idle := by
  rw [(keeps_acceptAt f r rh port set).idle_eq, Network.mem_idle, Network.busyAt_of_roadmAt hr, hb]

theorem keeps_dropUnlinked (f : Flow) (src : Nat) (resolved : List (Option Link × ChannelSet)) :
    Keeps f (f.dropUnlinked src resolved) := by
  refine keeps_foldl resolved _ (fun g ⟨l?, set⟩ => ?_) f
  dsimp only
  split
  · exact keeps_foldl set _ (fun k c => keeps_drop _ _ _ _) g
  · exact Keeps.refl g

theorem keeps_preamplifyInputs (f : Flow) (rh : Nat) (inPorts : List Int) :
    Keeps f (f.preamplifyInputs rh inPorts) := by
  refine keeps_foldl inPorts _ (fun g i => ?_) f
  split
  · rename_i r _
    exact (keeps_preamplify g r i).trans (keeps_modifyRoadm _ rh fun _ => rfl)
  · exact Keeps.refl g

theorem keeps_seed (f : Flow) (th : Nat) (port : Int) : Keeps f (f.seed th port).1 := by
  unfold seed
  split
  · exact Keeps.refl f
  · dsimp only
    exact (keeps_stamp f _ _).trans (keeps_modifyTerminal _ th _)

theorem keeps_switchOutputs (f : Flow) (rh : Nat) (outs : List Int) :
    Keeps f (f.switchOutputs rh outs).1 :=
  keeps_foldl_fst outs _ (fun ⟨g, _⟩ o => keeps_switchOutput g rh o) (f, [])

theorem keeps_countRound (f : Flow) (rh : Nat) :
    Keeps f { f with pass := { f.pass with
      switches := f.pass.switches.insert rh (f.pass.switches.getD rh 0 + 1) } } :=
  ⟨fun _ => rfl, rfl, getD_le_getD_insert_succ _ rh, rfl, rfl, fun _ => .refl⟩

/-- What a round of a switching loop does before its fan-out: clear the pending inputs, run
their preamps and recompute the affected outputs. -/
theorem keeps_switchRound (f : Flow) (rh : Nat) (inPorts outs : List Int) :
    Keeps f (((f.update (·.modifyRoadm rh ({ · with pending := {} }))).preamplifyInputs rh
      inPorts).switchOutputs rh outs).1 :=
  (keeps_clearPending f rh).trans ((keeps_preamplifyInputs _ rh _).trans (keeps_switchOutputs _ rh _))

/-- A switching function keeps the flow whenever it switches an idle ROADM. -/
def SwitchKeeps (sw : Flow → Nat → Flow) : Prop :=
  ∀ f rh, rh ∈ f.net.idle → Keeps f (sw f rh)

section Switching

variable {sw : Flow → Nat → Flow}

theorem keeps_deliverRoadm (hsw : SwitchKeeps sw) (f : Flow) (rh : Nat) (port : Int)
    (set : ChannelSet) (isLast : Bool) : Keeps f (f.deliverRoadm sw rh port set isLast) := by
  unfold deliverRoadm
  split
  · exact Keeps.refl f
  · rename_i r hr
    dsimp only
    split
    · exact keeps_acceptAt f r rh port set
    · rename_i hb
      simp only [Bool.not_eq_true, Bool.or_eq_false_iff, Bool.not_eq_false'] at hb
      exact (keeps_acceptAt f r rh port set).trans (hsw _ rh (idle_acceptAt hr hb.2 port set))

theorem keeps_propagateLink (hsw : SwitchKeeps sw) (f : Flow) (l : Link) (set : ChannelSet)
    (isLast : Bool) : Keeps f (f.propagateLink sw l set isLast) := by
  unfold propagateLink
  dsimp only
  split
  · exact ((keeps_emit f _).trans (keeps_traverse _ l set)).trans (keeps_deliverRoadm hsw _ _ _ _ _)
  · exact ((keeps_emit f _).trans (keeps_traverse _ l set)).trans (keeps_deliverTerminal _ _ _ _ _)
  · exact (keeps_emit f _).trans (keeps_traverse _ l set)

theorem keeps_fanOut (hsw : SwitchKeeps sw) (f : Flow) (src : Nat)
    (items : List (Int × ChannelSet)) : Keeps f (f.fanOut sw src items) := by
  unfold fanOut
  dsimp only
  exact (keeps_dropUnlinked _ _ _).trans
    (keeps_foldl _ _ (fun g ⟨l, set, isLast⟩ => keeps_propagateLink hsw g l set isLast) _)

end Switching

/-- Every round of a switching loop keeps the flow when its fan-outs do; the round itself only
raises the count of the switching ROADM. -/
theorem keeps_switchLoop {fan : Flow → List (Int × ChannelSet) → Flow}
    (hfan : ∀ g items, Keeps g (fan g items)) (f : Flow) (rh rounds : Nat) :
    Keeps f (f.switchLoop fan rh rounds) := by
  induction rounds generalizing f with
  | zero => exact Keeps.refl f
  | succ rounds ih =>
    unfold switchLoop
    split
    · exact Keeps.refl f
    · split
      · exact Keeps.refl f
      · dsimp only
        split
        · exact (keeps_countRound f rh).trans ((keeps_fail _ _).trans (keeps_clearPending _ rh))
        · exact (keeps_countRound f rh).trans
            ((keeps_switchRound _ rh _ _).trans ((hfan _ _).trans (ih _)))

/-- A run that keeps the flow between setting and clearing the busy flag of an idle ROADM
keeps it across the whole bracket. -/
theorem keeps_busyBracket {f g : Flow} {rh : Nat} (hidle : rh ∈ f.net.idle)
    (hg : Keeps (f.update (·.modifyRoadm rh ({ · with busy := true }))) g) :
    Keeps f (g.update (·.modifyRoadm rh ({ · with busy := false }))) := by
  refine ⟨fun h => ?_, hg.budget, hg.counts, hg.id, hg.passSeq, hg.signals⟩
  simp only [update, Network.busyAt_setBusy]
  rw [hg.busy h]
  simp only [update, Network.busyAt_setBusy]
  by_cases hrh : rh = h
  · subst hrh
    simp [Network.mem_idle.mp hidle]
  · simp [hrh]

/-- `switchRoadm` keeps the flow at every depth. -/
theorem switchKeeps_switchRoadm (depth : Nat) : SwitchKeeps (switchRoadm depth) := by
  induction depth with
  | zero => intro f rh _; exact Keeps.refl f
  | succ depth ih =>
    intro f rh hidle
    simp only [switchRoadm]
    exact keeps_busyBracket hidle
      (keeps_switchLoop (fun g items => keeps_fanOut ih g rh items) _ rh _)

theorem keeps_fanOut_switchRoadm (depth rh : Nat) :
    ∀ g items, Keeps g (g.fanOut (switchRoadm depth) rh items) :=
  fun g items => keeps_fanOut (switchKeeps_switchRoadm depth) g rh items

end Flow

/-- A launch is a run kept from its starting flow: the network with the pass counter raised,
and a fresh pass of that number. -/
theorem Network.launch_keeps (n : Network) (t : Terminal) (ports : List Int) (safe : Bool)
    (kind : String) :
    ∃ g : Flow, Flow.Keeps ⟨{ n with passSeq := n.passSeq + 1 },
        ⟨n.passSeq + 1, kind, t.name, safe, #[], {}, #[]⟩⟩ g ∧
      (n.launch t ports safe kind).net = g.net := by
  unfold Network.launch
  dsimp only
  refine ⟨_, ?_, rfl⟩
  -- seeding the ports, the fan-out, then the closing records of the pass
  refine (Flow.keeps_foldl_fst ports _ (fun p port => ?_) (_, [])).trans
    ((Flow.keeps_fanOut_switchRoadm _ _ _ _).trans
      ((Flow.keeps_emit _ _).trans ((Flow.keeps_emit _ _).trans (Flow.keeps_debug _ _ _))))
  obtain ⟨g, items⟩ := p
  dsimp only
  exact Flow.keeps_seed g t.handle port

end WdmNet

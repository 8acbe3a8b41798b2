import WdmNet.Proofs.Network.Arena
import WdmNet.Proofs.Pass.ChannelOrder
import WdmNet.Proofs.Roadm.OutputPort
/-!
Networks as their additions built them.

A network is built by additions and then changed by commands. The commands change the port
state, bindings, switch tables and reports of the nodes, the gains and carriers of the
amplifiers, the carriers of the spans, the signals and the pass counter, and nothing else. The
frame of a network (`Network.frame`) forgets exactly that: it is the network with every node,
amplifier and span back in the state its addition gave it, without signals, and with no pass
run. Every step of a pass keeps the frame (`Network.frame_launch`), so does every command
(`Network.frame_execute`), and an addition adds to the frame what it adds to the network; so
the frame of a reachable network is the network its additions alone build
(`Network.frame_of_reachable`).

A reset returns every node, amplifier and span to that state and keeps the pass counter and
the signals. In a reachable network it leaves the frame with the pass counter and the signals
put back (`Network.reset_eq_frame`), and a second reset changes nothing.
-/

namespace WdmNet

/-- A node as its addition built it: a terminal without bindings, port state or reports, a
ROADM without rules, VOA targets or port state. -/
def Node.fresh : Node → Node
  | .terminal t => .terminal t.clear
  | .roadm r => .roadm r.reset

@[simp] theorem Node.handle_fresh (nd : Node) : nd.fresh.handle = nd.handle := by
  cases nd <;> rfl

@[simp] theorem Node.fresh_fresh (nd : Node) : nd.fresh.fresh = nd.fresh := by
  cases nd <;> rfl

/-- A span without carriers. -/
def Span.clear (s : Span) : Span := { s with signals := [] }

/-- Changing one entry of an array changes nothing under a map that does not see the change. -/
theorem map_modify_of_eq {α β : Type} {xs : Array α} {i : Nat} {g : α → α} {F : α → β}
    (h : ∀ x, xs[i]? = some x → F (g x) = F x) : (xs.modify i g).map F = xs.map F := by
  refine Array.ext_getElem? fun j => ?_
  rw [Array.getElem?_map, Array.getElem?_map, Array.getElem?_modify]
  split
  · rename_i hij
    subst hij
    cases hx : xs[i]? with
    | none => rfl
    | some x => simp [h x hx]
  · rfl

/-- Replacing one entry of an array by one with the same image changes nothing under the map. -/
theorem map_setIfInBounds_of_eq {α β : Type} {xs : Array α} {i : Nat} {x v : α} {F : α → β}
    (hx : xs[i]? = some x) (hv : F v = F x) : (xs.setIfInBounds i v).map F = xs.map F := by
  refine Array.ext_getElem? fun j => ?_
  rw [Array.getElem?_map, Array.getElem?_map, Array.getElem?_setIfInBounds]
  split
  · rename_i hij
    subst hij
    have hlt : i < xs.size := (Array.getElem?_eq_some_iff.mp hx).1
    rw [if_pos hlt, hx]
    simp [hv]
  · rfl

namespace Network

/-- The network as its additions built it: every node, amplifier and span back in the state its
addition gave it, no signals, and no pass run. -/
def frame (n : Network) : Network :=
  { n with passSeq := 0, nodes := n.nodes.map Node.fresh, amps := n.amps.map Amplifier.reset,
           spans := n.spans.map Span.clear, signals := #[] }

variable {n : Network}

/-! ### Writes that keep the frame -/

@[simp] theorem frame_modifySignal (n : Network) (i : Nat) (g : Signal → Signal) :
    (n.modifySignal i g).frame = n.frame := rfl

theorem frame_modifyAmp {h : Nat} {g : Amplifier → Amplifier}
    (hg : ∀ a, n.amps[h]? = some a → (g a).reset = a.reset) : (n.modifyAmp h g).frame = n.frame := by
  simp only [frame, modifyAmp, map_modify_of_eq hg]

theorem frame_modifySpan {h : Nat} {g : Span → Span}
    (hg : ∀ s, n.spans[h]? = some s → (g s).clear = s.clear) : (n.modifySpan h g).frame = n.frame := by
  simp only [frame, modifySpan, map_modify_of_eq hg]

theorem frame_modifyTerminal {h : Nat} {g : Terminal → Terminal}
    (hg : ∀ t, n.terminalAt? h = some t → (g t).clear = t.clear) :
    (n.modifyTerminal h g).frame = n.frame := by
  simp only [frame, modifyTerminal]
  rw [map_modify_of_eq]
  intro nd hnd
  cases nd with
  | terminal t =>
    have ht : n.terminalAt? h = some t := by simp [terminalAt?, hnd]
    simp only [Node.fresh, hg t ht]
  | roadm r => rfl

theorem frame_modifyRoadm {h : Nat} {g : Roadm → Roadm}
    (hg : ∀ r, n.roadmAt? h = some r → (g r).reset = r.reset) :
    (n.modifyRoadm h g).frame = n.frame := by
  simp only [frame, modifyRoadm]
  rw [map_modify_of_eq]
  intro nd hnd
  cases nd with
  | terminal t => rfl
  | roadm r =>
    have hr : n.roadmAt? h = some r := by simp [roadmAt?, hnd]
    simp only [Node.fresh, hg r hr]

theorem frame_setNode {h : Nat} {nd nd' : Node} (hnd : n.nodes[h]? = some nd)
    (hf : nd'.fresh = nd.fresh) : (n.setNode h nd').frame = n.frame := by
  simp only [frame, setNode, Array.set!_eq_setIfInBounds, map_setIfInBounds_of_eq hnd hf]

end Network

/-- Gain control changes only the system gain and the iteration count, which a reset sets. -/
theorem Amplifier.reset_of_adjustGain {a a' : Amplifier} {set : ChannelSet} {k : Nat}
    (h : a.adjustGain set = (a', k)) : a'.reset = a.reset := by
  unfold Amplifier.adjustGain at h
  cases h
  rfl

namespace Flow

@[simp] theorem update_net (f : Flow) (u : Network → Network) : (f.update u).net = u f.net := rfl

@[simp] theorem emit_net (f : Flow) (e : Event) : (f.emit e).net = f.net := rfl

@[simp] theorem debug_net (f : Flow) (msg : String) (attrs : List Log.Attr) :
    (f.debug msg attrs).net = f.net := rfl

/-! ### Every step of a pass keeps the frame -/

theorem frame_foldl {α : Type} (l : List α) (op : Flow → α → Flow)
    (hop : ∀ g a, (op g a).net.frame = g.net.frame) (f : Flow) :
    (l.foldl op f).net.frame = f.net.frame := by
  induction l generalizing f with
  | nil => rfl
  | cons a l ih => rw [List.foldl_cons, ih, hop]

theorem frame_foldl_fst {α β : Type} (l : List α) (op : Flow × β → α → Flow × β)
    (hop : ∀ p a, (op p a).1.net.frame = p.1.net.frame) (p : Flow × β) :
    (l.foldl op p).1.net.frame = p.1.net.frame := by
  induction l generalizing p with
  | nil => rfl
  | cons a l ih => rw [List.foldl_cons, ih, hop]

theorem visitAll_amps (f : Flow) (loc : Location) (set out : ChannelSet) :
    (f.visitAll loc set out).net.amps = f.net.amps := by
  unfold visitAll
  induction set.zip out generalizing f with
  | nil => rfl
  | cons p ps ih => exact ih _

theorem frame_visitAll (f : Flow) (loc : Location) (set out : ChannelSet) :
    (f.visitAll loc set out).net.frame = f.net.frame := by
  unfold visitAll
  refine frame_foldl _ _ (fun g p => ?_) f
  obtain ⟨c, o⟩ := p
  rfl

theorem frame_stamp (f : Flow) (loc : Location) (set : ChannelSet) :
    (f.stamp loc set).1.net.frame = f.net.frame := by
  unfold stamp
  refine frame_foldl _ _ (fun g c => ?_) f
  rfl

theorem frame_amplify (f : Flow) (h : Nat) (set : ChannelSet) :
    (f.amplify h set).1.net.frame = f.net.frame := by
  unfold amplify
  split
  · rfl
  · rename_i a ha
    split
    · exact Network.frame_modifyAmp fun a' _ => rfl
    · split
      rename_i a' iters hadj
      dsimp only
      rw [update_net, Network.frame_modifyAmp, frame_visitAll]
      · rfl
      · intro x hx
        rw [visitAll_amps, emit_net, ha] at hx
        cases hx
        rw [← Amplifier.reset_of_adjustGain hadj]
        rfl

theorem frame_transmit (f : Flow) (h : Nat) (m : RamanModel) (set : ChannelSet) :
    (f.transmit h m set).1.net.frame = f.net.frame := by
  unfold transmit
  split
  · rfl
  · split
    · exact Network.frame_modifySpan fun _ _ => rfl
    · dsimp only
      rw [update_net, Network.frame_modifySpan, frame_visitAll]
      intro _ _
      rfl

theorem frame_traverse (f : Flow) (l : Link) (set : ChannelSet) :
    (f.traverse l set).1.net.frame = f.net.frame := by
  unfold traverse
  rw [frame_foldl_fst _ _ (fun p hop => ?_)]
  · split
    · exact frame_amplify f _ set
    · rfl
  · obtain ⟨g, cur⟩ := p
    dsimp only
    have ht := frame_transmit g hop.span l.raman cur
    rcases hx : g.transmit hop.span l.raman cur with ⟨g', cur'⟩
    rw [hx] at ht
    dsimp only
    split
    · rw [frame_amplify, ht]
    · exact ht

theorem frame_preamplify (f : Flow) (r : Roadm) (i : Int) :
    (f.preamplify r i).1.net.frame = f.net.frame := by
  have hd := congrArg Network.frame (dropUnrouted_net f r i (r.portSet i true))
  unfold preamplify
  dsimp only
  split
  · exact hd
  · split
    · split
      · exact hd
      · rw [frame_amplify, hd]
    · rw [frame_amplify, hd]

theorem frame_collectOutput (f : Flow) (r : Roadm) (rh : Nat) (out : Int) :
    (f.collectOutput r rh out).1.net.frame = f.net.frame := by
  obtain ⟨sigs, h⟩ := collectOutput_net r rh out f
  rw [h]
  rfl

theorem frame_boostOutput (f : Flow) (r : Roadm) (rh : Nat) (out : Int) (set : ChannelSet) :
    (f.boostOutput r rh out set).1.net.frame = f.net.frame := by
  unfold boostOutput
  split
  · split
    · split
      · rfl
      · exact frame_amplify _ _ _
    · exact frame_amplify _ _ _
  · rfl

theorem frame_switchOutput (f : Flow) (rh : Nat) (out : Int) :
    (f.switchOutput rh out).1.net.frame = f.net.frame := by
  unfold switchOutput
  split
  · rfl
  · rename_i r _
    dsimp only
    rw [update_net, Network.frame_modifyRoadm, frame_boostOutput, frame_collectOutput]
    intro _ _
    rfl

theorem frame_deliverTerminal (f : Flow) (th : Nat) (port : Int) (set : ChannelSet)
    (isLast : Bool) : (f.deliverTerminal th port set isLast).net.frame = f.net.frame := by
  unfold deliverTerminal
  split
  · rfl
  · rename_i t ht
    have hs := frame_stamp f ⟨.nodeIn, th, port⟩ set
    have hnodes := stamp_nodes f ⟨.nodeIn, th, port⟩ set
    rcases hx : f.stamp ⟨.nodeIn, th, port⟩ set with ⟨g, kept⟩
    rw [hx] at hs hnodes
    -- the terminal written back is the one read before the delivery, which nothing changed
    have ht' : (g.dropUnbound t port kept).net.terminalAt? th = some t := by
      unfold Network.terminalAt? at ht ⊢
      rw [dropUnbound_net, hnodes]
      exact ht
    have hw : ∀ t' : Terminal, t'.clear = t.clear →
        ((g.dropUnbound t port kept).update (·.modifyTerminal th fun _ => t')).net.frame =
          f.net.frame := fun t' hc => by
      rw [update_net, Network.frame_modifyTerminal, dropUnbound_net, hs]
      intro t₀ h₀
      rw [ht'] at h₀
      cases h₀
      exact hc
    dsimp only
    split
    · exact hw _ rfl
    · rw [announce_net]
      exact hw _ rfl

theorem frame_seed (f : Flow) (th : Nat) (port : Int) :
    (f.seed th port).1.net.frame = f.net.frame := by
  unfold seed
  split
  · rfl
  · dsimp only
    rw [update_net, Network.frame_modifyTerminal, frame_stamp]
    intro _ _
    rfl

theorem frame_dropLoops (f : Flow) (r : Roadm) (rh : Nat) (set : ChannelSet) :
    (f.dropLoops r rh set).1.net.frame = f.net.frame := by
  unfold dropLoops
  refine frame_foldl_fst _ _ (fun p c => ?_) _
  obtain ⟨g, kept⟩ := p
  dsimp only
  split
  · rw [loop_net]
  · rfl

theorem frame_acceptAt (f : Flow) (r : Roadm) (rh : Nat) (port : Int) (set : ChannelSet) :
    (f.acceptAt r rh port set).net.frame = f.net.frame := by
  unfold acceptAt
  have hl := frame_dropLoops f r rh set
  rcases hx : f.dropLoops r rh set with ⟨g, kept⟩
  rw [hx] at hl
  have hs := frame_stamp g ⟨.nodeIn, rh, port⟩ kept
  rcases hy : g.stamp ⟨.nodeIn, rh, port⟩ kept with ⟨g', kept'⟩
  rw [hy] at hs
  dsimp only
  rw [update_net, Network.frame_modifyRoadm, frame_stamp, hl]
  intro _ _
  rfl

theorem frame_preamplifyInputs (f : Flow) (rh : Nat) (inPorts : List Int) :
    (f.preamplifyInputs rh inPorts).net.frame = f.net.frame := by
  unfold preamplifyInputs
  refine frame_foldl _ _ (fun g i => ?_) f
  split
  · rename_i r _
    have hp := frame_preamplify g r i
    rcases hx : g.preamplify r i with ⟨g', set⟩
    rw [hx] at hp
    dsimp only
    rw [update_net, Network.frame_modifyRoadm, hp]
    intro _ _
    rfl
  · rfl

theorem frame_switchOutputs (f : Flow) (rh : Nat) (outs : List Int) :
    (f.switchOutputs rh outs).1.net.frame = f.net.frame := by
  unfold switchOutputs
  refine frame_foldl_fst _ _ (fun p o => ?_) _
  obtain ⟨g, items⟩ := p
  exact frame_switchOutput g rh o

section Switching

variable {sw : Flow → Nat → Flow} (hsw : ∀ g rh, (sw g rh).net.frame = g.net.frame)
include hsw

theorem frame_deliverRoadm (f : Flow) (rh : Nat) (port : Int) (set : ChannelSet) (isLast : Bool) :
    (f.deliverRoadm sw rh port set isLast).net.frame = f.net.frame := by
  unfold deliverRoadm
  split
  · rfl
  · dsimp only
    split
    · exact frame_acceptAt _ _ _ _ _
    · rw [hsw, frame_acceptAt]

theorem frame_propagateLink (f : Flow) (l : Link) (set : ChannelSet) (isLast : Bool) :
    (f.propagateLink sw l set isLast).net.frame = f.net.frame := by
  unfold propagateLink
  dsimp only
  have ht := frame_traverse (f.emit (.traced (Trace.Span.internal "link/propagate"
    [("link", .str l.name), ("channels", .int set.length), ("is_last_port", .bool isLast)] true)))
    l set
  rcases hx : (f.emit _).traverse l set with ⟨g, cur⟩
  rw [hx] at ht
  dsimp only
  split
  · rw [frame_deliverRoadm hsw, ht]
    rfl
  · rw [frame_deliverTerminal, ht]
    rfl
  · exact ht

theorem frame_fanOut (f : Flow) (src : Nat) (items : List (Int × ChannelSet)) :
    (f.fanOut sw src items).net.frame = f.net.frame := by
  unfold fanOut
  dsimp only
  rw [frame_foldl _ _ (fun g d => ?_), dropUnlinked_net]
  obtain ⟨l, set, isLast⟩ := d
  exact frame_propagateLink hsw g l set isLast

end Switching

theorem frame_switchLoop {fan : Flow → List (Int × ChannelSet) → Flow}
    (hfan : ∀ g items, (fan g items).net.frame = g.net.frame) (f : Flow) (rh rounds : Nat) :
    (f.switchLoop fan rh rounds).net.frame = f.net.frame := by
  induction rounds generalizing f with
  | zero => rfl
  | succ rounds ih =>
    unfold switchLoop
    split
    · rfl
    · split
      · rfl
      · dsimp only
        split
        · exact Network.frame_modifyRoadm fun _ _ => rfl
        · rw [ih, hfan, frame_switchOutputs, frame_preamplifyInputs, update_net,
            Network.frame_modifyRoadm]
          intro _ _
          rfl

/-- `switchRoadm` keeps the frame at every depth: the busy flag it sets and clears is port
state that a reset clears. -/
theorem frame_switchRoadm (depth : Nat) :
    ∀ g rh, (Flow.switchRoadm depth g rh).net.frame = g.net.frame := by
  induction depth with
  | zero => exact fun g _ => rfl
  | succ depth ih =>
    intro g rh
    simp only [Flow.switchRoadm]
    rw [update_net, Network.frame_modifyRoadm,
      frame_switchLoop (fun k items => frame_fanOut ih k rh items), update_net,
      Network.frame_modifyRoadm]
    all_goals intro _ _; rfl

end Flow

/-! ### Every command keeps the frame -/

/-- An edit of a switch table changes only what a reset clears. -/
theorem Roadm.reset_of_edit {r r' : Roadm} (he : Roadm.Edit r r') : r'.reset = r.reset := by
  cases he with
  | install he =>
    rcases (Roadm.installRule_eq_ok he).2 with ⟨-, rfl⟩ | ⟨-, -, rfl⟩ <;> rfl
  | delete he =>
    obtain ⟨rule, -, rfl⟩ := Roadm.deleteRule_eq_ok he
    rfl
  | deleteAll =>
    unfold Roadm.deleteAllRules
    refine List.foldlRecOn (motive := fun x : Roadm => x.reset = r.reset) _ _ rfl
      fun x hx id _ => ?_
    split
    · exact hx
    · exact hx
  | update he =>
    obtain ⟨rule, -, -, ⟨-, rfl⟩ | rfl⟩ := Roadm.updateRule_eq_ok he <;> rfl
  | configureVoa he =>
    unfold Roadm.configureVoa at he
    split at he
    · cases he
    · split at he
      · cases he
      · split at he
        · cases he
        · cases he
          rfl
  | reset => rfl

/-- A new gain is undone by a reset. -/
theorem Amplifier.reset_of_setGain {a a' : Amplifier} {db : Float} (he : a.setGain db = .ok a') :
    a'.reset = a.reset := by
  unfold Amplifier.setGain at he
  split at he
  · cases he
  · cases he
    rfl

namespace Network

variable {n : Network}

/-- A pass keeps the frame of the network. -/
theorem frame_launch (n : Network) (t : Terminal) (ports : List Int) (safe : Bool) (kind : String) :
    (n.launch t ports safe kind).net.frame = n.frame := by
  unfold launch
  dsimp only
  rw [Flow.debug_net, Flow.emit_net, Flow.emit_net, Flow.frame_fanOut (Flow.frame_switchRoadm _),
    Flow.frame_foldl_fst _ _ (fun p port => ?_)]
  · rfl
  · exact Flow.frame_seed p.1 t.handle port

theorem frame_foldl {α : Type} (l : List α) (op : Network → α → Network)
    (hop : ∀ m a, (op m a).frame = m.frame) (n : Network) : (l.foldl op n).frame = n.frame := by
  induction l generalizing n with
  | nil => rfl
  | cons a l ih => rw [List.foldl_cons, ih, hop]

theorem frame_ofExcept {e : Except Failure Network} (he : ∀ n', e = .ok n' → n'.frame = n.frame) :
    (Outcome.ofExcept n e).net.frame = n.frame := by
  cases e with
  | error => rfl
  | ok n' => exact he n' rfl

/-- Every node and every amplifier sits at its handle. -/
structure InPlace (n : Network) : Prop where
  node : ∀ (h : Nat) (nd : Node), n.nodes[h]? = some nd → nd.handle = h
  amp : ∀ (h : Nat) (a : Amplifier), n.amps[h]? = some a → a.handle = h

theorem InPlace.getElem?_node (hin : n.InPlace) {nd : Node} (hmem : nd ∈ n.nodes) :
    n.nodes[nd.handle]? = some nd := by
  obtain ⟨h, hh⟩ := Array.getElem?_of_mem hmem
  rw [hin.node h nd hh]
  exact hh

theorem InPlace.getElem?_amp (hin : n.InPlace) {a : Amplifier} (hmem : a ∈ n.amps) :
    n.amps[a.handle]? = some a := by
  obtain ⟨h, hh⟩ := Array.getElem?_of_mem hmem
  rw [hin.amp h a hh]
  exact hh

theorem mem_of_roadm {name : String} {r : Roadm} (he : n.roadm name = .ok r) :
    Node.roadm r ∈ n.nodes := by
  unfold Network.roadm at he
  obtain ⟨nd, hnd, he⟩ := Except.bind_eq_ok.mp he
  cases nd with
  | roadm r' =>
    cases he
    exact mem_of_node hnd
  | terminal => cases he

theorem mem_of_terminal {name : String} {t : Terminal} (he : n.terminal name = .ok t) :
    Node.terminal t ∈ n.nodes := by
  unfold Network.terminal at he
  obtain ⟨nd, hnd, he⟩ := Except.bind_eq_ok.mp he
  cases nd with
  | terminal t' =>
    cases he
    exact mem_of_node hnd
  | roadm => cases he

theorem mem_of_amplifier {name : String} {a : Amplifier} (he : n.amplifier name = .ok a) :
    a ∈ n.amps := by
  unfold Network.amplifier at he
  split at he
  · rename_i a' ha
    obtain ⟨h, -, hh⟩ := Option.bind_eq_some_iff.mp ha
    cases he
    exact Array.mem_of_getElem? hh
  · cases he

theorem frame_withRoadm (hin : n.InPlace) {name : String} {f : Roadm → Except Failure Roadm}
    (hf : ∀ r r', f r = .ok r' → Roadm.Edit r r') :
    (Outcome.ofExcept n (n.withRoadm name f)).net.frame = n.frame := by
  refine frame_ofExcept fun n' he => ?_
  unfold Network.withRoadm at he
  obtain ⟨r, hr, he⟩ := Except.bind_eq_ok.mp he
  obtain ⟨r', hr', he⟩ := Except.bind_eq_ok.mp he
  cases he
  have hreset := Roadm.reset_of_edit (hf r r' hr')
  -- an edit keeps the handle, so the new ROADM replaces the old one in place
  have hhandle : r'.handle = r.handle := show r'.reset.handle = r.reset.handle from hreset ▸ rfl
  refine frame_setNode (?_ : n.nodes[r'.handle]? = some (.roadm r)) (congrArg Node.roadm hreset)
  rw [hhandle]
  exact hin.getElem?_node (mem_of_roadm hr)

theorem frame_withAmplifier (hin : n.InPlace) {name : String} {f : Amplifier → Except Failure Amplifier}
    (hf : ∀ a a', f a = .ok a' → a'.reset = a.reset) :
    (Outcome.ofExcept n (n.withAmplifier name f)).net.frame = n.frame := by
  refine frame_ofExcept fun n' he => ?_
  unfold Network.withAmplifier at he
  obtain ⟨a, ha, he⟩ := Except.bind_eq_ok.mp he
  obtain ⟨a', ha', he⟩ := Except.bind_eq_ok.mp he
  cases he
  have hreset := hf a a' ha'
  have hhandle : a'.handle = a.handle := show a'.reset.handle = a.reset.handle from hreset ▸ rfl
  simp only [frame, Array.set!_eq_setIfInBounds]
  rw [hhandle, map_setIfInBounds_of_eq (hin.getElem?_amp (mem_of_amplifier ha)) hreset]

theorem frame_turnOn (name : String) (safe : Bool) : (n.turnOn name safe).net.frame = n.frame := by
  unfold Network.turnOn
  split
  · rfl
  · rename_i t _
    split
    · rfl
    · dsimp only
      split
      · rfl
      · -- the transmitters are switched on, then a pass runs
        have hon : (t.tx.values.foldl (fun n b => n.modifySignal b.signal ({ · with active := true }))
            n).frame = n.frame := by
          refine frame_foldl _ _ (fun _ _ => ?_) n
          rfl
        have hterm := frame_modifyTerminal (n := t.tx.values.foldl (fun n b =>
            n.modifySignal b.signal ({ · with active := true })) n) (h := t.handle)
          (g := fun t => { t with tx := t.tx.map fun _ b => { b with active := true } })
          fun _ _ => rfl
        split
        · rw [frame_launch, hterm, hon]
        · rw [hterm, hon]

theorem frame_turnOff (name : String) (channels : List Int) :
    (n.turnOff name channels).net.frame = n.frame := by
  unfold Network.turnOff
  split
  · rfl
  · rename_i t _
    dsimp only
    generalize (if channels.isEmpty then t.tx.keys else channels) = cs
    split
    · rfl
    · generalize hN : List.foldl _ n cs = N
      -- the channels are switched off and forget their paths
      have hNs : N.frame = n.frame := by
        rw [← hN]
        refine frame_foldl cs _ (fun m ch => ?_) n
        split
        · rw [frame_modifyTerminal]
          · rfl
          · intro _ _
            rfl
        · rfl
      -- then a pass runs on the ports they used
      split
      · exact hNs
      · split
        · rw [frame_launch, hNs]
        · exact hNs

theorem frame_resetNode (nd : Node) : (n.resetNode nd).frame = n.frame := by
  cases nd with
  | terminal t =>
    rw [resetNode, resetTerminal, frame_modifyTerminal]
    · refine frame_foldl _ _ (fun _ _ => ?_) n
      rfl
    · intro _ _
      rfl
  | roadm r =>
    rw [resetNode, frame_modifyRoadm]
    intro _ _
    rfl

theorem frame_reset (n : Network) : n.reset.frame = n.frame := by
  have hnodes := frame_foldl n.nodes.toList _ (fun m nd => frame_resetNode (n := m) nd) n
  unfold reset
  rw [← hnodes]
  -- resetting the amplifiers and spans again changes nothing
  simp only [frame, Array.map_map]
  rfl

theorem frame_assocTx {t : Terminal} {trx ch port : Int} {n' : Network}
    (he : n.assocTx t trx ch port = .ok n') : n'.frame = n.frame := by
  unfold Network.assocTx at he
  split at he
  · dsimp only at he
    split at he
    · cases he
    · split at he
      · cases he
      · split at he
        · -- rebinding the same channel to the same transceiver and port changes nothing
          split at he
          · cases he
            rfl
          · cases he
        · split at he
          · cases he
          · -- a new binding pushes a new signal and files it at the terminal
            obtain ⟨s, -, he⟩ := Except.bind_eq_ok.mp he
            cases he
            rw [frame_modifyTerminal]
            · rfl
            · intro _ _
              rfl
  · cases he

theorem frame_resetLink {name : String} {n' : Network} (he : n.resetLink name = .ok n') :
    n'.frame = n.frame := by
  unfold Network.resetLink at he
  obtain ⟨l, _, he⟩ := Except.bind_eq_ok.mp he
  cases he
  -- signals forget the link's locations
  have hX : (l.locations.foldl (fun n loc =>
      (n.componentSignals loc).foldl (fun n c => n.modifySignal c.sig (·.forget loc)) n) n).frame =
        n.frame := by
    refine frame_foldl _ _ (fun m loc => ?_) n
    refine frame_foldl _ _ (fun _ _ => ?_) m
    rfl
  -- the link's amplifiers and spans are reset, which a frame does anyway
  refine (frame_foldl l.hops _ (fun m hop => ?_) _).trans ?_
  · dsimp only
    split
    · rw [frame_modifyAmp, frame_modifySpan]
      all_goals intro _ _; rfl
    · exact frame_modifySpan fun _ _ => rfl
  · split
    · rw [frame_modifyAmp, hX]
      intro _ _
      rfl
    · exact hX

/-- Every command keeps the frame of a network whose nodes and amplifiers sit at their
handles. -/
theorem frame_execute (hin : n.InPlace) (c : Command) : (n.execute c).net.frame = n.frame := by
  cases c with
  | installRule => exact frame_withRoadm hin fun _ _ hr => .install hr
  | deleteRule roadm id =>
    refine frame_withRoadm hin fun r r' hr => ?_
    -- the empty id deletes every rule
    split at hr
    · cases hr
      exact .deleteAll r
    · exact .delete hr
  | updateRule => exact frame_withRoadm hin fun _ _ hr => .update hr
  | configureVoa => exact frame_withRoadm hin fun _ _ hr => .configureVoa hr
  | assocTx =>
    refine frame_ofExcept fun _ he => ?_
    obtain ⟨t, _, he⟩ := Except.bind_eq_ok.mp he
    exact frame_assocTx he
  | assocRx =>
    refine frame_ofExcept fun _ he => ?_
    obtain ⟨t, ht, he⟩ := Except.bind_eq_ok.mp he
    obtain ⟨t', ht', he⟩ := Except.bind_eq_ok.mp he
    cases he
    -- a receive binding is cleared by a reset, and the terminal is replaced in place
    have hclear : t'.clear = t.clear := by
      rcases Terminal.assocRx_eq_ok ht' with rfl | ⟨-, -, rfl⟩ <;> rfl
    have hhandle : t'.handle = t.handle := show t'.clear.handle = t.clear.handle from hclear ▸ rfl
    refine frame_setNode (?_ : n.nodes[t'.handle]? = some (.terminal t)) (congrArg Node.terminal hclear)
    rw [hhandle]
    exact hin.getElem?_node (mem_of_terminal ht)
  | turnOn => exact frame_turnOn _ _
  | turnOff => exact frame_turnOff _ _
  | resetNode =>
    refine frame_ofExcept fun _ he => ?_
    obtain ⟨nd, _, he⟩ := Except.bind_eq_ok.mp he
    cases he
    exact frame_resetNode nd
  | setGain => exact frame_withAmplifier hin fun _ _ ha => Amplifier.reset_of_setGain ha
  | resetAmplifier =>
    refine frame_withAmplifier hin fun a a' ha => ?_
    cases ha
    rfl
  | resetLink => exact frame_ofExcept fun _ he => frame_resetLink he
  | resetNetwork => exact frame_reset n

end Network

namespace Network

variable {n : Network}

/-! ### Additions add to the frame what they add to the network -/

/-- A new terminal has no bindings, port state or reports. -/
theorem Terminal.clear_of_create {h : Nat} {name : String} {trxs : List Transceiver} {t : Terminal}
    (he : Terminal.create h name trxs = .ok t) : t.clear = t := by
  unfold Terminal.create at he
  obtain ⟨_, -, he⟩ := Except.bind_eq_ok.mp he
  cases he
  rfl

section FrameFields

variable (n : Network)

@[simp] theorem frame_maxSwitches : n.frame.maxSwitches = n.maxSwitches := rfl
@[simp] theorem frame_nodes : n.frame.nodes = n.nodes.map Node.fresh := rfl
@[simp] theorem frame_nodeByName : n.frame.nodeByName = n.nodeByName := rfl
@[simp] theorem frame_amps : n.frame.amps = n.amps.map Amplifier.reset := rfl
@[simp] theorem frame_ampByName : n.frame.ampByName = n.ampByName := rfl
@[simp] theorem frame_ampOnLink : n.frame.ampOnLink = n.ampOnLink := rfl
@[simp] theorem frame_ampOnNode : n.frame.ampOnNode = n.ampOnNode := rfl
@[simp] theorem frame_spans : n.frame.spans = n.spans.map Span.clear := rfl
@[simp] theorem frame_links : n.frame.links = n.links := rfl
@[simp] theorem frame_linkByName : n.frame.linkByName = n.linkByName := rfl
@[simp] theorem frame_outLinks : n.frame.outLinks = n.outLinks := rfl
@[simp] theorem frame_inLinks : n.frame.inLinks = n.inLinks := rfl

end FrameFields

theorem frame_addTerminal (n : Network) (name : String) (trxs : List Transceiver) :
    n.frame.addTerminal name trxs = (n.addTerminal name trxs).map fun p => (p.1.frame, p.2) := by
  unfold addTerminal
  by_cases hv : validName name
  · by_cases hc : n.nodeByName.contains name
    · simp [hv, hc, Except.map, bind, Except.bind, throw, throwThe, MonadExceptOf.throw]
    · cases ht : Terminal.create n.nodes.size name trxs with
      | error e => simp [hv, hc, ht, Except.map, bind, Except.bind]
      | ok t => simp [hv, hc, ht, frame, Except.map, bind, Except.bind, pure, Except.pure,
          Node.fresh, Terminal.clear_of_create ht]
  · simp [hv, Except.map, bind, Except.bind, throw, throwThe, MonadExceptOf.throw]

/-- A new amplifier runs at its configured gain, with no gain-control run and no carriers. -/
theorem Amplifier.reset_of_create {h : Nat} {name : String} {cfg : AmplifierConfig} {a : Amplifier}
    (he : Amplifier.create h name cfg = .ok a) : a.reset = a := by
  unfold Amplifier.create at he
  obtain ⟨-, he⟩ := Except.ite_throw_eq_ok he
  obtain ⟨_, -, he⟩ := Except.bind_eq_ok.mp he
  obtain ⟨_, -, he⟩ := Except.bind_eq_ok.mp he
  cases he
  rfl

theorem frame_addAmplifier (n : Network) (name : String) (cfg : AmplifierConfig) :
    n.frame.addAmplifier name cfg = (n.addAmplifier name cfg).map fun p => (p.1.frame, p.2) := by
  unfold addAmplifier
  by_cases hv : validName name
  · by_cases hc : n.ampByName.contains name
    · simp [hv, hc, Except.map, bind, Except.bind, throw, throwThe, MonadExceptOf.throw]
    · cases ha : Amplifier.create n.amps.size name cfg with
      | error e => simp [hv, hc, ha, Except.map, bind, Except.bind]
      | ok a => simp [hv, hc, ha, frame, Except.map, bind, Except.bind, pure, Except.pure,
          Amplifier.reset_of_create ha]
  · simp [hv, Except.map, bind, Except.bind, throw, throwThe, MonadExceptOf.throw]

theorem claimPortAmps_frame (n : Network) : n.frame.claimPortAmps = n.claimPortAmps := rfl

theorem claimLinkAmp_frame (n : Network) : n.frame.claimLinkAmp = n.claimLinkAmp := rfl

theorem frame_addRoadm (n : Network) (name : String) (cfg : RoadmConfig) :
    n.frame.addRoadm name cfg = (n.addRoadm name cfg).map fun p => (p.1.frame, p.2) := by
  unfold addRoadm
  rw [claimPortAmps_frame]
  -- the loss check is the same on both sides; naming its verdict keeps simp off the doubles
  generalize (cfg.insertionLossDb < 0 || cfg.insertionLossDb.isNaN) = badLoss
  by_cases hv : validName name
  · by_cases hc : n.nodeByName.contains name
    · simp [hv, hc, Except.map, bind, Except.bind, throw, throwThe, MonadExceptOf.throw]
    · cases badLoss with
      | true => simp [hv, hc, Except.map, bind, Except.bind, throw, throwThe, MonadExceptOf.throw]
      | false =>
        cases hpre : n.claimPortAmps name "preamp" cfg.preamps [] with
        | error e => simp [hv, hc, Except.map, bind, Except.bind]
        | ok pc =>
          cases hboo : n.claimPortAmps name "boost" cfg.boosts pc.2 with
          | error e => simp [hv, hc, hboo, Except.map, bind, Except.bind]
          | ok bc => simp [hv, hc, hboo, frame, Except.map, bind, Except.bind, pure,
              Except.pure, Node.fresh, Roadm.reset, Roadm.create]
  · simp [hv, Except.map, bind, Except.bind, throw, throwThe, MonadExceptOf.throw]

@[simp] theorem Span.clear_clear (s : Span) : s.clear.clear = s.clear := rfl

@[simp] theorem Amplifier.reset_reset (a : Amplifier) : a.reset.reset = a.reset := rfl

theorem frame_frame (n : Network) : n.frame.frame = n.frame := by
  simp [frame, Array.map_map, Function.comp_def]

/-- A new link adds to the frame what it adds to the network. -/
theorem frame_addLink (n : Network) (cfg : LinkConfig) :
    (fun p => (p.1.frame, p.2)) <$> n.frame.addLink cfg =
      (fun p => (p.1.frame, p.2)) <$> n.addLink cfg := by
  unfold addLink
  simp only [claimLinkAmp_frame, frame_spans, Array.size_map, frame_nodeByName, frame_linkByName,
    frame_outLinks, frame_inLinks, frame_links]
  rcases n.nodeByName.get? cfg.src with _ | src
  · rfl
  rcases n.nodeByName.get? cfg.dst with _ | dst
  · rfl
  dsimp only
  by_cases hname : (if cfg.name = "" then cfg.src ++ "-" ++ cfg.dst else cfg.name) ∈ n.linkByName
  · simp [hname, bind, Except.bind, throw, throwThe, MonadExceptOf.throw, Functor.map, Except.map]
  by_cases hports : cfg.outPort < 0 ∨ cfg.inPort < 0
  · simp [hname, hports, bind, Except.bind, throw, throwThe, MonadExceptOf.throw, Functor.map,
      Except.map]
  rcases n.outLinks.get? ⟨src, cfg.outPort⟩ with _ | other
  · rcases n.inLinks.get? ⟨dst, cfg.inPort⟩ with _ | other'
    · simp [hname, hports, map_bind, frame, Array.map_map, Function.comp_def]
    · simp [hname, hports, bind, Except.bind, throw, throwThe, MonadExceptOf.throw, Functor.map,
        Except.map]
  · simp [hname, hports, bind, Except.bind, throw, throwThe, MonadExceptOf.throw, Functor.map,
      Except.map]

/-- An addition whose result is its own frame's, taken on a network or on its frame, leaves
the same frame. -/
theorem frame_orKeep {x₁ x₂ : Except Failure (Network × Nat)}
    (h : (fun p => (p.1.frame, p.2)) <$> x₁ = (fun p => (p.1.frame, p.2)) <$> x₂) :
    (n.frame.orKeep x₁).frame = (n.orKeep x₂).frame := by
  cases x₁ with
  | error e₁ =>
    cases x₂ with
    | error e₂ => exact frame_frame n
    | ok p₂ => cases h
  | ok p₁ =>
    cases x₂ with
    | error e₂ => cases h
    | ok p₂ =>
      have h' : p₁.1.frame = p₂.1.frame := congrArg (fun p => p.1) (Except.ok.inj h)
      exact h'

/-- An addition adds the same to the frame of a network as to the network. -/
theorem frame_add (n : Network) (op : Addition) : (n.frame.add op).frame = (n.add op).frame := by
  -- for a terminal, an amplifier or a ROADM the frame's addition is the frame of the addition
  have hmap : ∀ x : Except Failure (Network × Nat),
      (fun p => (p.1.frame, p.2)) <$> ((fun p => (p.1.frame, p.2)) <$> x) =
        (fun p => (p.1.frame, p.2)) <$> x := fun x => by
    cases x <;> simp [Functor.map, Except.map, frame_frame]
  cases op with
  | terminal name trxs =>
    -- unfolded first: matching `add` against `orKeep` would unfold the additions themselves
    unfold Network.add
    refine frame_orKeep ?_
    rw [frame_addTerminal]
    exact hmap _
  | roadm name cfg =>
    unfold Network.add
    refine frame_orKeep ?_
    rw [frame_addRoadm]
    exact hmap _
  | amplifier name cfg =>
    unfold Network.add
    refine frame_orKeep ?_
    rw [frame_addAmplifier]
    exact hmap _
  | link cfg =>
    unfold Network.add
    exact frame_orKeep (frame_addLink n cfg)

/-- A network is its own frame when no pass ran, it has no signals, and every node, amplifier
and span is in the state its addition gave it. -/
theorem frame_eq_self_iff : n.frame = n ↔ n.passSeq = 0 ∧ n.nodes.map Node.fresh = n.nodes ∧
    n.amps.map Amplifier.reset = n.amps ∧ n.spans.map Span.clear = n.spans ∧ n.signals = #[] := by
  constructor
  · intro h
    exact ⟨(congrArg passSeq h).symm, congrArg nodes h, congrArg amps h, congrArg spans h,
      (congrArg signals h).symm⟩
  · rintro ⟨hp, hnd, ha, hs, hsig⟩
    simp only [frame, hnd, ha, hs, ← hp, ← hsig]

theorem orKeep_frame_eq {x : Except Failure (Network × Nat)} (hn : n.frame = n)
    (hok : ∀ n' k, x = .ok (n', k) → n'.frame = n') : (n.orKeep x).frame = n.orKeep x := by
  cases x with
  | error => exact hn
  | ok p => exact hok p.1 p.2 rfl

/-- Adding to a network in its built state leaves it in its built state: everything an addition
creates starts without state. -/
theorem frame_add_of_frame_eq (hn : n.frame = n) (op : Addition) : (n.add op).frame = n.add op := by
  obtain ⟨hp, hnd, ha, hs, hsig⟩ := frame_eq_self_iff.mp hn
  cases op with
  | terminal name trxs =>
    unfold Network.add
    refine orKeep_frame_eq hn fun n' k he => ?_
    obtain ⟨-, t, ht, rfl, -⟩ := addTerminal_eq_ok he
    refine frame_eq_self_iff.mpr ⟨hp, ?_, ha, hs, hsig⟩
    simp [Array.map_push, hnd, Node.fresh, Terminal.clear_of_create ht]
  | roadm name cfg =>
    unfold Network.add
    refine orKeep_frame_eq hn fun n' k he => ?_
    obtain ⟨-, pre, boo, c₁, claimed, -, -, rfl, -⟩ := addRoadm_eq_ok he
    refine frame_eq_self_iff.mpr ⟨hp, ?_, ha, hs, hsig⟩
    simp only [Array.map_push, hnd]
    rfl
  | amplifier name cfg =>
    unfold Network.add
    refine orKeep_frame_eq hn fun n' k he => ?_
    obtain ⟨-, a, ha', rfl, -⟩ := addAmplifier_eq_ok he
    refine frame_eq_self_iff.mpr ⟨hp, hnd, ?_, hs, hsig⟩
    simp [Array.map_push, ha, Amplifier.reset_of_create ha']
  | link cfg =>
    unfold Network.add
    refine orKeep_frame_eq hn fun n' k he => ?_
    obtain ⟨src, dst, name, boost, c₀, claimed, spans, hops, length, raman, -, -, -, -, -, -, -,
      hbuilt, rfl, -⟩ := addLink_eq_ok he
    refine frame_eq_self_iff.mpr ⟨hp, hnd, ha, ?_, hsig⟩
    -- the new spans carry nothing yet
    have hnew : spans.map Span.clear = spans := by
      refine Array.ext_getElem? fun i => ?_
      rw [Array.getElem?_map]
      cases hi : spans[i]? with
      | none => rfl
      | some sp =>
        have hsig' := hbuilt.fresh sp (Array.mem_of_getElem? hi)
        simp only [Option.map_some, Span.clear, ← hsig']
    simp only [Array.map_append, hs, hnew]

/-! ### The frame of a reachable network -/

theorem frame_empty (m : Nat) : (empty m).frame = empty m := by
  simp [frame, empty]

theorem built_frame_arena (m : Nat) (ops : List Addition) :
    (ops.foldl add (empty m)).frame = ops.foldl add (empty m) ∧ (ops.foldl add (empty m)).Arena :=
  List.foldlRecOn (motive := fun F => F.frame = F ∧ F.Arena) ops add
    ⟨frame_empty m, arena_empty m⟩
    fun _ hF op _ => ⟨frame_add_of_frame_eq hF.1 op, hF.2.add op⟩

theorem InPlace.of_frame (h : n.frame.InPlace) : n.InPlace where
  node i nd hnd := by
    have := h.node i nd.fresh (by simp [hnd])
    rwa [Node.handle_fresh] at this
  amp i a ha := h.amp i a.reset (by simp [ha])

theorem orKeep_of_ok {x : Except Failure (Network × Nat)} {n' : Network} {k : Nat}
    (he : x = .ok (n', k)) : n.orKeep x = n' := by
  rw [he]
  rfl

/-- The frame of a reachable network is the network its additions alone build. -/
theorem frame_of_reachable (hn : n.Reachable) :
    ∃ (m : Nat) (ops : List Addition), n.frame = ops.foldl add (empty m) := by
  obtain ⟨m, h⟩ := hn
  refine ⟨m, ?_⟩
  induction h with
  | refl => exact ⟨[], frame_empty m⟩
  | @tail n₁ n₂ _ hs ih =>
    obtain ⟨ops, hops⟩ := ih
    obtain ⟨hfresh, harena⟩ := built_frame_arena m ops
    rw [← hops] at hfresh harena
    -- an addition adds to the frame what it adds to the network, and the frame is built
    have hadd : ∀ op, n₂ = n₁.add op → ∃ ops' : List Addition, n₂.frame = ops'.foldl add (empty m) := by
      rintro op rfl
      refine ⟨ops ++ [op], ?_⟩
      rw [List.foldl_append, ← hops, List.foldl_cons, List.foldl_nil, ← frame_add,
        frame_add_of_frame_eq hfresh]
    cases hs with
    | addTerminal he => exact hadd (.terminal _ _) (by unfold Network.add; exact (orKeep_of_ok he).symm)
    | addRoadm he => exact hadd (.roadm _ _) (by unfold Network.add; exact (orKeep_of_ok he).symm)
    | addAmplifier he =>
      exact hadd (.amplifier _ _) (by unfold Network.add; exact (orKeep_of_ok he).symm)
    | addLink he => exact hadd (.link _) (orKeep_of_ok he).symm
    | execute c =>
      -- a command keeps the frame; the frame's arena puts every node and amplifier in place
      exact ⟨ops, (frame_execute (InPlace.of_frame ⟨harena.node_handle, harena.amp_handle⟩) c).trans hops⟩

/-! ### Resetting a network -/

theorem passSeq_resetNode (m : Network) (nd : Node) : (m.resetNode nd).passSeq = m.passSeq := by
  cases nd with
  | terminal t =>
    exact foldl_invariant (P := fun k => k.passSeq = m.passSeq) rfl _ fun _ _ hk => hk
  | roadm r => rfl

/-- Resetting a node makes the node at its handle fresh, when that node is the same node up to
its state. -/
theorem getElem?_resetNode {m : Network} {nd x : Node} (hx : m.nodes[nd.handle]? = some x)
    (hfx : x.fresh = nd.fresh) (i : Nat) :
    (m.resetNode nd).nodes[i]? = if nd.handle = i then some nd.fresh else m.nodes[i]? := by
  cases nd with
  | terminal t =>
    have hx : m.nodes[t.handle]? = some x := hx
    rw [resetNode, resetTerminal, modifyTerminal]
    dsimp only
    rw [(foldl_modifySignal_frame _ _ _ m).1, Array.getElem?_modify]
    by_cases hi : t.handle = i
    · subst hi
      -- the node there is a terminal, the same one up to its state
      cases x with
      | terminal t' =>
        simp only [Node.fresh, Node.terminal.injEq] at hfx
        simp [hx, Node.handle, Node.fresh, hfx]
      | roadm => cases hfx
    · simp [Node.handle, hi]
  | roadm r =>
    have hx : m.nodes[r.handle]? = some x := hx
    rw [resetNode, modifyRoadm]
    dsimp only
    rw [Array.getElem?_modify]
    by_cases hi : r.handle = i
    · subst hi
      cases x with
      | roadm r' =>
        simp only [Node.fresh, Node.roadm.injEq] at hfx
        simp [hx, Node.handle, Node.fresh, hfx]
      | terminal => cases hfx
    · simp [Node.handle, hi]

/-- Resetting a list of nodes one after another makes the node at each of their handles fresh
and leaves the others alone. -/
theorem getElem?_foldl_resetNode (l : List Node) (m : Network)
    (hl : ∀ nd ∈ l, ∃ x, m.nodes[nd.handle]? = some x ∧ x.fresh = nd.fresh) (i : Nat) :
    (l.foldl resetNode m).nodes[i]? =
      if ∃ nd ∈ l, nd.handle = i then (m.nodes[i]?).map Node.fresh else m.nodes[i]? := by
  induction l generalizing m with
  | nil => simp
  | cons nd l ih =>
    obtain ⟨x, hx, hfx⟩ := hl nd List.mem_cons_self
    have hstep := getElem?_resetNode hx hfx
    rw [List.foldl_cons, ih]
    · by_cases hi : nd.handle = i
      · subst hi
        simp [hstep, hx, hfx]
      · simp only [hstep, List.exists_mem_cons_iff, hi, false_or, if_false]
    · -- a later node at the same handle is the same node up to its state
      intro nd' hnd'
      obtain ⟨x', hx', hfx'⟩ := hl nd' (List.mem_cons_of_mem nd hnd')
      rw [hstep]
      by_cases hh : nd.handle = nd'.handle
      · rw [if_pos hh]
        rw [← hh, hx] at hx'
        cases hx'
        exact ⟨nd.fresh, rfl, by rw [Node.fresh_fresh, ← hfx, hfx']⟩
      · rw [if_neg hh]
        exact ⟨x', hx', hfx'⟩

/-- In a network whose nodes sit at their handles, a reset leaves the frame with the pass
counter and the signals put back. -/
theorem reset_eq_frame_of_inPlace (hin : n.InPlace) :
    n.reset = { n.frame with passSeq := n.passSeq, signals := n.reset.signals } := by
  have hframe := frame_foldl n.nodes.toList _ (fun m nd => frame_resetNode (n := m) nd) n
  have hpass : (n.nodes.toList.foldl resetNode n).passSeq = n.passSeq :=
    foldl_invariant (P := fun k => k.passSeq = n.passSeq) rfl _ fun _ nd hk =>
      (passSeq_resetNode _ nd).trans hk
  -- every node is reset once, at its own handle
  have hnodes : (n.nodes.toList.foldl resetNode n).nodes = n.nodes.map Node.fresh := by
    refine Array.ext_getElem? fun i => ?_
    rw [getElem?_foldl_resetNode _ _ (fun nd hnd => ⟨nd, hin.getElem?_node
      (Array.mem_toList_iff.mp hnd), rfl⟩), Array.getElem?_map]
    split
    · rfl
    · rename_i hnone
      cases hi : n.nodes[i]? with
      | none => rfl
      | some nd =>
        exact absurd ⟨nd, Array.mem_toList_iff.mpr (Array.mem_of_getElem? hi),
          hin.node i nd hi⟩ hnone
  rw [← hframe]
  unfold reset
  simp only [frame, hnodes, hpass, Array.map_map, Function.comp_def, Node.fresh_fresh]
  rfl

theorem InPlace.of_reachable (hn : n.Reachable) : n.InPlace := by
  obtain ⟨m, ops, hops⟩ := frame_of_reachable hn
  have harena := (built_frame_arena m ops).2
  rw [← hops] at harena
  exact InPlace.of_frame ⟨harena.node_handle, harena.amp_handle⟩

/-- A reset of a reachable network leaves the network its additions alone build, with the pass
counter and the signals put back. -/
theorem reset_eq_built (hn : n.Reachable) :
    ∃ (m : Nat) (ops : List Addition),
      n.reset = { ops.foldl add (empty m) with passSeq := n.passSeq, signals := n.reset.signals } := by
  obtain ⟨m, ops, hops⟩ := frame_of_reachable hn
  exact ⟨m, ops, hops ▸ reset_eq_frame_of_inPlace (InPlace.of_reachable hn)⟩

/-- Resetting a node that is already fresh leaves the signals alone: a fresh terminal owns none. -/
theorem signals_resetNode_of_fresh (m : Network) {nd : Node} (hnd : nd.fresh = nd) :
    (m.resetNode nd).signals = m.signals := by
  cases nd with
  | terminal t =>
    have htx : t.tx = {} := by
      simp only [Node.fresh, Node.terminal.injEq] at hnd
      rw [← hnd]
      rfl
    simp only [resetNode, resetTerminal, modifyTerminal, htx]
    rfl
  | roadm r => rfl

/-- A network whose nodes are all fresh keeps its signals through a reset. -/
theorem signals_reset_of_fresh (h : n.nodes.map Node.fresh = n.nodes) : n.reset.signals = n.signals :=
  List.foldlRecOn (motive := fun k : Network => k.signals = n.signals) n.nodes.toList _ rfl
    fun k hk nd hnd => by
      have hfresh : nd.fresh = nd := by
        obtain ⟨i, hi, rfl⟩ := Array.getElem_of_mem (Array.mem_toList_iff.mp hnd)
        have := congrArg (·[i]?) h
        simp only [Array.getElem?_map, Array.getElem?_eq_getElem hi, Option.map_some,
          Option.some.injEq] at this
        exact this
      exact (signals_resetNode_of_fresh k hfresh).trans hk

/-- A second reset of a reachable network changes nothing. -/
theorem reset_reset (hn : n.Reachable) : n.reset.reset = n.reset := by
  have hin := InPlace.of_reachable hn
  have hr := reset_eq_frame_of_inPlace hin
  have hreach : n.reset.Reachable := hn.step (Step.execute n .resetNetwork)
  have hr' := reset_eq_frame_of_inPlace (InPlace.of_reachable hreach)
  -- after the first reset every node is fresh, so the second one finds no signal to switch off
  have hfresh : n.reset.nodes.map Node.fresh = n.reset.nodes := by
    rw [hr]
    simp [frame, Array.map_map, Function.comp_def]
  have hpass : n.reset.passSeq = n.passSeq := by rw [hr]
  rw [hr', signals_reset_of_fresh hfresh, frame_reset, hpass]
  exact hr.symm

end Network

end WdmNet

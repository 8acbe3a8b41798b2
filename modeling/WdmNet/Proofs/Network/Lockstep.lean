import Mathlib.Data.List.Forall2
import WdmNet.Proofs.Network.Fresh
import WdmNet.Proofs.Pass.Lockstep
/-!
Commands in lockstep, and what a reset leaves.

Every command run on renumbered networks leaves renumbered networks, with the same error and
the same events up to their pass numbers (`Network.Renumbered.execute`), and so does every
sequence of commands (`Network.Renumbered.executeAll`). A reset network is its frame, the
network its additions alone build, renumbered: its passes count on from the pass counter and
its new signals from the end of the old signal list (`Network.reset_renumbered`). So a reset is
idempotent, and every sequence of commands after it tells what it tells on the built network,
up to pass numbers (`Network.reset_acts_as_built`).
-/

namespace WdmNet

/-- A result bound to two continuations that agree on every value. -/
theorem ResultRel.bind_same {ε α β γ : Type} {R : β → γ → Prop} {x : Except ε α}
    {f₁ : α → Except ε β} {f₂ : α → Except ε γ} (hf : ∀ a, ResultRel R (f₁ a) (f₂ a)) :
    ResultRel R (x >>= f₁) (x >>= f₂) := by
  cases x with
  | error e => exact .error e
  | ok a => exact hf a

theorem Offset.setGain_amplifier (o : Offset) (a : Amplifier) (db : Float) :
    (o.amplifier a).setGain db = o.amplifier <$> a.setGain db := by
  unfold Amplifier.setGain
  split <;> rfl

/-- Renumbered nodes are the same once fresh: they differ only in their carriers, port marks
and transmit bindings, which a fresh node does not have. -/
theorem Node.Renumbered.fresh_eq {o : Offset} {nd₁ nd₂ : Node} (h : nd₁.Renumbered o nd₂) :
    nd₁.fresh = nd₂.fresh := by
  cases h with
  | terminal ht =>
    obtain ⟨hh, hn, htr, -, -, -, -, -, -, -, hl⟩ := ht
    simp only [Node.fresh, Terminal.clear, hh, hn, htr, hl]
  | roadm hr =>
    obtain ⟨hh, hn, hc, hpre, hboo, -⟩ := hr
    simp only [Node.fresh, Roadm.reset, hh, hn, hc, hpre, hboo]

/-- A fresh node is its own renumbering, by any offset. -/
theorem Node.renumbered_fresh (o : Offset) (nd : Node) : nd.fresh.Renumbered o nd.fresh := by
  cases nd with
  | terminal t =>
    exact .terminal ⟨rfl, rfl, rfl, .empty, rfl, .empty, .empty, .empty, rfl, rfl, rfl⟩
  | roadm r =>
    exact .roadm ⟨rfl, rfl, rfl, rfl, rfl, rfl, rfl, rfl, .empty, .empty, .empty, rfl, .empty,
      rfl, rfl⟩

namespace Network.Renumbered

variable {o : Offset} {n₁ n₂ : Network}

/-- Renumbered networks have the same frame. -/
theorem frame_eq (h : n₁.Renumbered o n₂) : n₁.frame = n₂.frame := by
  have hnodes : n₁.nodes.map Node.fresh = n₂.nodes.map Node.fresh := by
    refine Array.ext_getElem? fun i => ?_
    rw [Array.getElem?_map, Array.getElem?_map]
    have hrel := h.nodes i
    generalize n₁.nodes[i]? = x₁ at hrel ⊢
    generalize n₂.nodes[i]? = x₂ at hrel ⊢
    cases hrel with
    | none => rfl
    | some hnd => exact congrArg some hnd.fresh_eq
  unfold Network.frame
  rw [hnodes, h.amps, h.spans, Array.map_map, Array.map_map, h.maxSwitches, h.nodeByName,
    h.ampByName, h.ampOnLink, h.ampOnNode, h.links, h.linkByName, h.outLinks, h.inLinks]
  rfl

/-! ### Outcomes without a pass -/

theorem ofExcept (h : n₁.Renumbered o n₂) {r₁ r₂ : Except Failure Network}
    (hr : ResultRel (Network.Renumbered o) r₁ r₂) :
    (Outcome.ofExcept n₁ r₁).Renumbered o (Outcome.ofExcept n₂ r₂) := by
  cases hr with
  | error e => exact ⟨h, rfl, rfl⟩
  | ok hn => exact ⟨hn, rfl, rfl⟩

theorem refused (h : n₁.Renumbered o n₂) (e : Failure) :
    (Outcome.refused n₁ e).Renumbered o (Outcome.refused n₂ e) :=
  ⟨h, rfl, rfl⟩

/-! ### Edits of one node or amplifier -/

theorem withRoadm (h : n₁.Renumbered o n₂) (name : String) {f₁ f₂ : Roadm → Except Failure Roadm}
    (hf : ∀ r₁ r₂, r₁.Renumbered o r₂ → ResultRel (Roadm.Renumbered o) (f₁ r₁) (f₂ r₂)) :
    ResultRel (Network.Renumbered o) (n₁.withRoadm name f₁) (n₂.withRoadm name f₂) := by
  unfold Network.withRoadm
  refine (h.roadm name).bind fun r₁ r₂ hr => (hf r₁ r₂ hr).bind fun q₁ q₂ hq => ?_
  rw [hq.handle]
  exact .ok (h.setNode (.roadm hq) q₂.handle)

/-- An edit of an amplifier that commutes with moving its carriers. -/
theorem withAmplifier (h : n₁.Renumbered o n₂) (name : String)
    {f : Amplifier → Except Failure Amplifier} (hf : ∀ a, f (o.amplifier a) = o.amplifier <$> f a) :
    ResultRel (Network.Renumbered o) (n₁.withAmplifier name f) (n₂.withAmplifier name f) := by
  unfold Network.withAmplifier
  rw [h.amplifier]
  cases n₂.amplifier name with
  | error e => exact .error e
  | ok a =>
    show ResultRel _ (f (o.amplifier a) >>= _) (f a >>= _)
    rw [hf]
    cases f a with
    | error e => exact .error e
    | ok a' =>
      refine .ok { h with amps := ?_ }
      simp only [Array.set!_eq_setIfInBounds, Array.map_setIfInBounds, h.amps]
      rfl

theorem assocRx (h : n₁.Renumbered o n₂) (name : String) (trx ch port : Int) :
    ResultRel (Network.Renumbered o)
      (do let t ← n₁.terminal name; let t ← t.assocRx trx ch port
          pure (n₁.setNode t.handle (.terminal t)))
      (do let t ← n₂.terminal name; let t ← t.assocRx trx ch port
          pure (n₂.setNode t.handle (.terminal t))) := by
  refine (h.terminal name).bind fun t₁ t₂ ht =>
    (ht.change (f := (·.assocRx trx ch port)) (Terminal.assocRx_withPorts · · trx ch port)).bind
      fun u₁ u₂ hu => ?_
  rw [hu.handle]
  exact .ok (h.setNode (.terminal hu) u₂.handle)

/-- A new transmit binding launches a new signal, the same on both networks, at the end of
each signal list; the binding on the first network owns the moved position. -/
theorem assocTx (h : n₁.Renumbered o n₂) {t₁ t₂ : Terminal} (ht : t₁.Renumbered o t₂)
    (trx ch port : Int) :
    ResultRel (Network.Renumbered o) (n₁.assocTx t₁ trx ch port) (n₂.assocTx t₂ trx ch port) := by
  unfold Network.assocTx
  rw [ht.transceiver?, ht.tx.get?, ht.tx.toList, ht.name, ht.handle, List.find?_map]
  cases t₂.transceiver? trx with
  | none => exact .error _
  | some trx' =>
    dsimp only
    split
    · exact .error _
    split
    · exact .error _
    cases t₂.tx.get? ch with
    | some b =>
      dsimp only [Option.map_some, Offset.binding]
      split
      · exact .ok h
      · exact .error _
    | none =>
      -- the busy check reads the transceivers of the bindings, which the renumbering keeps
      dsimp only [Option.map_none]
      have hbusy : ((fun x : Int × TxBinding => x.2.transceiver == trx) ∘
          fun p : Int × TxBinding => (p.1, o.binding p.2)) = fun x => x.2.transceiver == trx := rfl
      rw [hbusy]
      cases t₂.tx.toList.find? (fun x => x.2.transceiver == trx) with
      | some p => exact .error _
      | none =>
        dsimp only [Option.map_none]
        cases hs : Signal.create ch trx'.effectiveSymbolRate with
        | error e => exact .error e
        | ok s =>
          refine .ok ((h.push (o.signal_of_create hs)).modifyTerminal (fun u₁ u₂ hu => ?_) t₂.handle)
          refine { hu with tx := ?_ }
          rw [h.size]
          exact hu.tx.insert ch ⟨trx, port, n₂.signals.size, false⟩

/-! ### Resets -/

theorem resetTerminal (h : n₁.Renumbered o n₂) {t₁ t₂ : Terminal} (ht : t₁.Renumbered o t₂) :
    (n₁.resetTerminal t₁).Renumbered o (n₂.resetTerminal t₂) := by
  unfold Network.resetTerminal
  rw [ht.tx.values, ht.handle]
  -- each signal the terminal transmits is switched off at its moved position
  refine Network.Renumbered.modifyTerminal ?_ (fun _ _ hu => hu.clear) t₂.handle
  refine foldl_rel_map _ o.binding (fun m₁ m₂ b hm => ?_) h
  exact hm.modifySignal (fun _ => by rfl) b.signal

theorem resetNode (h : n₁.Renumbered o n₂) {nd₁ nd₂ : Node} (hnd : nd₁.Renumbered o nd₂) :
    (n₁.resetNode nd₁).Renumbered o (n₂.resetNode nd₂) := by
  cases hnd with
  | terminal ht => exact h.resetTerminal ht
  | roadm hr =>
    dsimp only [Network.resetNode]
    rw [hr.handle]
    exact h.modifyRoadm (fun _ _ hq => hq.reset) _

/-- The nodes of renumbered networks, in handle order, are pairwise renumbered. -/
theorem nodes_toList (h : n₁.Renumbered o n₂) :
    List.Forall₂ (Node.Renumbered o) n₁.nodes.toList n₂.nodes.toList := by
  refine List.forall₂_iff_get.mpr ⟨by simp [h.nodes_size], fun i hi₁ hi₂ => ?_⟩
  have hrel := h.nodes i
  rw [Array.getElem?_eq_getElem (by simpa using hi₁), Array.getElem?_eq_getElem (by simpa using hi₂)]
    at hrel
  cases hrel with
  | some hnd => simpa using hnd

theorem reset (h : n₁.Renumbered o n₂) : n₁.reset.Renumbered o n₂.reset := by
  unfold Network.reset
  have hf : (n₁.nodes.toList.foldl (fun n nd => n.resetNode nd) n₁).Renumbered o
      (n₂.nodes.toList.foldl (fun n nd => n.resetNode nd) n₂) :=
    List.rel_foldl (fun _ _ hm _ _ hnd => hm.resetNode hnd) h h.nodes_toList
  -- a reset amplifier or span holds no carriers, so moving them changes nothing
  refine { hf with amps := ?_, spans := ?_ }
  · dsimp only
    rw [hf.amps, Array.map_map, Array.map_map]
    rfl
  · dsimp only
    rw [hf.spans, Array.map_map, Array.map_map]
    rfl

/-- Every signal that crossed one of the locations forgets it, at its moved position. -/
theorem forget (h : n₁.Renumbered o n₂) (locs : List Location) :
    (locs.foldl (fun n loc => (n.componentSignals loc).foldl
        (fun n c => n.modifySignal c.sig (·.forget loc)) n) n₁).Renumbered o
      (locs.foldl (fun n loc => (n.componentSignals loc).foldl
        (fun n c => n.modifySignal c.sig (·.forget loc)) n) n₂) := by
  refine foldl_rel locs (fun m₁ m₂ loc hm => ?_) h
  rw [hm.componentSignals loc]
  refine foldl_rel_map _ o.carrier (fun k₁ k₂ c hk => ?_) hm
  exact hk.modifySignal (fun s => (o.signal_forget s loc).symm) c.sig

theorem resetLink (h : n₁.Renumbered o n₂) (name : String) :
    ResultRel (Network.Renumbered o) (n₁.resetLink name) (n₂.resetLink name) := by
  unfold Network.resetLink
  rw [h.link]
  cases n₂.link name with
  | error e => exact .error e
  | ok l =>
    refine .ok ?_
    dsimp only
    refine foldl_rel l.hops (fun m₁ m₂ hop hm => ?_) ?_
    · have hs : (m₁.modifySpan hop.span Span.clear).Renumbered o (m₂.modifySpan hop.span Span.clear) :=
        hm.modifySpan (fun _ => by rfl) hop.span
      split
      · exact hs.modifyAmp (fun _ => by rfl) _
      · exact hs
    · have hforget := h.forget l.locations
      split
      · exact hforget.modifyAmp (fun _ => by rfl) _
      · exact hforget

/-! ### Switching channels on and off -/

/-- A pass from a terminal found on renumbered networks runs in lockstep. -/
theorem launchAt (h : n₁.Renumbered o n₂) (th : Nat) (ports : List Int) (safe : Bool)
    (kind : String) :
    (match n₁.terminalAt? th with
      | some t => n₁.launch t ports safe kind
      | none => ⟨n₁, [], none⟩ : Outcome).Renumbered o
    (match n₂.terminalAt? th with
      | some t => n₂.launch t ports safe kind
      | none => ⟨n₂, [], none⟩ : Outcome) := by
  have hrel := h.terminalAt? th
  generalize n₁.terminalAt? th = x₁ at hrel ⊢
  generalize n₂.terminalAt? th = x₂ at hrel ⊢
  cases hrel with
  | none => exact ⟨h, rfl, rfl⟩
  | some ht => exact h.launch ht ports safe kind

theorem turnOn (h : n₁.Renumbered o n₂) (name : String) (safe : Bool) :
    (n₁.turnOn name safe).Renumbered o (n₂.turnOn name safe) := by
  unfold Network.turnOn
  have hrel := h.terminal name
  generalize n₁.terminal name = x₁ at hrel ⊢
  generalize n₂.terminal name = x₂ at hrel ⊢
  cases hrel with
  | error e => exact h.refused e
  | @ok t₁ t₂ ht =>
    dsimp only
    rw [ht.tx.isEmpty, ht.name, ht.txPorts, ht.tx.keys, ht.handle, h.outboundLink, ht.tx.values]
    split
    · exact h.refused _
    split
    · exact h.refused _
    -- the transmitted signals are switched on at their moved positions
    generalize hN₁ : Network.modifyTerminal (List.foldl _ n₁ _) t₂.handle _ = N₁
    generalize hN₂ : Network.modifyTerminal (List.foldl _ n₂ _) t₂.handle _ = N₂
    have hN : N₁.Renumbered o N₂ := by
      rw [← hN₁, ← hN₂]
      refine Network.Renumbered.modifyTerminal ?_ (fun u₁ u₂ hu => ?_) t₂.handle
      · refine foldl_rel_map _ o.binding (fun m₁ m₂ b hm => ?_) h
        exact hm.modifySignal (fun _ => by rfl) b.signal
      · exact { hu with tx := hu.tx.map fun _ _ => rfl }
    exact hN.launchAt t₂.handle _ safe _

/-- The binding of a channel at a terminal of the first network is the moved binding of the
second. -/
theorem txBinding (h : n₁.Renumbered o n₂) (th : Nat) (ch : Int) :
    (n₁.terminalAt? th).bind (·.tx.get? ch) =
      ((n₂.terminalAt? th).bind (·.tx.get? ch)).map o.binding := by
  have hrel := h.terminalAt? th
  generalize n₁.terminalAt? th = x₁ at hrel ⊢
  generalize n₂.terminalAt? th = x₂ at hrel ⊢
  cases hrel with
  | none => rfl
  | some ht => exact ht.tx.get? ch

theorem turnOff (h : n₁.Renumbered o n₂) (name : String) (channels : List Int) :
    (n₁.turnOff name channels).Renumbered o (n₂.turnOff name channels) := by
  unfold Network.turnOff
  have hrel := h.terminal name
  generalize n₁.terminal name = x₁ at hrel ⊢
  generalize n₂.terminal name = x₂ at hrel ⊢
  cases hrel with
  | error e => exact h.refused e
  | @ok t₁ t₂ ht =>
    dsimp only
    simp only [ht.tx.keys, ht.tx.contains, ht.name, ht.txPorts, ht.handle]
    generalize (if channels.isEmpty = true then t₂.tx.keys else channels) = chs
    split
    · exact h.refused _
    -- each channel is switched off at the moved position of its signal
    generalize hN₁ : List.foldl _ n₁ _ = N₁
    generalize hN₂ : List.foldl _ n₂ _ = N₂
    have hN : N₁.Renumbered o N₂ := by
      rw [← hN₁, ← hN₂]
      refine foldl_rel _ (fun m₁ m₂ ch hm => ?_) h
      rw [hm.txBinding]
      cases (m₂.terminalAt? t₂.handle).bind (·.tx.get? ch) with
      | none => exact hm
      | some b =>
        refine Network.Renumbered.modifyTerminal ?_ (fun u₁ u₂ hu => ?_) t₂.handle
        · exact hm.modifySignal (fun _ => by rfl) b.signal
        · exact { hu with tx := hu.tx.insert ch { b with active := false } }
    rw [hN.outboundLink]
    split
    · exact ⟨hN, rfl, rfl⟩
    · exact hN.launchAt t₂.handle _ true _

/-! ### Additions -/

/-- What additions on renumbered networks return: renumbered networks and the same handle. -/
def Added (o : Offset) (p₁ p₂ : Network × Nat) : Prop :=
  p₁.1.Renumbered o p₂.1 ∧ p₁.2 = p₂.2

/-- A fresh node pushed on both networks keeps them renumbered. -/
theorem pushNode (h : n₁.Renumbered o n₂) {nd : Node} (hnd : nd.fresh = nd) :
    Network.Renumbered o { n₁ with nodes := n₁.nodes.push nd } { n₂ with nodes := n₂.nodes.push nd } := by
  refine { h with nodes := fun i => ?_ }
  simp only [Array.getElem?_push, h.nodes_size]
  split
  · exact .some (hnd ▸ Node.renumbered_fresh o nd)
  · exact h.nodes i

theorem addTerminal (h : n₁.Renumbered o n₂) (name : String) (trxs : List Transceiver) :
    ResultRel (Added o) (n₁.addTerminal name trxs) (n₂.addTerminal name trxs) := by
  unfold Network.addTerminal
  rw [h.nodeByName, h.nodes_size]
  dsimp only
  split
  · exact .error _
  split
  · exact .error _
  cases ht : Terminal.create n₂.nodes.size name trxs with
  | error e => exact .error e
  | ok t =>
    have hnd : (Node.terminal t).fresh = .terminal t := congrArg Node.terminal (Terminal.clear_of_create ht)
    exact .ok ⟨{ h.pushNode hnd with nodeByName := rfl }, rfl⟩

theorem addAmplifier (h : n₁.Renumbered o n₂) (name : String) (cfg : AmplifierConfig) :
    ResultRel (Added o) (n₁.addAmplifier name cfg) (n₂.addAmplifier name cfg) := by
  unfold Network.addAmplifier
  rw [h.ampByName, h.amps, Array.size_map]
  dsimp only
  split
  · exact .error _
  split
  · exact .error _
  cases ha : Amplifier.create n₂.amps.size name cfg with
  | error e => exact .error e
  | ok a =>
    -- a new amplifier holds no carriers
    have hmove : o.amplifier a = a := by
      rw [← Amplifier.reset_of_create ha]
      exact o.amplifier_of_reset a
    refine .ok ⟨{ h with amps := ?_, ampByName := rfl }, rfl⟩
    dsimp only
    rw [Array.map_push, hmove]

theorem addRoadm (h : n₁.Renumbered o n₂) (name : String) (cfg : RoadmConfig) :
    ResultRel (Added o) (n₁.addRoadm name cfg) (n₂.addRoadm name cfg) := by
  have hclaim : n₁.claimPortAmps = n₂.claimPortAmps := by
    rw [← claimPortAmps_frame, h.frame_eq, claimPortAmps_frame]
  unfold Network.addRoadm
  rw [h.nodeByName, h.nodes_size, hclaim, h.ampOnNode]
  dsimp only
  split
  · exact .error _
  split
  · exact .error _
  split
  · exact .error _
  -- both claim the same amplifiers, and push the same fresh ROADM
  refine ResultRel.bind_same fun _ => ResultRel.bind_same fun _ => ?_
  exact .ok ⟨{ h.pushNode rfl with nodeByName := rfl, ampOnNode := rfl }, rfl⟩

/-- Spans that carry nothing are their own clearing and their own moving. -/
theorem spans_of_fresh {S : Array Span} (hS : ∀ s ∈ S, s.signals = []) {F : Span → Span}
    (hF : ∀ s : Span, s.signals = [] → F s = s) : S.map F = S := by
  rw [Array.map_congr_left fun s hs => hF s (hS s hs)]
  exact Array.map_id'' (fun _ => rfl) S

/-- A link is refused on both networks alike, or added on both with the same handle: the
additions agree on the frames, which are the same, and the new spans carry nothing. -/
theorem addLink (h : n₁.Renumbered o n₂) (cfg : LinkConfig) :
    ResultRel (Added o) (n₁.addLink cfg) (n₂.addLink cfg) := by
  have hmap : (fun p => (p.1.frame, p.2)) <$> n₁.addLink cfg =
      (fun p => (p.1.frame, p.2)) <$> n₂.addLink cfg := by
    rw [← frame_addLink, h.frame_eq, frame_addLink]
  cases h₁ : n₁.addLink cfg with
  | error e₁ =>
    cases h₂ : n₂.addLink cfg with
    | error e₂ =>
      rw [h₁, h₂] at hmap
      cases hmap
      exact .error e₁
    | ok p₂ =>
      rw [h₁, h₂] at hmap
      cases hmap
  | ok p₁ =>
    cases h₂ : n₂.addLink cfg with
    | error e₂ =>
      rw [h₁, h₂] at hmap
      cases hmap
    | ok p₂ =>
      rw [h₁, h₂] at hmap
      obtain ⟨hfr, hk⟩ := Prod.mk.inj (Except.ok.inj hmap)
      obtain ⟨n₁', k₁⟩ := p₁
      obtain ⟨n₂', k₂⟩ := p₂
      obtain ⟨_, _, _, _, _, _, spans₁, _, _, _, -, -, -, -, -, -, -, hb₁, rfl, -⟩ := addLink_eq_ok h₁
      obtain ⟨_, _, _, _, _, _, spans₂, _, _, _, -, -, -, -, -, -, -, hb₂, rfl, -⟩ := addLink_eq_ok h₂
      refine .ok ⟨?_, hk⟩
      have hclear : ∀ s : Span, s.signals = [] → s.clear = s := fun s hs => by
        cases s
        cases hs
        rfl
      have hmove : ∀ s : Span, s.signals = [] → o.span s = s := fun s hs => by
        cases s
        cases hs
        rfl
      -- the cleared spans of the frames agree, so both links have the same new spans
      have hspans : spans₁ = spans₂ := by
        have hsp := congrArg Network.spans hfr
        have hc : Span.clear ∘ o.span = Span.clear := rfl
        simp only [frame_spans, Array.map_append, h.spans, Array.map_map, hc,
          spans_of_fresh hb₁.fresh hclear, spans_of_fresh hb₂.fresh hclear] at hsp
        exact (Array.append_right_inj _).mp hsp
      subst hspans
      -- the link tables are part of the frame
      have hamp := congrArg Network.ampOnLink hfr
      have hlinks := congrArg Network.links hfr
      have hname := congrArg Network.linkByName hfr
      have hout := congrArg Network.outLinks hfr
      have hin := congrArg Network.inLinks hfr
      refine { h with ampOnLink := hamp, links := hlinks, linkByName := hname, outLinks := hout,
                      inLinks := hin, spans := ?_ }
      dsimp only
      rw [Array.map_append, spans_of_fresh hb₁.fresh hmove, h.spans]

/-! ### Commands -/

/-- Every command runs in lockstep on renumbered networks: it leaves renumbered networks, with
the same error and the same events up to their pass numbers. -/
theorem execute (h : n₁.Renumbered o n₂) (c : Command) :
    (n₁.execute c).Renumbered o (n₂.execute c) := by
  cases c with
  | installRule roadm id i out chs =>
    exact h.ofExcept (h.withRoadm roadm fun _ _ hr =>
      hr.change (f := (·.installRule id i out chs)) (Roadm.Renumbered.installRule_withPorts · · id i out chs))
  | deleteRule roadm id =>
    refine h.ofExcept (h.withRoadm roadm fun _ _ hr => ?_)
    split
    · exact .ok hr.deleteAllRules
    · exact hr.deleteRule id
  | updateRule roadm id out => exact h.ofExcept (h.withRoadm roadm fun _ _ hr => hr.updateRule id out)
  | configureVoa roadm ch out p =>
    exact h.ofExcept (h.withRoadm roadm fun _ _ hr =>
      hr.change (f := (·.configureVoa ch out p)) (Roadm.Renumbered.configureVoa_withPorts · · ch out p))
  | assocTx terminal trx ch port =>
    exact h.ofExcept ((h.terminal terminal).bind fun _ _ ht => h.assocTx ht trx ch port)
  | assocRx terminal trx ch port => exact h.ofExcept (h.assocRx terminal trx ch port)
  | turnOn terminal safe => exact h.turnOn terminal safe
  | turnOff terminal chs => exact h.turnOff terminal chs
  | resetNode name => exact h.ofExcept ((h.node name).bind fun _ _ hnd => .ok (h.resetNode hnd))
  | setGain amp db => exact h.ofExcept (h.withAmplifier amp fun a => o.setGain_amplifier a db)
  | resetAmplifier amp => exact h.ofExcept (h.withAmplifier amp fun _ => rfl)
  | resetLink link => exact h.ofExcept (h.resetLink link)
  | resetNetwork => exact ⟨h.reset, rfl, rfl⟩

end Network.Renumbered

/-! ### Sequences of operations -/

/-- An operation on a network: one of the four additions, or a control command. -/
inductive Operation where
  | addition (a : Network.Addition)
  | command (c : Command)

namespace Network

/-- Calls an addition. -/
def tryAdd (n : Network) : Addition → Except Failure (Network × Nat)
  | .terminal name trxs => n.addTerminal name trxs
  | .roadm name cfg => n.addRoadm name cfg
  | .amplifier name cfg => n.addAmplifier name cfg
  | .link cfg => n.addLink cfg

/-- Runs an operation. A command answers its outcome; an accepted addition leaves the network
it built and gives the handle of what it added, a refused one leaves the network as it was
with its error. -/
def perform (n : Network) : Operation → Outcome × Option Nat
  | .command c => (n.execute c, none)
  | .addition a =>
    match n.tryAdd a with
    | .ok (n', h) => (⟨n', [], none⟩, some h)
    | .error e => (⟨n, [], some e⟩, none)

/-- The answers of operations run one after another, each on the network the one before left. -/
def performAll (n : Network) : List Operation → List (Outcome × Option Nat)
  | [] => []
  | op :: ops => n.perform op :: (n.perform op).1.net.performAll ops

end Network

/-- Answers of one operation on networks renumbered by `o`: renumbered outcomes, and the same
handle. -/
def Answered (o : Offset) (a₁ a₂ : Outcome × Option Nat) : Prop :=
  a₁.1.Renumbered o a₂.1 ∧ a₁.2 = a₂.2

namespace Network.Renumbered

variable {o : Offset} {n₁ n₂ : Network}

theorem tryAdd (h : n₁.Renumbered o n₂) (a : Addition) :
    ResultRel (Added o) (n₁.tryAdd a) (n₂.tryAdd a) := by
  cases a with
  | terminal name trxs => exact h.addTerminal name trxs
  | roadm name cfg => exact h.addRoadm name cfg
  | amplifier name cfg => exact h.addAmplifier name cfg
  | link cfg => exact h.addLink cfg

/-- Every operation runs in lockstep on renumbered networks. -/
theorem perform (h : n₁.Renumbered o n₂) (op : Operation) :
    Answered o (n₁.perform op) (n₂.perform op) := by
  cases op with
  | command c => exact ⟨h.execute c, rfl⟩
  | addition a =>
    have hrel := h.tryAdd a
    dsimp only [Network.perform]
    generalize n₁.tryAdd a = x₁ at hrel ⊢
    generalize n₂.tryAdd a = x₂ at hrel ⊢
    cases hrel with
    | error e => exact ⟨⟨h, rfl, rfl⟩, rfl⟩
    | ok hadd => exact ⟨⟨hadd.1, rfl, rfl⟩, congrArg some hadd.2⟩

/-- Every sequence of operations runs in lockstep on renumbered networks: each operation
answers alike, up to pass numbers, on the networks the ones before left. -/
theorem performAll (h : n₁.Renumbered o n₂) (ops : List Operation) :
    List.Forall₂ (Answered o) (n₁.performAll ops) (n₂.performAll ops) := by
  -- the relation between the networks is carried from each operation to the next
  induction ops generalizing n₁ n₂ with
  | nil => exact .nil
  | cons op ops ih =>
    have hop := h.perform op
    exact .cons hop (ih hop.1.net)

end Network.Renumbered

/-! ### What a reset leaves -/

namespace Network

variable {n : Network}

/-- A frame with a pass counter and a signal list put back is the frame renumbered: it counts
its passes from that counter and its signals from the end of that list, and nothing in a frame
refers to a pass or a signal. -/
theorem renumbered_frame (n : Network) (passes : Nat) (signals : Array Signal) :
    Network.Renumbered ⟨passes, signals.size⟩ { n.frame with passSeq := passes, signals }
      n.frame where
  maxSwitches := rfl
  passSeq := by simp [frame]
  nodes i := by
    simp only [frame, Array.getElem?_map]
    cases n.nodes[i]? with
    | none => exact .none
    | some nd => exact .some (Node.renumbered_fresh _ nd)
  nodeByName := rfl
  amps := by simp only [frame, Array.map_map]; rfl
  ampByName := rfl
  ampOnLink := rfl
  ampOnNode := rfl
  spans := by simp only [frame, Array.map_map]; rfl
  links := rfl
  linkByName := rfl
  outLinks := rfl
  inLinks := rfl
  size := by simp [frame]
  -- past the end of the kept list, as in the frame, there is no signal
  signal i := by simp [Network.signal, frame]

/-- A reset of a reachable network is its frame renumbered: its passes count on from the pass
counter, and its new signals from the end of the old signal list. -/
theorem reset_renumbered (hn : n.Reachable) :
    n.reset.Renumbered ⟨n.passSeq, n.reset.signals.size⟩ n.frame := by
  rw [reset_eq_frame_of_inPlace (InPlace.of_reachable hn)]
  exact renumbered_frame n n.passSeq n.reset.signals

/-- A reset returns a reachable network to the network its additions alone build: every node,
amplifier and span as its addition made it, only the pass counter and the signal list, which
nothing refers to any more, kept. A second reset changes nothing, and every sequence of
operations then answers what it answers on the built network, up to pass numbers. -/
theorem reset_acts_as_built (hn : n.Reachable) :
    ∃ (m : Nat) (adds : List Addition),
      n.reset = { adds.foldl add (empty m) with passSeq := n.passSeq, signals := n.reset.signals } ∧
      n.reset.reset = n.reset ∧
      ∀ ops : List Operation, List.Forall₂ (Answered ⟨n.passSeq, n.reset.signals.size⟩)
        (n.reset.performAll ops) ((adds.foldl add (empty m)).performAll ops) := by
  obtain ⟨m, adds, hframe⟩ := frame_of_reachable hn
  refine ⟨m, adds, ?_, reset_reset hn, fun ops => ?_⟩
  · rw [← hframe]
    exact reset_eq_frame_of_inPlace (InPlace.of_reachable hn)
  · rw [← hframe]
    exact (reset_renumbered hn).performAll ops

theorem InPlace.listenAll (hin : n.InPlace) : n.listenAll.InPlace where
  node h nd hnd := by
    unfold Network.listenAll at hnd
    simp only [Array.getElem?_map] at hnd
    obtain ⟨nd₀, hnd₀, rfl⟩ := Option.map_eq_some_iff.mp hnd
    -- a receiver changes no handle
    cases nd₀ with
    | terminal t => exact hin.node h (.terminal t) hnd₀
    | roadm r => exact hin.node h (.roadm r) hnd₀
  amp := hin.amp

/-- Installing the receivers and clearing the nodes can go in either order: a cleared terminal
keeps its receiver. -/
theorem frame_listenAll (n : Network) : n.listenAll.frame = n.frame.listenAll := by
  simp only [frame, listenAll]
  congr 1
  refine Array.ext_getElem? fun i => ?_
  simp only [Array.getElem?_map]
  cases n.nodes[i]? with
  | none => rfl
  | some nd => cases nd <;> rfl

/-- Receivers survive a reset. A reachable network with a receiver on every terminal resets to
the network its additions alone build, with a receiver on every terminal. -/
theorem reset_keeps_receivers (hn : n.Reachable) :
    ∃ (m : Nat) (adds : List Addition),
      n.listenAll.reset = { (adds.foldl add (empty m)).listenAll with
        passSeq := n.passSeq, signals := n.listenAll.reset.signals } := by
  obtain ⟨m, adds, hframe⟩ := frame_of_reachable hn
  have h := reset_eq_frame_of_inPlace (InPlace.of_reachable hn).listenAll
  rw [frame_listenAll, hframe] at h
  exact ⟨m, adds, h⟩

/-- A terminal added with one transceiver, bound to channel 1 on port 1 and switched on. -/
def litTerminal : Network :=
  ((((empty 0).add (.terminal "t1" [⟨1, "t1-trx1", 0, "QPSK", 0⟩])).execute
    (.assocTx "t1" 1 1 1)).net.execute (.turnOn "t1" false)).net

theorem lit_terminal_reset_acts_as_built :
    litTerminal.Reachable ∧
      ∃ (m : Nat) (adds : List Addition),
        litTerminal.reset = { adds.foldl add (empty m) with
          passSeq := litTerminal.passSeq, signals := litTerminal.reset.signals } ∧
        litTerminal.reset.reset = litTerminal.reset ∧
        ∀ ops : List Operation,
          List.Forall₂ (Answered ⟨litTerminal.passSeq, litTerminal.reset.signals.size⟩)
            (litTerminal.reset.performAll ops) ((adds.foldl add (empty m)).performAll ops) := by
  have hn : litTerminal.Reachable :=
    (((reachable_empty 0).add _).step (.execute _ _)).step (.execute _ _)
  exact ⟨hn, reset_acts_as_built hn⟩

end Network

end WdmNet

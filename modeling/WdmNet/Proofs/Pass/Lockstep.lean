import WdmNet.Proofs.Pass.Renumber
/-!
Passes in lockstep.

Two flows are renumbered (`Flow.Renumbered o f₁ f₂`) when their networks are, the first pass is
`o.passes` ahead of the second, and both have the same kind, origin, errors and switch counts
and the same events up to the pass numbers in them. Every function of the engine, given
renumbered flows and the moved carriers, returns renumbered flows and the moved carriers, and
`switchRoadm` does at every depth (`Flow.Renumbered.switchRoadm`). So a launch from renumbered
networks ends in renumbered networks with the same error and the same events up to pass
numbers (`Network.Renumbered.launch`): no pass can tell how many passes ran before it, or how
many signals were launched before.

Main statements: `Flow.Renumbered.fanOut`, `Flow.Renumbered.switchRoadm`,
`Network.Renumbered.launch`.
-/

namespace WdmNet

/-- `f₁` is `f₂` renumbered by `o`: the networks are, the pass is `o.passes` ahead, and the rest
of the pass is the same, its events up to their pass numbers. -/
structure Flow.Renumbered (o : Offset) (f₁ f₂ : Flow) : Prop where
  net : f₁.net.Renumbered o f₂.net
  id : f₁.pass.id = f₂.pass.id + o.passes
  kind : f₁.pass.kind = f₂.pass.kind
  origin : f₁.pass.origin = f₂.pass.origin
  safe : f₁.pass.safe = f₂.pass.safe
  errors : f₁.pass.errors = f₂.pass.errors
  switches : f₁.pass.switches = f₂.pass.switches
  events : f₁.pass.events = f₂.pass.events.map (Event.renumber o.passes)

/-- Renumbered flows, each with a set of carriers, the first set the moved second. -/
def Flow.RenumberedWith (o : Offset) (p₁ p₂ : Flow × ChannelSet) : Prop :=
  p₁.1.Renumbered o p₂.1 ∧ p₁.2 = o.carriers p₂.2

/-- The deliveries of moved sets are the moved deliveries. -/
theorem Flow.deliveries_carriers (o : Offset) (resolved : List (Option Link × ChannelSet)) :
    Flow.deliveries (resolved.map fun p => (p.1, o.carriers p.2)) =
      (Flow.deliveries resolved).map fun d => (d.1, o.carriers d.2.1, d.2.2) := by
  induction resolved with
  | nil => rfl
  | cons p rest ih =>
    rcases p with ⟨_ | l, set⟩
    · simpa [Flow.deliveries] using ih
    · simp [Flow.deliveries, ih, List.any_map, Function.comp_def]

namespace Flow.Renumbered

variable {o : Offset} {f₁ f₂ : Flow}

/-! ### Steps that write the pass -/

theorem emit (h : f₁.Renumbered o f₂) (e : Event) :
    (f₁.emit (e.renumber o.passes)).Renumbered o (f₂.emit e) :=
  { h with events := by simp [Flow.emit, h.events] }

theorem emit_eq (h : f₁.Renumbered o f₂) {e₁ e₂ : Event} (he : e₁ = e₂.renumber o.passes) :
    (f₁.emit e₁).Renumbered o (f₂.emit e₂) :=
  he ▸ h.emit e₂

theorem emit_same (h : f₁.Renumbered o f₂) (e : Event) (he : e.renumber o.passes = e) :
    (f₁.emit e).Renumbered o (f₂.emit e) :=
  h.emit_eq he.symm

theorem passAttrs (h : f₁.Renumbered o f₂) :
    Flow.passAttrs f₁.pass = (Flow.passAttrs f₂.pass).map (Log.Attr.renumber o.passes) := by
  simp [Flow.passAttrs, Log.Attr.renumber, Log.Attr.str, Log.Attr.bool, h.id, h.kind, h.origin,
    h.safe]

theorem debug (h : f₁.Renumbered o f₂) (msg : String) {attrs : List Log.Attr}
    (hattrs : attrs.map (Log.Attr.renumber o.passes) = attrs) :
    (f₁.debug msg attrs).Renumbered o (f₂.debug msg attrs) := by
  have he := h.emit (.logged ⟨.debug, msg, Flow.passAttrs f₂.pass ++ attrs⟩)
  simp only [Event.renumber, List.map_append, hattrs, ← h.passAttrs] at he
  exact he

theorem drop (h : f₁.Renumbered o f₂) (node : String) (reason : DropReason) (ch : Int) :
    (f₁.drop node reason ch).Renumbered o (f₂.drop node reason ch) :=
  (h.emit (.dropped node reason)).debug _ rfl

theorem fail (h : f₁.Renumbered o f₂) (e : Failure) : (f₁.fail e).Renumbered o (f₂.fail e) :=
  { h with errors := by simp [Flow.fail, h.errors] }

theorem loop (h : f₁.Renumbered o f₂) (node : String) (ch : Int) :
    (f₁.loop node ch).Renumbered o (f₂.loop node ch) := by
  have hd := h.drop node .loop ch
  unfold Flow.loop
  dsimp only
  rw [hd.safe]
  split
  · exact hd
  · exact hd.fail _

theorem update (h : f₁.Renumbered o f₂) {g₁ g₂ : Network → Network}
    (hg : (g₁ f₁.net).Renumbered o (g₂ f₂.net)) : (f₁.update g₁).Renumbered o (f₂.update g₂) :=
  { h with net := hg }

/-! ### Recording visits -/

/-- A visit of the moved carrier is recorded on the moved signal, in the moved pass. -/
theorem visit (h : f₁.Renumbered o f₂) (c : Carrier) (loc : Location) (exit : SignalState) :
    (f₁.visit (o.carrier c) loc exit).Renumbered o (f₂.visit c loc exit) := by
  refine h.update ?_
  show (f₁.net.modifySignal (c.sig + o.signals)
      (·.record c.recordedAt loc f₁.pass.id c.state exit)).Renumbered o
    (f₂.net.modifySignal c.sig (·.record c.recordedAt loc f₂.pass.id c.state exit))
  rw [h.id]
  exact h.net.modifySignal (fun s => (o.signal_record s _ _ _ _ _).symm) c.sig

theorem stamp (h : f₁.Renumbered o f₂) (loc : Location) (set : ChannelSet) :
    Flow.RenumberedWith o (f₁.stamp loc (o.carriers set)) (f₂.stamp loc set) := by
  refine ⟨foldl_rel_map set o.carrier (fun g₁ g₂ c hg => hg.visit c loc c.state) h, ?_⟩
  simp only [Flow.stamp, Offset.carriers, List.map_map]
  rfl

theorem visitAll (h : f₁.Renumbered o f₂) (loc : Location) (set out : ChannelSet) :
    (f₁.visitAll loc (o.carriers set) (o.carriers out)).Renumbered o (f₂.visitAll loc set out) := by
  unfold Flow.visitAll
  rw [Offset.carriers, Offset.carriers, List.zip_map]
  exact foldl_rel_map _ _ (fun g₁ g₂ p hg => hg.visit p.1 loc p.2.state) h


/-! ### Amplifiers, spans and links -/

theorem amplify (h : f₁.Renumbered o f₂) (ah : Nat) (set : ChannelSet) :
    Flow.RenumberedWith o (f₁.amplify ah (o.carriers set)) (f₂.amplify ah set) := by
  unfold Flow.amplify
  rw [h.net.amps, Array.getElem?_map]
  cases f₂.net.amps[ah]? with
  | none => exact ⟨h, rfl⟩
  | some a =>
    simp only [Option.map_some, Offset.isEmpty_carriers, Offset.adjustGain_amplifier]
    split
    · refine ⟨?_, rfl⟩
      dsimp only
      exact h.update (h.net.modifyAmp (fun _ => by rfl) ah)
    · -- gain control gives the same gain on the moved carriers, so the same states leave
      rcases a.adjustGain set with ⟨a', iters⟩
      dsimp only
      have hout : (o.carriers set).map (fun c =>
            { c with state := (o.amplifier a').amplifyState c, recordedAt := (o.amplifier a').location }) =
          o.carriers (set.map fun c => { c with state := a'.amplifyState c, recordedAt := a'.location }) := by
        simp only [Offset.carriers, List.map_map]
        rfl
      rw [hout]
      have hf := (h.emit (.adjusted a'.name iters a'.systemGainDb)).visitAll a'.location set
        (set.map fun c => { c with state := a'.amplifyState c, recordedAt := a'.location })
      refine ⟨?_, rfl⟩
      dsimp only
      exact hf.update (hf.net.modifyAmp (fun _ => by rfl) ah)

theorem transmit (h : f₁.Renumbered o f₂) (sh : Nat) (m : RamanModel) (set : ChannelSet) :
    Flow.RenumberedWith o (f₁.transmit sh m (o.carriers set)) (f₂.transmit sh m set) := by
  unfold Flow.transmit
  rw [h.net.spans, Array.getElem?_map]
  cases f₂.net.spans[sh]? with
  | none => exact ⟨h, rfl⟩
  | some sp =>
    simp only [Option.map_some, Offset.isEmpty_carriers, Offset.transmit_carriers]
    split
    · refine ⟨?_, rfl⟩
      dsimp only
      exact h.update (h.net.modifySpan (fun _ => by rfl) sh)
    · -- the span computes the same states from the moved carriers
      have hout : ((o.carriers set).zip (sp.transmit m set)).map (fun p =>
            { p.1 with state := p.2, recordedAt := (o.span sp).location }) =
          o.carriers ((set.zip (sp.transmit m set)).map fun p =>
            { p.1 with state := p.2, recordedAt := sp.location }) := by
        simp only [Offset.carriers, List.zip_map_left, List.map_map]
        rfl
      rw [hout]
      have hf := h.visitAll sp.location set ((set.zip (sp.transmit m set)).map fun p =>
        { p.1 with state := p.2, recordedAt := sp.location })
      refine ⟨?_, rfl⟩
      dsimp only
      exact hf.update (hf.net.modifySpan (fun _ => by rfl) sh)

theorem traverse (h : f₁.Renumbered o f₂) (l : Link) (set : ChannelSet) :
    Flow.RenumberedWith o (f₁.traverse l (o.carriers set)) (f₂.traverse l set) := by
  unfold Flow.traverse
  refine foldl_rel l.hops (fun p₁ p₂ hop hp => ?_) ?_
  · obtain ⟨g₁, c₁⟩ := p₁
    obtain ⟨g₂, c₂⟩ := p₂
    obtain ⟨hg, hc⟩ := hp
    dsimp only at hg hc ⊢
    subst hc
    obtain ⟨hg', hc'⟩ := hg.transmit hop.span l.raman c₂
    revert hg' hc'
    rcases g₁.transmit hop.span l.raman (o.carriers c₂) with ⟨k₁, d₁⟩
    rcases g₂.transmit hop.span l.raman c₂ with ⟨k₂, d₂⟩
    intro hk hd
    dsimp only at hk hd ⊢
    subst hd
    split
    · exact hk.amplify _ _
    · exact ⟨hk, rfl⟩
  · split
    · exact h.amplify _ _
    · exact ⟨h, rfl⟩

/-! ### ROADMs -/

theorem dropUnrouted (h : f₁.Renumbered o f₂) {r₁ r₂ : Roadm} (hr : r₁.Renumbered o r₂)
    (inPort : Int) (set : ChannelSet) :
    (f₁.dropUnrouted r₁ inPort (o.carriers set)).Renumbered o (f₂.dropUnrouted r₂ inPort set) := by
  unfold Flow.dropUnrouted
  rw [hr.ruleFor, hr.name]
  refine foldl_rel_map set o.carrier (fun g₁ g₂ c hg => ?_) h
  rw [Offset.carrier_channel]
  split
  · exact hg.drop _ _ _
  · exact hg

theorem preamplify (h : f₁.Renumbered o f₂) {r₁ r₂ : Roadm} (hr : r₁.Renumbered o r₂)
    (inPort : Int) :
    Flow.RenumberedWith o (f₁.preamplify r₁ inPort) (f₂.preamplify r₂ inPort) := by
  have hd := h.dropUnrouted hr inPort (r₂.portSet inPort true)
  unfold Flow.preamplify
  rw [hr.portSet, hr.preamps, hr.handle]
  dsimp only
  rw [hd.net.inboundLink]
  split
  · exact ⟨hd, rfl⟩
  · split
    · split
      · exact ⟨hd, rfl⟩
      · exact hd.amplify _ _
    · exact hd.amplify _ _

theorem leveled_eq {r₁ r₂ : Roadm} (hr : r₁.Renumbered o r₂) : Flow.leveled r₁ = Flow.leveled r₂ := by
  unfold Flow.leveled
  rw [hr.config, hr.voaTarget]

/-- Rebuilding an output reads the processed inputs, moved on, and the activity of their
signals, which the renumbering keeps; it writes the moved carriers and the same sources. -/
theorem collectOutput (h : f₁.Renumbered o f₂) {r₁ r₂ : Roadm} (hr : r₁.Renumbered o r₂)
    (rh : Nat) (out : Int) :
    (f₁.collectOutput r₁ rh out).1.Renumbered o (f₂.collectOutput r₂ rh out).1 ∧
      (f₁.collectOutput r₁ rh out).2.1 = o.carriers (f₂.collectOutput r₂ rh out).2.1 ∧
      (f₁.collectOutput r₁ rh out).2.2 = (f₂.collectOutput r₂ rh out).2.2 := by
  have hitems : (r₁.inProc.toList.flatMap fun p => p.2.map (p.1, ·)) =
      (r₂.inProc.toList.flatMap fun p => p.2.map (p.1, ·)).map fun p => (p.1, o.carrier p.2) := by
    rw [hr.inProc.toList, List.flatMap_map, List.map_flatMap]
    simp only [Offset.carriers, List.map_map]
    rfl
  unfold Flow.collectOutput
  dsimp only
  rw [hitems]
  refine foldl_rel_map _ _ (R := fun (a₁ a₂ : Flow × ChannelSet × Std.TreeMap Int Int) =>
    a₁.1.Renumbered o a₂.1 ∧ a₁.2.1 = o.carriers a₂.2.1 ∧ a₁.2.2 = a₂.2.2)
    (fun a₁ a₂ p ha => ?_) ?_
  swap
  · exact ⟨h, rfl, rfl⟩
  obtain ⟨i, c⟩ := p
  obtain ⟨g₁, s₁, src₁⟩ := a₁
  obtain ⟨g₂, s₂, src₂⟩ := a₂
  obtain ⟨hg, hs, hsrc⟩ := ha
  dsimp only at hg hs hsrc
  subst hs hsrc
  dsimp only
  rw [hr.ruleFor, Offset.carrier_channel, Offset.carrier_sig, Offset.carrier_state]
  split
  · exact ⟨hg, rfl, rfl⟩
  · -- the moved signal is active exactly when the signal is
    rw [show (g₁.net.signal (c.sig + o.signals)).active = (g₂.net.signal c.sig).active by
      rw [hg.net.signal]; rfl]
    split
    · exact ⟨hg, rfl, rfl⟩
    · split
      · rw [hr.name]
        exact ⟨hg.drop _ _ _, rfl, rfl⟩
      · rw [leveled_eq hr]
        exact ⟨hg.visit c _ _, by rw [Offset.carriers_append]; rfl, rfl⟩

theorem boostOutput (h : f₁.Renumbered o f₂) {r₁ r₂ : Roadm} (hr : r₁.Renumbered o r₂)
    (rh : Nat) (out : Int) (set : ChannelSet) :
    Flow.RenumberedWith o (f₁.boostOutput r₁ rh out (o.carriers set)) (f₂.boostOutput r₂ rh out set) := by
  unfold Flow.boostOutput
  rw [hr.boosts, h.net.outboundLink]
  split
  · split
    · split
      · exact ⟨h, rfl⟩
      · exact h.amplify _ _
    · exact h.amplify _ _
  · exact ⟨h, rfl⟩

theorem switchOutput (h : f₁.Renumbered o f₂) (rh : Nat) (out : Int) :
    Flow.RenumberedWith o (f₁.switchOutput rh out) (f₂.switchOutput rh out) := by
  unfold Flow.switchOutput
  have hrel := h.net.roadmAt? rh
  generalize f₁.net.roadmAt? rh = x₁ at hrel ⊢
  generalize f₂.net.roadmAt? rh = x₂ at hrel ⊢
  cases hrel with
  | none => exact ⟨h, rfl⟩
  | @some r₁ r₂ hr =>
    dsimp only
    obtain ⟨hc, hset, hsrc⟩ := h.collectOutput hr rh out
    revert hc hset hsrc
    rcases f₁.collectOutput r₁ rh out with ⟨g₁, s₁, src₁⟩
    rcases f₂.collectOutput r₂ rh out with ⟨g₂, s₂, src₂⟩
    intro hc hset hsrc
    dsimp only at hc hset hsrc ⊢
    subst hset hsrc
    rw [Offset.sortByChannel_carriers]
    obtain ⟨hb, hbset⟩ := hc.boostOutput hr rh out s₂.sortByChannel
    revert hb hbset
    rcases g₁.boostOutput r₁ rh out (o.carriers s₂.sortByChannel) with ⟨k₁, b₁⟩
    rcases g₂.boostOutput r₂ rh out s₂.sortByChannel with ⟨k₂, b₂⟩
    intro hb hbset
    dsimp only at hb hbset ⊢
    subst hbset
    refine ⟨?_, rfl⟩
    dsimp only
    refine hb.update (hb.net.modifyRoadm (fun q₁ q₂ hq => ?_) rh)
    exact { hq with outSets := hq.outSets.insert out b₂, outSrc := by rw [hq.outSrc] }

/-! ### Terminals -/

theorem dropUnbound (h : f₁.Renumbered o f₂) {t₁ t₂ : Terminal} (ht : t₁.Renumbered o t₂)
    (port : Int) (set : ChannelSet) :
    (f₁.dropUnbound t₁ port (o.carriers set)).Renumbered o (f₂.dropUnbound t₂ port set) := by
  unfold Flow.dropUnbound
  rw [ht.rx, ht.name]
  refine foldl_rel_map set o.carrier (fun g₁ g₂ c hg => ?_) h
  rw [Offset.carrier_channel]
  split
  · split
    · exact hg
    · exact hg.drop _ _ _
  · exact hg.drop _ _ _

theorem announce (h : f₁.Renumbered o f₂) {t₁ t₂ : Terminal} (ht : t₁.Renumbered o t₂)
    (byPort : List (Int × List Report)) :
    (f₁.announce t₁ byPort).Renumbered o (f₂.announce t₂ byPort) := by
  unfold Flow.announce
  rw [ht.name, ht.listening]
  refine foldl_rel byPort (fun g₁ g₂ p hg => ?_) h
  dsimp only
  -- verdicts, debug records and reports carry no pass number
  split
  · refine emit_same ?_ _ rfl
    refine foldl_rel p.2 (fun k₁ k₂ rep hk => ?_) hg
    split
    · exact hk.emit_same _ rfl
    · exact (hk.emit_same _ rfl).debug _ rfl
  · refine foldl_rel p.2 (fun k₁ k₂ rep hk => ?_) hg
    split
    · exact hk.emit_same _ rfl
    · exact (hk.emit_same _ rfl).debug _ rfl

theorem deliverTerminal (h : f₁.Renumbered o f₂) (th : Nat) (port : Int) (set : ChannelSet)
    (isLast : Bool) :
    (f₁.deliverTerminal th port (o.carriers set) isLast).Renumbered o
      (f₂.deliverTerminal th port set isLast) := by
  unfold Flow.deliverTerminal
  have hrel := h.net.terminalAt? th
  generalize f₁.net.terminalAt? th = x₁ at hrel ⊢
  generalize f₂.net.terminalAt? th = x₂ at hrel ⊢
  cases hrel with
  | none => exact h
  | @some t₁ t₂ ht =>
    obtain ⟨hs, hkept⟩ := h.stamp ⟨.nodeIn, th, port⟩ set
    revert hs hkept
    rcases f₁.stamp ⟨.nodeIn, th, port⟩ (o.carriers set) with ⟨g₁, k₁⟩
    rcases f₂.stamp ⟨.nodeIn, th, port⟩ set with ⟨g₂, k₂⟩
    intro hg hk
    dsimp only at hg hk ⊢
    subst hk
    have hd := hg.dropUnbound ht port k₂
    have ha := ht.accept (g₂.dropUnbound t₂ port k₂).pass.id port k₂
    rw [← hd.id] at ha
    cases isLast with
    | false =>
      have hl : (!false) = true := rfl
      rw [if_pos hl, if_pos hl]
      refine hd.update ?_
      exact hd.net.modifyTerminal (fun _ _ _ => ha) th
    | true =>
      have hl : ¬(!true) = true := Bool.false_ne_true
      rw [if_neg hl, if_neg hl]
      -- the reports read the symbol rates of the moved signals, which are the same
      obtain ⟨hps, hrt⟩ := ha.receive (fun i => ((g₁.dropUnbound t₁ port
        (o.carriers k₂)).net.signal i).symbolRate)
        (fun i => ((g₂.dropUnbound t₂ port k₂).net.signal i).symbolRate)
        (fun i => by rw [hd.net.signal i]; rfl)
      revert hps hrt
      rcases (t₁.accept (g₁.dropUnbound t₁ port (o.carriers k₂)).pass.id port
        (o.carriers k₂)).receive fun i => ((g₁.dropUnbound t₁ port
        (o.carriers k₂)).net.signal i).symbolRate with ⟨ps₁, u₁⟩
      rcases (t₂.accept (g₂.dropUnbound t₂ port k₂).pass.id port k₂).receive fun i =>
        ((g₂.dropUnbound t₂ port k₂).net.signal i).symbolRate with ⟨ps₂, u₂⟩
      intro hps hu
      dsimp only at hps hu ⊢
      subst hps
      refine Flow.Renumbered.announce (hd.update ?_) hu _
      exact hd.net.modifyTerminal (fun _ _ _ => hu) th

/-- A seeded port carries the moved carriers of the moved transmitters. -/
theorem seed (h : f₁.Renumbered o f₂) (th : Nat) (port : Int) :
    Flow.RenumberedWith o (f₁.seed th port) (f₂.seed th port) := by
  unfold Flow.seed
  have hrel := h.net.terminalAt? th
  generalize f₁.net.terminalAt? th = x₁ at hrel ⊢
  generalize f₂.net.terminalAt? th = x₂ at hrel ⊢
  cases hrel with
  | none => exact ⟨h, rfl⟩
  | @some t₁ t₂ ht =>
    dsimp only
    generalize hS₂ : List.filterMap _ t₂.tx.toList = S₂
    generalize hS₁ : List.filterMap _ t₁.tx.toList = S₁
    have hS : S₁ = o.carriers S₂ := by
      rw [← hS₁, ← hS₂, ht.tx.toList, List.filterMap_map, Offset.carriers, List.map_filterMap]
      refine List.filterMap_congr fun p _ => ?_
      obtain ⟨ch, b⟩ := p
      dsimp only [Function.comp_apply, Offset.binding]
      split
      · rfl
      · rw [ht.transceiver?, h.net.signal]
        rfl
    subst hS
    obtain ⟨hs, hkept⟩ := h.stamp ⟨.nodeOut, th, port⟩ S₂
    revert hs hkept
    rcases f₁.stamp ⟨.nodeOut, th, port⟩ (o.carriers S₂) with ⟨g₁, k₁⟩
    rcases f₂.stamp ⟨.nodeOut, th, port⟩ S₂ with ⟨g₂, k₂⟩
    intro hg hk
    dsimp only at hg hk ⊢
    subst hk
    refine ⟨?_, rfl⟩
    dsimp only
    refine hg.update ?_
    refine hg.net.modifyTerminal (fun _ _ ht' => ?_) th
    exact { ht' with outSets := ht'.outSets.insert port k₂ }

/-! ### Deliveries -/

/-- A carrier loops on the moved flow when it does on the flow, since the moved signal crossed
the same nodes. -/
theorem dropLoops (h : f₁.Renumbered o f₂) {r₁ r₂ : Roadm} (hr : r₁.Renumbered o r₂) (rh : Nat)
    (set : ChannelSet) :
    Flow.RenumberedWith o (f₁.dropLoops r₁ rh (o.carriers set)) (f₂.dropLoops r₂ rh set) := by
  unfold Flow.dropLoops
  rw [hr.name]
  refine foldl_rel_map set o.carrier (fun ⟨g₁, k₁⟩ ⟨g₂, k₂⟩ c hp => ?_) ⟨h, rfl⟩
  obtain ⟨hg, hk⟩ := hp
  dsimp only at hg hk ⊢
  subst hk
  rw [Offset.carrier_sig, hg.net.signal, Offset.visitedNode_signal, Offset.carrier_channel]
  split
  · exact ⟨hg.loop _ _, rfl⟩
  · exact ⟨hg, (o.carriers_append k₂ [c]).symm⟩

theorem acceptAt (h : f₁.Renumbered o f₂) {r₁ r₂ : Roadm} (hr : r₁.Renumbered o r₂) (rh : Nat)
    (port : Int) (set : ChannelSet) :
    (f₁.acceptAt r₁ rh port (o.carriers set)).Renumbered o (f₂.acceptAt r₂ rh port set) := by
  unfold Flow.acceptAt
  obtain ⟨hl, hkept⟩ := h.dropLoops hr rh set
  revert hl hkept
  rcases f₁.dropLoops r₁ rh (o.carriers set) with ⟨g₁, k₁⟩
  rcases f₂.dropLoops r₂ rh set with ⟨g₂, k₂⟩
  intro hg hk
  dsimp only at hg hk ⊢
  subst hk
  obtain ⟨hs, hkept⟩ := hg.stamp ⟨.nodeIn, rh, port⟩ k₂
  revert hs hkept
  rcases g₁.stamp ⟨.nodeIn, rh, port⟩ (o.carriers k₂) with ⟨e₁, j₁⟩
  rcases g₂.stamp ⟨.nodeIn, rh, port⟩ k₂ with ⟨e₂, j₂⟩
  intro he hj
  dsimp only at he hj ⊢
  subst hj
  refine he.update ?_
  rw [he.id]
  exact he.net.modifyRoadm (fun _ _ hq => hq.accept _ port j₂) rh

section Deliveries

variable {sw : Flow → Nat → Flow}

theorem deliverRoadm (hsw : ∀ g₁ g₂ rh, g₁.Renumbered o g₂ → (sw g₁ rh).Renumbered o (sw g₂ rh))
    (h : f₁.Renumbered o f₂) (rh : Nat) (port : Int) (set : ChannelSet) (isLast : Bool) :
    (f₁.deliverRoadm sw rh port (o.carriers set) isLast).Renumbered o
      (f₂.deliverRoadm sw rh port set isLast) := by
  unfold Flow.deliverRoadm
  have hrel := h.net.roadmAt? rh
  generalize f₁.net.roadmAt? rh = x₁ at hrel ⊢
  generalize f₂.net.roadmAt? rh = x₂ at hrel ⊢
  cases hrel with
  | none => exact h
  | @some r₁ r₂ hr =>
    have ha := h.acceptAt hr rh port set
    dsimp only
    rw [hr.busy]
    split
    · exact ha
    · exact hsw _ _ rh ha

theorem propagateLink (hsw : ∀ g₁ g₂ rh, g₁.Renumbered o g₂ → (sw g₁ rh).Renumbered o (sw g₂ rh))
    (h : f₁.Renumbered o f₂) (l : Link) (set : ChannelSet) (isLast : Bool) :
    (f₁.propagateLink sw l (o.carriers set) isLast).Renumbered o
      (f₂.propagateLink sw l set isLast) := by
  unfold Flow.propagateLink
  dsimp only
  rw [Offset.length_carriers]
  -- the span of the link counts channels, not passes
  set e := Event.traced (Trace.Span.internal "link/propagate"
    [("link", .str l.name), ("channels", .int set.length), ("is_last_port", .bool isLast)] true)
    with he
  obtain ⟨ht, hcur⟩ := (h.emit_same e (by simp [he, Event.renumber, Trace.renumberAttr,
    Trace.Span.internal])).traverse l set
  generalize (f₁.emit e).traverse l (o.carriers set) = T₁ at ht hcur ⊢
  generalize (f₂.emit e).traverse l set = T₂ at ht hcur ⊢
  rcases T₁ with ⟨g₁, c₁⟩
  rcases T₂ with ⟨g₂, c₂⟩
  dsimp only at ht hcur ⊢
  subst hcur
  have hrel := ht.net.nodes l.dst
  generalize g₁.net.nodes[l.dst]? = x₁ at hrel ⊢
  generalize g₂.net.nodes[l.dst]? = x₂ at hrel ⊢
  cases hrel with
  | none => exact ht
  | some hnd =>
    cases hnd with
    | terminal => exact ht.deliverTerminal l.dst l.inPort c₂ isLast
    | roadm => exact ht.deliverRoadm hsw l.dst l.inPort c₂ isLast

theorem dropUnlinked (h : f₁.Renumbered o f₂) (src : Nat)
    (resolved : List (Option Link × ChannelSet)) :
    (f₁.dropUnlinked src (resolved.map fun p => (p.1, o.carriers p.2))).Renumbered o
      (f₂.dropUnlinked src resolved) := by
  unfold Flow.dropUnlinked
  refine foldl_rel_map resolved _ (fun g₁ g₂ ⟨l?, s⟩ hg => ?_) h
  cases l? with
  | some _ => exact hg
  | none =>
    refine foldl_rel_map s o.carrier (fun k₁ k₂ c hk => ?_) hg
    rw [hk.net.nodeName, Offset.carrier_channel]
    exact hk.drop _ _ _

theorem fanOut (hsw : ∀ g₁ g₂ rh, g₁.Renumbered o g₂ → (sw g₁ rh).Renumbered o (sw g₂ rh))
    (h : f₁.Renumbered o f₂) (src : Nat) (items : List (Int × ChannelSet)) :
    (f₁.fanOut sw src (items.map fun p => (p.1, o.carriers p.2))).Renumbered o
      (f₂.fanOut sw src items) := by
  unfold Flow.fanOut
  dsimp only
  rw [h.net.outboundLink, List.map_map]
  -- the links are looked up by port alone, so resolving commutes with moving the sets
  have hres : ((fun x => (f₂.net.outboundLink src x.1, x.2)) ∘ fun p => (p.1, o.carriers p.2)) =
      (fun p : Option Link × ChannelSet => (p.1, o.carriers p.2)) ∘
        fun x : Int × ChannelSet => (f₂.net.outboundLink src x.1, x.2) := rfl
  rw [hres, ← List.map_map]
  generalize List.map (fun x => (f₂.net.outboundLink src x.1, x.2)) items = resolved
  rw [Flow.deliveries_carriers]
  exact foldl_rel_map _ _ (fun g₁ g₂ d hg => hg.propagateLink hsw d.1 d.2.1 d.2.2)
    (h.dropUnlinked src resolved)

end Deliveries

/-! ### Switching -/

theorem preamplifyInputs (h : f₁.Renumbered o f₂) (rh : Nat) (inPorts : List Int) :
    (f₁.preamplifyInputs rh inPorts).Renumbered o (f₂.preamplifyInputs rh inPorts) := by
  unfold Flow.preamplifyInputs
  refine foldl_rel inPorts (fun g₁ g₂ i hg => ?_) h
  have hrel := hg.net.roadmAt? rh
  generalize g₁.net.roadmAt? rh = x₁ at hrel ⊢
  generalize g₂.net.roadmAt? rh = x₂ at hrel ⊢
  cases hrel with
  | none => exact hg
  | @some r₁ r₂ hr =>
    dsimp only
    obtain ⟨hp, hset⟩ := hg.preamplify hr i
    generalize g₁.preamplify r₁ i = P₁ at hp hset ⊢
    generalize g₂.preamplify r₂ i = P₂ at hp hset ⊢
    rcases P₁ with ⟨k₁, s₁⟩
    rcases P₂ with ⟨k₂, s₂⟩
    dsimp only at hp hset ⊢
    subst hset
    refine hp.update ?_
    refine hp.net.modifyRoadm (fun _ _ hq => ?_) rh
    exact { hq with inProc := hq.inProc.insert i s₂ }

/-- A fold that runs a step for each element and collects the sets the step yields keeps the
flows renumbered and collects the moved sets, when the step does. -/
theorem collect {α : Type} (step : Flow → α → Flow × ChannelSet)
    (hstep : ∀ g₁ g₂ a, g₁.Renumbered o g₂ → Flow.RenumberedWith o (step g₁ a) (step g₂ a))
    (h : f₁.Renumbered o f₂) (l : List α) :
    (l.foldl (fun x a => ((step x.1 a).1, x.2 ++ [(a, (step x.1 a).2)])) (f₁, [])).1.Renumbered o
        (l.foldl (fun x a => ((step x.1 a).1, x.2 ++ [(a, (step x.1 a).2)])) (f₂, [])).1 ∧
      (l.foldl (fun x a => ((step x.1 a).1, x.2 ++ [(a, (step x.1 a).2)])) (f₁, [])).2 =
        (l.foldl (fun x a => ((step x.1 a).1, x.2 ++ [(a, (step x.1 a).2)])) (f₂, [])).2.map
          fun p => (p.1, o.carriers p.2) := by
  refine foldl_rel (R := fun (x₁ x₂ : Flow × List (α × ChannelSet)) => x₁.1.Renumbered o x₂.1 ∧
    x₁.2 = x₂.2.map fun p => (p.1, o.carriers p.2)) l
    (fun x₁ x₂ a ⟨hx, hi⟩ => ⟨(hstep _ _ a hx).1, ?_⟩) ⟨h, rfl⟩
  rw [hi, (hstep _ _ a hx).2]
  simp

theorem switchOutputs (h : f₁.Renumbered o f₂) (rh : Nat) (outs : List Int) :
    (f₁.switchOutputs rh outs).1.Renumbered o (f₂.switchOutputs rh outs).1 ∧
      (f₁.switchOutputs rh outs).2 = (f₂.switchOutputs rh outs).2.map fun p => (p.1, o.carriers p.2) :=
  collect (fun g out => g.switchOutput rh out) (fun _ _ out hg => hg.switchOutput rh out) h outs

theorem clearPending (h : f₁.Renumbered o f₂) (rh : Nat) :
    (f₁.update (·.modifyRoadm rh ({ · with pending := {} }))).Renumbered o
      (f₂.update (·.modifyRoadm rh ({ · with pending := {} }))) := by
  refine h.update (h.net.modifyRoadm (fun _ _ hq => ?_) rh)
  exact { hq with pending := rfl }

theorem setBusy (h : f₁.Renumbered o f₂) (rh : Nat) (b : Bool) :
    (f₁.update (·.modifyRoadm rh ({ · with busy := b }))).Renumbered o
      (f₂.update (·.modifyRoadm rh ({ · with busy := b }))) := by
  refine h.update (h.net.modifyRoadm (fun _ _ hq => ?_) rh)
  exact { hq with busy := rfl }

/-- The outputs that the inputs of a ROADM feed are the same on renumbered networks. -/
theorem affectedOutputs (h : f₁.Renumbered o f₂) (rh : Nat) (inPorts : List Int) :
    ((f₁.net.roadmAt? rh).map (·.affectedOutputs inPorts)).getD [] =
      ((f₂.net.roadmAt? rh).map (·.affectedOutputs inPorts)).getD [] := by
  have hrel := h.net.roadmAt? rh
  generalize f₁.net.roadmAt? rh = x₁ at hrel ⊢
  generalize f₂.net.roadmAt? rh = x₂ at hrel ⊢
  cases hrel with
  | none => rfl
  | some hr => simp [hr.affectedOutputs]

/-- The rebuilt outputs of renumbered flows fan out in lockstep. -/
theorem fanSwitched {fan : Flow → List (Int × ChannelSet) → Flow}
    (hfan : ∀ g₁ g₂ items, g₁.Renumbered o g₂ →
      (fan g₁ (items.map fun p => (p.1, o.carriers p.2))).Renumbered o (fan g₂ items))
    (h : f₁.Renumbered o f₂) (rh : Nat) (outs : List Int) :
    (fan (f₁.switchOutputs rh outs).1 (f₁.switchOutputs rh outs).2).Renumbered o
      (fan (f₂.switchOutputs rh outs).1 (f₂.switchOutputs rh outs).2) := by
  obtain ⟨hs, hitems⟩ := h.switchOutputs rh outs
  rw [hitems]
  exact hfan _ _ _ hs

/-- Every round of the loop sees the same pending inputs, counts and budget on both flows, so
it rounds as often and fans out the moved sets. -/
theorem switchLoop {fan : Flow → List (Int × ChannelSet) → Flow}
    (hfan : ∀ g₁ g₂ items, g₁.Renumbered o g₂ →
      (fan g₁ (items.map fun p => (p.1, o.carriers p.2))).Renumbered o (fan g₂ items))
    (h : f₁.Renumbered o f₂) (rh rounds : Nat) :
    (f₁.switchLoop fan rh rounds).Renumbered o (f₂.switchLoop fan rh rounds) := by
  induction rounds generalizing f₁ f₂ with
  | zero => exact h
  | succ rounds ih =>
    unfold Flow.switchLoop
    have hrel := h.net.roadmAt? rh
    generalize f₁.net.roadmAt? rh = x₁ at hrel ⊢
    generalize f₂.net.roadmAt? rh = x₂ at hrel ⊢
    cases hrel with
    | none => exact h
    | @some r₁ r₂ hr =>
      dsimp only
      rw [hr.pending, h.switches, h.net.maxSwitches, hr.name]
      generalize f₂.pass.switches.getD rh 0 + 1 = count
      -- the round is counted alike on both flows
      have hc : Flow.Renumbered o { f₁ with pass := { f₁.pass with switches := f₂.pass.switches.insert rh count } }
          { f₂ with pass := { f₂.pass with switches := f₂.pass.switches.insert rh count } } :=
        { h with switches := rfl }
      split
      · exact h
      · split
        · exact (hc.fail _).clearPending rh
        · have hp := (hc.clearPending rh).preamplifyInputs rh r₂.pending.keys
          rw [hp.affectedOutputs]
          exact ih (hp.fanSwitched hfan rh _)

/-- Switching runs in lockstep at every depth: the busy marks, the loop and the fan-outs of
its rounds see the same on both flows. -/
theorem switchRoadm (depth : Nat) :
    ∀ {f₁ f₂ : Flow}, f₁.Renumbered o f₂ → ∀ rh,
      (Flow.switchRoadm depth f₁ rh).Renumbered o (Flow.switchRoadm depth f₂ rh) := by
  induction depth with
  | zero => exact fun h _ => h
  | succ depth ih =>
    intro f₁ f₂ h rh
    unfold Flow.switchRoadm
    dsimp only
    have hb := h.setBusy rh true
    rw [hb.net.maxSwitches]
    refine Flow.Renumbered.setBusy ?_ rh false
    exact hb.switchLoop (fun g₁ g₂ items hg => hg.fanOut (fun _ _ rh' hk => ih hk rh') rh items)
      rh _

end Flow.Renumbered

/-- Outcomes renumbered by `o`: the networks are, the errors are the same, and so are the events
up to their pass numbers. -/
structure Outcome.Renumbered (o : Offset) (r₁ r₂ : Outcome) : Prop where
  net : r₁.net.Renumbered o r₂.net
  events : r₁.events = r₂.events.map (Event.renumber o.passes)
  error : r₁.error = r₂.error

theorem Outcome.Renumbered.of_flow {o : Offset} {f₁ f₂ : Flow} (h : f₁.Renumbered o f₂)
    (err : Option Failure) :
    Outcome.Renumbered o ⟨f₁.net, f₁.pass.events.toList, err⟩ ⟨f₂.net, f₂.pass.events.toList, err⟩ :=
  ⟨h.net, by rw [h.events, Array.toList_map], rfl⟩

namespace Network.Renumbered

variable {o : Offset} {n₁ n₂ : Network}

/-- The flow a launch starts from: the pass counter raised, and a fresh pass of its number. -/
theorem start (h : n₁.Renumbered o n₂) (kind origin : String) (safe : Bool) :
    Flow.Renumbered o ⟨{ n₁ with passSeq := n₁.passSeq + 1 }, ⟨n₁.passSeq + 1, kind, origin, safe, #[], {}, #[]⟩⟩
      ⟨{ n₂ with passSeq := n₂.passSeq + 1 }, ⟨n₂.passSeq + 1, kind, origin, safe, #[], {}, #[]⟩⟩ where
  net := { h with passSeq := by dsimp only; rw [h.passSeq]; omega }
  id := by dsimp only; rw [h.passSeq]; omega
  kind := rfl
  origin := rfl
  safe := rfl
  errors := rfl
  switches := rfl
  events := by simp

/-- A launch from renumbered networks, by renumbered terminals, runs in lockstep: it ends in
renumbered networks, with the same error and the same events up to their pass numbers. -/
theorem launch (h : n₁.Renumbered o n₂) {t₁ t₂ : Terminal} (ht : t₁.Renumbered o t₂)
    (ports : List Int) (safe : Bool) (kind : String) :
    (n₁.launch t₁ ports safe kind).Renumbered o (n₂.launch t₂ ports safe kind) := by
  unfold Network.launch
  dsimp only
  rw [ht.name, ht.handle, h.nodes_size]
  generalize hG₁ : Flow.fanOut (Flow.switchRoadm (n₂.nodes.size + 1)) _ _ _ = G₁
  generalize hG₂ : Flow.fanOut (Flow.switchRoadm (n₂.nodes.size + 1)) _ _ _ = G₂
  -- seeding and the fan-out run in lockstep
  have hG : G₁.Renumbered o G₂ := by
    rw [← hG₁, ← hG₂]
    obtain ⟨hs, hitems⟩ := (h.start kind t₂.name safe).collect (fun g port => g.seed t₂.handle port)
      (fun _ _ port hg => hg.seed t₂.handle port) ports
    rw [hitems]
    exact hs.fanOut (fun _ _ rh hg => Flow.Renumbered.switchRoadm _ hg rh) t₂.handle _
  rw [hG.errors]
  generalize (if G₂.pass.errors.isEmpty = true then none
    else some (Failure.join G₂.pass.errors.toList)) = err
  -- the closing records: the span names the pass, `o.passes` later on the first network
  refine .of_flow ((hG.emit_eq ?_).emit_same _ rfl |>.debug _ (by rfl)) err
  cases err <;> simp [Event.renumber, Trace.renumberAttr, Trace.Span.internal, Trace.Span.failWith,
    Trace.Span.recordError, h.passSeq] <;> omega

end Network.Renumbered

end WdmNet

import WdmNet.Network.Propagation
import WdmNet.Proofs.Roadm.Table
/-!
Relations that hold across a whole pass.

A pass is made of a few kinds of elementary steps. It writes events and switch counts; it
fails with a routing loop or with an exhausted switch budget; it records visits on signals;
it changes amplifiers and spans; it changes the port state and the reports of a terminal,
whose transceivers and bindings stay and whose ports it marks with its own number only
(`Terminal.PassWrite`); it changes the port state of a ROADM (arrivals,
processed inputs, pending inputs, the busy flag); and it writes an output of a ROADM together
with the sources of its channels, only with carriers that a rule of the ROADM sends there from
the input recorded as their source. `Flow.Closed R` says that a relation `R` between flows
holds across each such step and composes.

Such a relation holds across every function of the engine, given that the switching function
the deliveries use respects it too, and `switchRoadm` does at every depth. So it holds from the
start of a launch to its end (`Flow.Closed.launch`), and a new fact about passes is proved by
checking the elementary steps only. `Proofs.Pass.Frame` is the one relation proved by hand: its
busy flags are kept only across the whole switching of a ROADM, not across setting the flag.

Main statements: `Flow.Closed.fanOut`, `Flow.Closed.launch`.
-/

namespace WdmNet

namespace Terminal

/-- What pass number `pass` may do to a line terminal: store arrivals, departures and port
state, mark ports as reached by this pass, and file reports, each under a received channel with
the port and transceiver of its binding. The terminal's handle, transceivers and bindings stay
as they were. -/
structure PassWrite (t : Terminal) (pass : Nat) (t' : Terminal) : Prop where
  handle : t'.handle = t.handle
  transceivers : t'.transceivers = t.transceivers
  tx : t'.tx = t.tx
  rx : t'.rx = t.rx
  marks : ∀ p k, t'.portPass.get? p = some k → t.portPass.get? p = some k ∨ k = pass
  reports : ∀ ch r, t'.reports.get? ch = some r → t.reports.get? ch = some r ∨
    ∃ b, t.rx.get? ch = some b ∧ r.channel = ch ∧ r.port = b.port ∧ r.transceiver = b.transceiver

variable {pass : Nat}

theorem PassWrite.trans {t t' t'' : Terminal} (h₁ : t.PassWrite pass t') (h₂ : t'.PassWrite pass t'') :
    t.PassWrite pass t'' where
  handle := h₂.handle.trans h₁.handle
  transceivers := h₂.transceivers.trans h₁.transceivers
  tx := h₂.tx.trans h₁.tx
  rx := h₂.rx.trans h₁.rx
  marks p k hk := by
    rcases h₂.marks p k hk with hk | rfl
    · exact h₁.marks p k hk
    · exact .inr rfl
  reports ch r hr := by
    rcases h₂.reports ch r hr with hr | ⟨b, hb, hrb⟩
    · exact h₁.reports ch r hr
    · exact .inr ⟨b, h₁.rx ▸ hb, hrb⟩

theorem PassWrite.of_reports {t t' : Terminal} (hh : t'.handle = t.handle)
    (htr : t'.transceivers = t.transceivers) (htx : t'.tx = t.tx) (hrx : t'.rx = t.rx)
    (hpp : t'.portPass = t.portPass) (hrep : t'.reports = t.reports) : t.PassWrite pass t' :=
  ⟨hh, htr, htx, hrx, fun _ _ hk => .inl (hpp ▸ hk), fun _ _ hr => .inl (hrep ▸ hr)⟩

/-- Accepting arrivals marks the port with the pass that brought them. -/
theorem passWrite_accept (t : Terminal) (pass : Nat) (port : Int) (set : ChannelSet) :
    t.PassWrite pass (t.accept pass port set) where
  handle := rfl
  transceivers := rfl
  tx := rfl
  rx := rfl
  marks p k hk := by
    simp only [accept] at hk
    rw [get?_insert_eq] at hk
    split at hk
    · exact .inr (Option.some.inj hk).symm
    · exact .inl hk
  reports _ _ hr := .inl hr

/-- A report names the channel it is filed under and the port and transceiver of its binding. -/
theorem report_names_binding (t : Terminal) (rate : Nat → Float) (ch : Int) (b : RxBinding) :
    (t.report rate ch b).channel = ch ∧ (t.report rate ch b).port = b.port ∧
      (t.report rate ch b).transceiver = b.transceiver := by
  unfold report
  dsimp only
  -- the threshold, the arrival and the verdict change none of the three
  repeat' split
  all_goals exact ⟨rfl, rfl, rfl⟩

/-- An entry of a table filled from a list, each element under its own key, is an element of
the list under its key, or was there before. -/
theorem get?_foldl_insert_key {α β : Type} [DecidableEq α] {cmp : α → α → Ordering}
    [Std.TransCmp cmp] [Std.LawfulEqCmp cmp] (key : β → α) (l : List β) (m : Std.TreeMap α β cmp)
    {a : α} {v : β} (h : (l.foldl (fun m x => m.insert (key x) x) m).get? a = some v) :
    m.get? a = some v ∨ v ∈ l ∧ key v = a := by
  induction l generalizing m with
  | nil => exact .inl h
  | cons x l ih =>
    rcases ih _ h with hx | ⟨hl, hk⟩
    · rw [get?_insert_eq] at hx
      split at hx
      · cases hx
        exact .inr ⟨List.mem_cons_self, ‹_›⟩
      · exact .inl hx
    · exact .inr ⟨List.mem_cons_of_mem x hl, hk⟩

/-- Receiving files one report for each receive binding on a pending port, under its channel. -/
theorem passWrite_receive (t : Terminal) (rate : Nat → Float) : t.PassWrite pass (t.receive rate).2 where
  handle := rfl
  transceivers := rfl
  tx := rfl
  rx := rfl
  marks _ _ hk := .inl hk
  reports ch r hr := by
    rcases get?_foldl_insert_key Report.channel _ _ hr with hr | ⟨hmem, hch⟩
    · exact .inl hr
    · obtain ⟨⟨ch', b⟩, hb, hrep⟩ := List.mem_filterMap.mp hmem
      have hrep : t.report rate ch' b = r := by
        dsimp only at hrep
        split at hrep
        · exact Option.some.inj hrep
        · cases hrep
      subst hrep
      obtain ⟨hc, hp, htr⟩ := report_names_binding t rate ch' b
      rw [hc] at hch
      subst hch
      exact .inr ⟨b, Std.TreeMap.mem_toList_iff_getElem?_eq_some.mp hb, hc, hp, htr⟩

end Terminal

namespace Flow

/-- A relation between flows that holds across every elementary step of a pass, and composes. -/
structure Closed (R : Flow → Flow → Prop) : Prop where
  refl : ∀ f, R f f
  trans : ∀ {f g k}, R f g → R g k → R f k
  /-- A step that writes only the events and switch counts of the pass. -/
  record : ∀ f g, g.net = f.net → g.pass.id = f.pass.id → g.pass.errors = f.pass.errors → R f g
  /-- A routing loop or an exhausted switch budget. -/
  fail : ∀ f k msg, (k = .routingLoop ∨ k = .propagationLimit) → R f (f.fail (.of k msg))
  visit : ∀ f c loc exit, R f (f.visit c loc exit)
  amp : ∀ f h g, R f (f.update (·.modifyAmp h g))
  span : ∀ f h g, R f (f.update (·.modifySpan h g))
  /-- A write to a line terminal that a pass may make. -/
  terminal : ∀ f th (g : Terminal → Terminal),
    (∀ t, f.net.terminalAt? th = some t → t.PassWrite f.pass.id (g t)) →
    R f (f.update (·.modifyTerminal th g))
  /-- A change of a ROADM's port state, which leaves its rules and outputs alone. -/
  roadmPorts : ∀ f rh (g : Roadm → Roadm), (∀ r, (g r).rules = r.rules ∧ (g r).route = r.route ∧
      (g r).outSets = r.outSets ∧ (g r).outSrc = r.outSrc) → R f (f.update (·.modifyRoadm rh g))
  /-- The write of an output of a ROADM: each carrier comes from the input recorded as its
  source, by a rule of the ROADM to this output. -/
  output : ∀ f rh (r : Roadm) out (set : ChannelSet) (src : Std.TreeMap Int Int),
    f.net.roadmAt? rh = some r →
    (∀ c ∈ set, ∃ i rule, src.get? c.channel = some i ∧ r.ruleFor i c.channel = some rule ∧
      rule.outPort = out) →
    R f (f.update (·.modifyRoadm rh fun r => { r with
      outSets := r.outSets.insert out set
      outSrc := if src.isEmpty then r.outSrc.erase out else r.outSrc.insert out src }))

/-! ### Steps that leave the nodes alone -/

theorem visit_nodes (f : Flow) (c : Carrier) (loc : Location) (exit : SignalState) :
    (f.visit c loc exit).net.nodes = f.net.nodes := rfl

theorem visitAll_nodes (f : Flow) (loc : Location) (set out : ChannelSet) :
    (f.visitAll loc set out).net.nodes = f.net.nodes := by
  unfold visitAll
  induction set.zip out generalizing f with
  | nil => rfl
  | cons p ps ih => exact (ih _).trans (visit_nodes _ _ _ _)

theorem stamp_nodes (f : Flow) (loc : Location) (set : ChannelSet) :
    (f.stamp loc set).1.net.nodes = f.net.nodes := by
  show (set.foldl (fun f c => f.visit c loc c.state) f).net.nodes = f.net.nodes
  induction set generalizing f with
  | nil => rfl
  | cons c cs ih => exact (ih _).trans (visit_nodes _ _ _ _)

/-- Noting the carriers a terminal does not receive writes events only. -/
theorem dropUnbound_net (f : Flow) (t : Terminal) (port : Int) (set : ChannelSet) :
    (f.dropUnbound t port set).net = f.net := by
  unfold dropUnbound
  induction set generalizing f with
  | nil => rfl
  | cons c cs ih =>
    rw [List.foldl_cons, ih]
    split
    · split <;> rfl
    · rfl

theorem amplify_nodes (f : Flow) (h : Nat) (set : ChannelSet) :
    (f.amplify h set).1.net.nodes = f.net.nodes := by
  unfold amplify
  split
  · rfl
  · split
    · rfl
    · exact visitAll_nodes _ _ _ _

/-- An amplifier changes the state of each carrier and keeps its channel. -/
theorem amplify_channels (f : Flow) (h : Nat) (set : ChannelSet) :
    ∀ c ∈ (f.amplify h set).2, ∃ c' ∈ set, c'.channel = c.channel := by
  unfold amplify
  split
  · exact fun c hc => ⟨c, hc, rfl⟩
  · split
    · exact fun c hc => absurd hc (List.not_mem_nil)
    · intro c hc
      obtain ⟨c', hc', rfl⟩ := List.mem_map.mp hc
      exact ⟨c', hc', rfl⟩

theorem boostOutput_nodes (f : Flow) (r : Roadm) (rh : Nat) (out : Int) (set : ChannelSet) :
    (f.boostOutput r rh out set).1.net.nodes = f.net.nodes := by
  unfold boostOutput
  split
  · split
    · split
      · rfl
      · exact amplify_nodes _ _ _
    · exact amplify_nodes _ _ _
  · rfl

theorem boostOutput_channels (f : Flow) (r : Roadm) (rh : Nat) (out : Int) (set : ChannelSet) :
    ∀ c ∈ (f.boostOutput r rh out set).2, ∃ c' ∈ set, c'.channel = c.channel := by
  unfold boostOutput
  split
  · split
    · split
      · exact fun c hc => ⟨c, hc, rfl⟩
      · exact amplify_channels _ _ _
    · exact amplify_channels _ _ _
  · exact fun c hc => ⟨c, hc, rfl⟩

/-- Collecting an output records visits and collisions, and changes no node. Every carrier it
collects comes from the input it notes as the source of its channel, by a rule of the ROADM
to this output. -/
theorem collectOutput_spec (f : Flow) (r : Roadm) (rh : Nat) (out : Int) :
    (f.collectOutput r rh out).1.net.nodes = f.net.nodes ∧
      ∀ c ∈ (f.collectOutput r rh out).2.1, ∃ i rule,
        (f.collectOutput r rh out).2.2.get? c.channel = some i ∧ r.ruleFor i c.channel = some rule ∧
          rule.outPort = out := by
  unfold collectOutput
  refine List.foldlRecOn (motive := fun acc : Flow × ChannelSet × Std.TreeMap Int Int =>
    acc.1.net.nodes = f.net.nodes ∧ ∀ c ∈ acc.2.1, ∃ i rule, acc.2.2.get? c.channel = some i ∧
      r.ruleFor i c.channel = some rule ∧ rule.outPort = out) _ _
    ?_ fun acc hacc ic _ => ?_
  · exact ⟨rfl, fun c hc => absurd hc List.not_mem_nil⟩
  obtain ⟨g, set, src⟩ := acc
  obtain ⟨i, c⟩ := ic
  obtain ⟨hnodes, hset⟩ := hacc
  dsimp only
  split
  · exact ⟨hnodes, hset⟩
  · rename_i rule hrule
    split
    · exact ⟨hnodes, hset⟩
    · rename_i hsel
      split
      · exact ⟨hnodes, hset⟩
      · -- a new channel: its source is this input, and no earlier carrier has its channel
        rename_i hnew
        simp only [Bool.or_eq_true, bne_iff_ne, ne_eq, Bool.not_eq_true', not_or,
          Decidable.not_not, Bool.not_eq_false] at hsel
        refine ⟨(visit_nodes _ _ _ _).trans hnodes, fun d hd => ?_⟩
        rcases List.mem_append.mp hd with hd | hd
        · obtain ⟨i', rule', hi', hr', ho'⟩ := hset d hd
          have hne : c.channel ≠ d.channel := by
            rintro heq
            rw [Std.TreeMap.contains_eq_isSome_getElem?, ← Std.TreeMap.get?_eq_getElem?, heq,
              hi'] at hnew
            exact hnew rfl
          exact ⟨i', rule', by rw [get?_insert_eq, if_neg hne, hi'], hr', ho'⟩
        · rw [List.mem_singleton] at hd
          subst hd
          exact ⟨i, rule, by rw [get?_insert_eq, if_pos rfl], hrule, hsel.1⟩

/-! ### Every function of the engine -/

section Closed

variable {R : Flow → Flow → Prop} (hR : Closed R)
include hR

theorem Closed.foldl {α : Type} (l : List α) (op : Flow → α → Flow)
    (hop : ∀ g a, R g (op g a)) (f : Flow) : R f (l.foldl op f) := by
  induction l generalizing f with
  | nil => exact hR.refl f
  | cons a l ih => exact hR.trans (hop f a) (ih (op f a))

theorem Closed.foldl_fst {α β : Type} (l : List α) (op : Flow × β → α → Flow × β)
    (hop : ∀ p a, R p.1 (op p a).1) (p : Flow × β) : R p.1 (l.foldl op p).1 := by
  induction l generalizing p with
  | nil => exact hR.refl p.1
  | cons a l ih => exact hR.trans (hop p a) (ih (op p a))

theorem Closed.emit (f : Flow) (e : Event) : R f (f.emit e) := hR.record _ _ rfl rfl rfl

theorem Closed.debug (f : Flow) (msg : String) (attrs : List Log.Attr) : R f (f.debug msg attrs) :=
  hR.record _ _ rfl rfl rfl

theorem Closed.drop (f : Flow) (node : String) (reason : DropReason) (ch : Int) :
    R f (f.drop node reason ch) :=
  hR.record _ _ rfl rfl rfl

theorem Closed.loop (f : Flow) (node : String) (ch : Int) : R f (f.loop node ch) := by
  simp only [Flow.loop]
  split
  · exact hR.drop f node .loop ch
  · exact hR.trans (hR.drop f node .loop ch) (hR.fail _ _ _ (.inl rfl))

theorem Closed.stamp (f : Flow) (loc : Location) (set : ChannelSet) : R f (f.stamp loc set).1 :=
  hR.foldl set _ (fun g c => hR.visit g c loc c.state) f

theorem Closed.visitAll (f : Flow) (loc : Location) (set out : ChannelSet) :
    R f (f.visitAll loc set out) :=
  hR.foldl _ _ (fun g ⟨c, o⟩ => hR.visit g c loc o.state) f

theorem Closed.amplify (f : Flow) (h : Nat) (set : ChannelSet) : R f (f.amplify h set).1 := by
  unfold Flow.amplify
  split
  · exact hR.refl f
  · split
    · exact hR.amp f h _
    · exact hR.trans (hR.trans (hR.emit _ _) (hR.visitAll _ _ _ _)) (hR.amp _ h _)

theorem Closed.transmit (f : Flow) (h : Nat) (m : RamanModel) (set : ChannelSet) :
    R f (f.transmit h m set).1 := by
  unfold Flow.transmit
  split
  · exact hR.refl f
  · split
    · exact hR.span f h _
    · exact hR.trans (hR.visitAll _ _ _ _) (hR.span _ h _)

theorem Closed.traverse (f : Flow) (l : Link) (set : ChannelSet) : R f (f.traverse l set).1 := by
  unfold Flow.traverse
  -- the link's boost first, then a span and its amplifier for every hop
  refine hR.trans ?_ (hR.foldl_fst _ _ (fun p h => ?_) _)
  · split
    · exact hR.amplify f _ set
    · exact hR.refl f
  · obtain ⟨g, cur⟩ := p
    have ht := hR.transmit g h.span l.raman cur
    rcases hx : g.transmit h.span l.raman cur with ⟨g', cur'⟩
    rw [hx] at ht
    simp only [hx]
    split
    · exact hR.trans ht (hR.amplify g' _ cur')
    · exact ht

theorem Closed.dropUnrouted (f : Flow) (r : Roadm) (i : Int) (set : ChannelSet) :
    R f (f.dropUnrouted r i set) := by
  refine hR.foldl set _ (fun g c => ?_) f
  split
  · exact hR.drop _ _ _ _
  · exact hR.refl g

theorem Closed.preamplify (f : Flow) (r : Roadm) (i : Int) : R f (f.preamplify r i).1 := by
  have hd := hR.dropUnrouted f r i (r.portSet i true)
  unfold Flow.preamplify
  dsimp only
  split
  · exact hd
  · split
    · split
      · exact hd
      · exact hR.trans hd (hR.amplify _ _ _)
    · exact hR.trans hd (hR.amplify _ _ _)

theorem Closed.collectOutput (f : Flow) (r : Roadm) (rh : Nat) (out : Int) :
    R f (f.collectOutput r rh out).1 := by
  unfold Flow.collectOutput
  refine hR.foldl_fst _ _
    (fun (p : Flow × ChannelSet × Std.TreeMap Int Int) (ic : Int × Carrier) => ?_) (f, [], {})
  obtain ⟨g, set, src⟩ := p
  obtain ⟨i, c⟩ := ic
  dsimp only
  split
  · exact hR.refl g
  · split
    · exact hR.refl g
    · split
      · exact hR.drop _ _ _ _
      · exact hR.visit _ _ _ _

theorem Closed.boostOutput (f : Flow) (r : Roadm) (rh : Nat) (out : Int) (set : ChannelSet) :
    R f (f.boostOutput r rh out set).1 := by
  unfold Flow.boostOutput
  split
  · split
    · split
      · exact hR.refl f
      · exact hR.amplify _ _ _
    · exact hR.amplify _ _ _
  · exact hR.refl f

/-- Rebuilding an output: the collected carriers, sorted and boosted, are written with their
sources, and each of them is backed by a rule of the ROADM, which nothing before the write
changed. -/
theorem Closed.switchOutput (f : Flow) (rh : Nat) (out : Int) : R f (f.switchOutput rh out).1 := by
  unfold Flow.switchOutput
  split
  · exact hR.refl f
  · rename_i r hr
    split
    rename_i g set src hc
    split
    rename_i g' set' hb
    have h₁ := hR.collectOutput f r rh out
    have h₂ := hR.boostOutput g r rh out set.sortByChannel
    obtain ⟨hnodes, hset⟩ := collectOutput_spec f r rh out
    have hnodes' := boostOutput_nodes g r rh out set.sortByChannel
    have hchannels := boostOutput_channels g r rh out set.sortByChannel
    rw [hc] at h₁ hnodes hset
    rw [hb] at h₂ hnodes' hchannels
    -- the ROADM is still the one read before collecting
    have hr' : g'.net.roadmAt? rh = some r := by
      unfold Network.roadmAt? at hr ⊢
      rw [hnodes', hnodes]
      exact hr
    refine hR.trans h₁ (hR.trans h₂ (hR.output g' rh r out set' src hr' fun c hc' => ?_))
    obtain ⟨c', hc'', hch⟩ := hchannels c hc'
    rw [← hch]
    exact hset c' (List.mem_mergeSort.mp hc'')

theorem Closed.dropUnbound (f : Flow) (t : Terminal) (port : Int) (set : ChannelSet) :
    R f (f.dropUnbound t port set) := by
  refine hR.foldl set _ (fun g c => ?_) f
  split
  · split
    · exact hR.refl g
    · exact hR.drop _ _ _ _
  · exact hR.drop _ _ _ _

theorem Closed.announce (f : Flow) (t : Terminal) (byPort : List (Int × List Report)) :
    R f (f.announce t byPort) := by
  refine hR.foldl byPort _ (fun g ⟨_, reports⟩ => ?_) f
  have hr : R g (reports.foldl (fun f rep =>
      let f := f.emit (.received t.name rep.ok)
      if rep.ok then f
      else f.debug "channel reception failed"
        [.str "terminal" t.name, .int "channel" rep.channel, .str "reason" rep.reason]) g) := by
    refine hR.foldl reports _ (fun k rep => ?_) g
    dsimp only
    split
    · exact hR.emit _ _
    · exact hR.trans (hR.emit _ _) (hR.debug _ _ _)
  dsimp only
  split
  · exact hR.trans hr (hR.emit _ _)
  · exact hr

theorem Closed.deliverTerminal (f : Flow) (th : Nat) (port : Int) (set : ChannelSet)
    (isLast : Bool) : R f (f.deliverTerminal th port set isLast) := by
  unfold Flow.deliverTerminal
  split
  · exact hR.refl f
  · rename_i t ht
    split
    rename_i g kept hs
    have hst := hR.stamp f ⟨.nodeIn, th, port⟩ set
    have hnodes := stamp_nodes f ⟨.nodeIn, th, port⟩ set
    rw [hs] at hst hnodes
    have h₁ : R f (g.dropUnbound t port kept) := hR.trans hst (hR.dropUnbound g t port kept)
    -- the terminal written back is the one read before the delivery, which nothing changed
    have ht' : (g.dropUnbound t port kept).net.terminalAt? th = some t := by
      unfold Network.terminalAt? at ht ⊢
      rw [dropUnbound_net, hnodes]
      exact ht
    have hw : ∀ t' : Terminal, t.PassWrite (g.dropUnbound t port kept).pass.id t' →
        R f ((g.dropUnbound t port kept).update (·.modifyTerminal th fun _ => t')) := fun t' hw =>
      hR.trans h₁ (hR.terminal _ _ _ fun t₀ h₀ => by
        rw [ht'] at h₀
        cases h₀
        exact hw)
    dsimp only
    split
    · exact hw _ (Terminal.passWrite_accept _ _ _ _)
    · exact hR.trans (hw _ ((Terminal.passWrite_accept _ _ _ _).trans (Terminal.passWrite_receive _ _)))
        (hR.announce _ _ _)

theorem Closed.dropLoops (f : Flow) (r : Roadm) (rh : Nat) (set : ChannelSet) :
    R f (f.dropLoops r rh set).1 := by
  refine hR.foldl_fst set _ (fun ⟨g, kept⟩ c => ?_) (f, [])
  dsimp only
  split
  · exact hR.loop _ _ _
  · exact hR.refl g

theorem Closed.acceptAt (f : Flow) (r : Roadm) (rh : Nat) (port : Int) (set : ChannelSet) :
    R f (f.acceptAt r rh port set) := by
  unfold Flow.acceptAt
  split
  rename_i g kept hl
  split
  rename_i g' kept' hs
  have h₁ := hR.dropLoops f r rh set
  have h₂ := hR.stamp g ⟨.nodeIn, rh, port⟩ kept
  rw [hl] at h₁
  rw [hs] at h₂
  exact hR.trans h₁ (hR.trans h₂ (hR.roadmPorts _ _ _ fun _ => ⟨rfl, rfl, rfl, rfl⟩))

theorem Closed.dropUnlinked (f : Flow) (src : Nat) (resolved : List (Option Link × ChannelSet)) :
    R f (f.dropUnlinked src resolved) := by
  refine hR.foldl resolved _ (fun g ⟨l?, set⟩ => ?_) f
  dsimp only
  split
  · exact hR.foldl set _ (fun k c => hR.drop _ _ _ _) g
  · exact hR.refl g

theorem Closed.preamplifyInputs (f : Flow) (rh : Nat) (inPorts : List Int) :
    R f (f.preamplifyInputs rh inPorts) := by
  refine hR.foldl inPorts _ (fun g i => ?_) f
  split
  · rename_i r _
    exact hR.trans (hR.preamplify g r i) (hR.roadmPorts _ _ _ fun _ => ⟨rfl, rfl, rfl, rfl⟩)
  · exact hR.refl g

theorem Closed.switchOutputs (f : Flow) (rh : Nat) (outs : List Int) :
    R f (f.switchOutputs rh outs).1 :=
  hR.foldl_fst outs _ (fun ⟨g, _⟩ o => hR.switchOutput g rh o) (f, [])

theorem Closed.seed (f : Flow) (th : Nat) (port : Int) : R f (f.seed th port).1 := by
  unfold Flow.seed
  split
  · exact hR.refl f
  · dsimp only
    exact hR.trans (hR.stamp f _ _)
      (hR.terminal _ th _ fun _ _ => .of_reports rfl rfl rfl rfl rfl rfl)

section Switching

variable {sw : Flow → Nat → Flow}

theorem Closed.deliverRoadm (hsw : ∀ g rh, R g (sw g rh)) (f : Flow) (rh : Nat) (port : Int)
    (set : ChannelSet) (isLast : Bool) : R f (f.deliverRoadm sw rh port set isLast) := by
  unfold Flow.deliverRoadm
  split
  · exact hR.refl f
  · rename_i r _
    dsimp only
    split
    · exact hR.acceptAt f r rh port set
    · exact hR.trans (hR.acceptAt f r rh port set) (hsw _ rh)

theorem Closed.propagateLink (hsw : ∀ g rh, R g (sw g rh)) (f : Flow) (l : Link)
    (set : ChannelSet) (isLast : Bool) : R f (f.propagateLink sw l set isLast) := by
  unfold Flow.propagateLink
  dsimp only
  have ht : ∀ e, R f ((f.emit e).traverse l set).1 := fun e =>
    hR.trans (hR.emit f e) (hR.traverse _ l set)
  split
  · exact hR.trans (ht _) (hR.deliverRoadm hsw _ _ _ _ _)
  · exact hR.trans (ht _) (hR.deliverTerminal _ _ _ _ _)
  · exact ht _

theorem Closed.fanOut (hsw : ∀ g rh, R g (sw g rh)) (f : Flow) (src : Nat)
    (items : List (Int × ChannelSet)) : R f (f.fanOut sw src items) := by
  unfold Flow.fanOut
  dsimp only
  exact hR.trans (hR.dropUnlinked _ _ _)
    (hR.foldl _ _ (fun g ⟨l, set, isLast⟩ => hR.propagateLink hsw g l set isLast) _)

end Switching

/-- Every round of a switching loop respects the relation when its fan-outs do. -/
theorem Closed.switchLoop {fan : Flow → List (Int × ChannelSet) → Flow}
    (hfan : ∀ g items, R g (fan g items)) (f : Flow) (rh rounds : Nat) :
    R f (f.switchLoop fan rh rounds) := by
  have hclear : ∀ g : Flow, R g (g.update (·.modifyRoadm rh ({ · with pending := {} }))) :=
    fun g => hR.roadmPorts _ _ _ fun _ => ⟨rfl, rfl, rfl, rfl⟩
  induction rounds generalizing f with
  | zero => exact hR.refl f
  | succ rounds ih =>
    unfold Flow.switchLoop
    split
    · exact hR.refl f
    · split
      · exact hR.refl f
      · dsimp only
        -- counting the round writes only the switch counts
        have hcount := hR.record f { f with pass := { f.pass with
          switches := f.pass.switches.insert rh (f.pass.switches.getD rh 0 + 1) } } rfl rfl rfl
        split
        · exact hR.trans hcount (hR.trans (hR.fail _ _ _ (.inr rfl)) (hclear _))
        · exact hR.trans hcount (hR.trans (hclear _) (hR.trans (hR.preamplifyInputs _ rh _)
            (hR.trans (hR.switchOutputs _ rh _) (hR.trans (hfan _ _) (ih _)))))

/-- `switchRoadm` respects the relation at every depth: it only sets and clears the busy flag
around its switching loop. -/
theorem Closed.switchRoadm (depth : Nat) : ∀ g rh, R g (Flow.switchRoadm depth g rh) := by
  induction depth with
  | zero => exact fun g _ => hR.refl g
  | succ depth ih =>
    intro g rh
    simp only [Flow.switchRoadm]
    have hbusy : ∀ (k : Flow) (b : Bool), R k (k.update (·.modifyRoadm rh ({ · with busy := b }))) :=
      fun k b => hR.roadmPorts _ _ _ fun _ => ⟨rfl, rfl, rfl, rfl⟩
    exact hR.trans (hbusy _ true) (hR.trans
      (hR.switchLoop (fun k items => hR.fanOut ih k rh items) _ rh _) (hbusy _ false))

end Closed

end Flow

/-- A relation closed under the steps of a pass holds from the start of a launch to its end:
from the network with the pass counter raised and a fresh pass of that number, to the flow
whose network the launch returns and whose errors make its error. -/
theorem Flow.Closed.launch {R : Flow → Flow → Prop} (hR : Flow.Closed R) (n : Network) (t : Terminal)
    (ports : List Int) (safe : Bool) (kind : String) :
    ∃ g : Flow, R ⟨{ n with passSeq := n.passSeq + 1 },
        ⟨n.passSeq + 1, kind, t.name, safe, #[], {}, #[]⟩⟩ g ∧
      (n.launch t ports safe kind).net = g.net ∧
      (n.launch t ports safe kind).error =
        if g.pass.errors.isEmpty then none else some (Failure.join g.pass.errors.toList) := by
  unfold Network.launch
  dsimp only
  -- seeding the ports and the fan-out; the closing records write events only
  refine ⟨_, hR.trans (hR.foldl_fst ports _ (fun p port => ?_) (_, []))
    (hR.fanOut (hR.switchRoadm _) _ _ _), rfl, rfl⟩
  obtain ⟨g, items⟩ := p
  dsimp only
  exact hR.seed g t.handle port

end WdmNet

import WdmNet.Proofs.Network.Arena
import WdmNet.Proofs.Network.ChannelOrder
import WdmNet.Proofs.Terminal.Receive
/-!
Reception reports are never stale.

A terminal files reports only when the last delivery of a fan-out reaches it: `deliveries` marks
a delivery as the last to its node exactly when no later port of the fan-out links to that node
(`deliveries_last_iff`). Every other delivery leaves the port it reaches pending, and so the last
one, or a nested fan-out's last one, finds it pending and files its reports.

`Flow.Awaits f₀ X f` says this of a flow `f` reached from `f₀` within one pass: every terminal
port that a delivery reached since `f₀` is pending, and then its terminal is one of `X`, to which
a last delivery is still due; or its reports are current. A delivery that repeats the pass's last
one to a port leaves it current, since the carriers compare equal. The steps of the engine that
write no terminal and only append events (`Flow.Quiet`) keep this; a fan-out keeps it for the
same `X`, since the terminals that its deliveries leave pending are due a later one of its own;
and switching keeps it at every depth.

So after a pass, every terminal port that the pass reached has no pending state left, each
receive binding on it has the report of the port's final arrivals filed, and a listening
terminal has handed that report on (`Network.launch_reports_current`).

Main statements: `deliveries_last_iff`, `Flow.awaits_fanOut`, `Network.launch_reports_current`.
-/

namespace WdmNet

/-- The symbol rate of the signal at a position, which receivers read. -/
def Network.symbolRate (n : Network) (i : Nat) : Float := (n.signal i).symbolRate

namespace Flow

/-! ### The last delivery to each node -/

/-- A fan-out delivers to a node exactly when one of its ports links to it. -/
theorem exists_deliveries_dst {items : List (Option Link × ChannelSet)} {k : Nat} :
    (∃ d ∈ deliveries items, d.1.dst = k) ↔ ∃ l set, (some l, set) ∈ items ∧ l.dst = k := by
  induction items with
  | nil => simp [deliveries]
  | cons x rest ih =>
    obtain ⟨_ | l, set⟩ := x
    · simp [deliveries, ih]
    · simp only [deliveries, List.mem_cons, exists_eq_or_imp, ih, Prod.mk.injEq, Option.some.injEq]
      constructor
      · rintro (h | ⟨l', s', h, rfl⟩)
        · exact ⟨l, set, .inl ⟨rfl, rfl⟩, h⟩
        · exact ⟨l', s', .inr h, rfl⟩
      · rintro ⟨l', s', ⟨rfl, rfl⟩ | h, rfl⟩
        · exact .inl rfl
        · exact .inr ⟨l', s', h, rfl⟩

/-- A delivery of a fan-out is marked as the last to its node exactly when no later delivery
of the fan-out goes to that node. -/
theorem deliveries_last_iff {items : List (Option Link × ChannelSet)}
    {D₁ D₂ : List (Link × ChannelSet × Bool)} {l : Link} {set : ChannelSet} {b : Bool}
    (h : deliveries items = D₁ ++ (l, set, b) :: D₂) : b = true ↔ ∀ d ∈ D₂, d.1.dst ≠ l.dst := by
  induction items generalizing D₁ with
  | nil => cases D₁ <;> cases h
  | cons x rest ih =>
    obtain ⟨_ | l', set'⟩ := x
    · exact ih h
    · cases D₁ with
      | nil =>
        -- the first port: marked last unless a later port links to its node
        obtain ⟨⟨rfl, rfl, rfl⟩, rfl⟩ := List.cons.inj h
        have hlinks : (∃ x ∈ rest, x.1.any (·.dst == l.dst) = true) ↔
            ∃ d ∈ deliveries rest, d.1.dst = l.dst := by
          rw [exists_deliveries_dst]
          constructor
          · rintro ⟨⟨_ | m, s⟩, hx, hm⟩
            · cases hm
            · exact ⟨m, s, hx, by simpa using hm⟩
          · rintro ⟨m, s, hm, hdst⟩
            exact ⟨(some m, s), hm, by simp [hdst]⟩
        rw [Bool.not_eq_true', Bool.eq_false_iff, Ne, List.any_eq_true, hlinks]
        simp only [not_exists, not_and]
      | cons d D₁ => exact ih (List.cons.inj h).2

/-- A delivery of a fan-out that is not marked as the last to its node has a later one to it. -/
theorem deliveries_later {items : List (Option Link × ChannelSet)}
    {D₁ D₂ : List (Link × ChannelSet × Bool)} {l : Link} {set : ChannelSet}
    (h : deliveries items = D₁ ++ (l, set, false) :: D₂) : ∃ d ∈ D₂, d.1.dst = l.dst := by
  by_contra hno
  simp only [not_exists, not_and] at hno
  exact Bool.false_ne_true ((deliveries_last_iff h).mpr hno)

/-! ### Steps that write no terminal -/

/-- A step of a pass that writes no terminal and only appends events; the identity of the pass
and the symbol rates of the signals stay too. -/
structure Quiet (f g : Flow) : Prop where
  id : g.pass.id = f.pass.id
  rates : g.net.symbolRate = f.net.symbolRate
  events : f.pass.events.toList <+: g.pass.events.toList
  terminals : ∀ th, g.net.terminalAt? th = f.net.terminalAt? th

theorem Quiet.refl (f : Flow) : Quiet f f := ⟨rfl, rfl, List.prefix_refl _, fun _ => rfl⟩

theorem Quiet.trans {f g k : Flow} (h₁ : Quiet f g) (h₂ : Quiet g k) : Quiet f k :=
  ⟨h₂.id.trans h₁.id, h₂.rates.trans h₁.rates, h₁.events.trans h₂.events,
    fun th => (h₂.terminals th).trans (h₁.terminals th)⟩

theorem quiet_foldl {α : Type} (l : List α) (op : Flow → α → Flow)
    (hop : ∀ g a, Quiet g (op g a)) (f : Flow) : Quiet f (l.foldl op f) := by
  induction l generalizing f with
  | nil => exact Quiet.refl f
  | cons a l ih => exact (hop f a).trans (ih (op f a))

theorem quiet_foldl_fst {α β : Type} (l : List α) (op : Flow × β → α → Flow × β)
    (hop : ∀ p a, Quiet p.1 (op p a).1) (p : Flow × β) : Quiet p.1 (l.foldl op p).1 := by
  induction l generalizing p with
  | nil => exact Quiet.refl p.1
  | cons a l ih => exact (hop p a).trans (ih (op p a))

theorem Quiet.of_net {f g : Flow} (hn : g.net = f.net) (hid : g.pass.id = f.pass.id)
    (he : f.pass.events.toList <+: g.pass.events.toList) : Quiet f g :=
  ⟨hid, by rw [hn], he, fun _ => by rw [hn]⟩

theorem quiet_update (f : Flow) {g : Network → Network} (hr : (g f.net).symbolRate = f.net.symbolRate)
    (ht : ∀ th, (g f.net).terminalAt? th = f.net.terminalAt? th) : Quiet f (f.update g) :=
  ⟨rfl, hr, List.prefix_refl _, ht⟩

theorem quiet_emit (f : Flow) (e : Event) : Quiet f (f.emit e) :=
  .of_net rfl rfl ⟨[e], by simp [emit]⟩

theorem quiet_debug (f : Flow) (msg : String) (attrs : List Log.Attr) : Quiet f (f.debug msg attrs) :=
  quiet_emit _ _

theorem quiet_drop (f : Flow) (node : String) (reason : DropReason) (ch : Int) :
    Quiet f (f.drop node reason ch) :=
  (quiet_emit _ _).trans (quiet_debug _ _ _)

theorem quiet_fail (f : Flow) (e : Failure) : Quiet f (f.fail e) :=
  .of_net rfl rfl (List.prefix_refl _)

theorem quiet_loop (f : Flow) (node : String) (ch : Int) : Quiet f (f.loop node ch) := by
  simp only [loop]
  split
  · exact quiet_drop f node .loop ch
  · exact (quiet_drop f node .loop ch).trans (quiet_fail _ _)

/-- Recording a visit keeps the symbol rate of every signal. -/
theorem quiet_visit (f : Flow) (c : Carrier) (loc : Location) (exit : SignalState) :
    Quiet f (f.visit c loc exit) := by
  refine quiet_update f (funext fun i => ?_) fun _ => rfl
  unfold Network.symbolRate
  rcases Network.signal_modifySignal f.net c.sig
    (·.record c.recordedAt loc f.pass.id c.state exit) i with h | h <;> rw [h]
  exact (Signal.alike_record _ _ _ _ _ _).symbolRate

theorem quiet_modifyAmp (f : Flow) (h : Nat) (g : Amplifier → Amplifier) :
    Quiet f (f.update (·.modifyAmp h g)) :=
  quiet_update f rfl fun _ => rfl

theorem quiet_modifySpan (f : Flow) (h : Nat) (g : Span → Span) :
    Quiet f (f.update (·.modifySpan h g)) :=
  quiet_update f rfl fun _ => rfl

theorem quiet_modifyRoadm (f : Flow) (rh : Nat) (g : Roadm → Roadm) :
    Quiet f (f.update (·.modifyRoadm rh g)) :=
  quiet_update f rfl fun th => Network.terminalAt?_modifyRoadm rh g th

theorem quiet_countRound (f : Flow) (rh : Nat) :
    Quiet f { f with pass := { f.pass with
      switches := f.pass.switches.insert rh (f.pass.switches.getD rh 0 + 1) } } :=
  .of_net rfl rfl (List.prefix_refl _)

theorem quiet_stamp (f : Flow) (loc : Location) (set : ChannelSet) : Quiet f (f.stamp loc set).1 :=
  quiet_foldl set _ (fun g c => quiet_visit g c loc c.state) f

theorem quiet_visitAll (f : Flow) (loc : Location) (set out : ChannelSet) :
    Quiet f (f.visitAll loc set out) :=
  quiet_foldl _ _ (fun g ⟨c, o⟩ => quiet_visit g c loc o.state) f

theorem quiet_amplify (f : Flow) (h : Nat) (set : ChannelSet) : Quiet f (f.amplify h set).1 := by
  unfold amplify
  split
  · exact Quiet.refl f
  · split
    · exact quiet_modifyAmp f h _
    · exact ((quiet_emit _ _).trans (quiet_visitAll _ _ _ _)).trans (quiet_modifyAmp _ h _)

theorem quiet_transmit (f : Flow) (h : Nat) (m : RamanModel) (set : ChannelSet) :
    Quiet f (f.transmit h m set).1 := by
  unfold transmit
  split
  · exact Quiet.refl f
  · split
    · exact quiet_modifySpan f h _
    · exact (quiet_visitAll _ _ _ _).trans (quiet_modifySpan _ h _)

theorem quiet_traverse (f : Flow) (l : Link) (set : ChannelSet) : Quiet f (f.traverse l set).1 := by
  unfold traverse
  -- the link's boost first, then a span and its amplifier for every hop
  refine Quiet.trans ?_ (quiet_foldl_fst _ _ (fun p h => ?_) _)
  · split
    · exact quiet_amplify f _ set
    · exact Quiet.refl f
  · obtain ⟨g, cur⟩ := p
    have ht := quiet_transmit g h.span l.raman cur
    rcases hx : g.transmit h.span l.raman cur with ⟨g', cur'⟩
    rw [hx] at ht
    simp only [hx]
    split
    · exact ht.trans (quiet_amplify g' _ cur')
    · exact ht

theorem quiet_dropUnrouted (f : Flow) (r : Roadm) (i : Int) (set : ChannelSet) :
    Quiet f (f.dropUnrouted r i set) := by
  refine quiet_foldl set _ (fun g c => ?_) f
  split
  · exact quiet_drop _ _ _ _
  · exact Quiet.refl g

theorem quiet_preamplify (f : Flow) (r : Roadm) (i : Int) : Quiet f (f.preamplify r i).1 := by
  have hd := quiet_dropUnrouted f r i (r.portSet i true)
  unfold preamplify
  dsimp only
  split
  · exact hd
  · split
    · split
      · exact hd
      · exact hd.trans (quiet_amplify _ _ _)
    · exact hd.trans (quiet_amplify _ _ _)

theorem quiet_collectOutput (f : Flow) (r : Roadm) (rh : Nat) (out : Int) :
    Quiet f (f.collectOutput r rh out).1 := by
  unfold collectOutput
  refine quiet_foldl_fst _ _
    (fun (p : Flow × ChannelSet × Std.TreeMap Int Int) (ic : Int × Carrier) => ?_) (f, [], {})
  obtain ⟨g, set, src⟩ := p
  obtain ⟨i, c⟩ := ic
  dsimp only
  split
  · exact Quiet.refl g
  · split
    · exact Quiet.refl g
    · split
      · exact quiet_drop _ _ _ _
      · exact quiet_visit _ _ _ _

theorem quiet_boostOutput (f : Flow) (r : Roadm) (rh : Nat) (out : Int) (set : ChannelSet) :
    Quiet f (f.boostOutput r rh out set).1 := by
  unfold boostOutput
  split
  · split
    · split
      · exact Quiet.refl f
      · exact quiet_amplify _ _ _
    · exact quiet_amplify _ _ _
  · exact Quiet.refl f

theorem quiet_switchOutput (f : Flow) (rh : Nat) (out : Int) : Quiet f (f.switchOutput rh out).1 := by
  unfold switchOutput
  split
  · exact Quiet.refl f
  · rename_i r _
    split
    rename_i g set src hc
    split
    rename_i g' set' hb
    have h₁ := quiet_collectOutput f r rh out
    have h₂ := quiet_boostOutput g r rh out set.sortByChannel
    rw [hc] at h₁
    rw [hb] at h₂
    exact h₁.trans (h₂.trans (quiet_modifyRoadm g' rh _))

theorem quiet_dropUnbound (f : Flow) (t : Terminal) (port : Int) (set : ChannelSet) :
    Quiet f (f.dropUnbound t port set) := by
  refine quiet_foldl set _ (fun g c => ?_) f
  split
  · split
    · exact Quiet.refl g
    · exact quiet_drop _ _ _ _
  · exact quiet_drop _ _ _ _

theorem quiet_emitIf (f : Flow) (c : Prop) [Decidable c] (e : Event) :
    Quiet f (if c then f.emit e else f) := by
  split
  · exact quiet_emit f e
  · exact Quiet.refl f

theorem quiet_announce (f : Flow) (t : Terminal) (byPort : List (Int × List Report)) :
    Quiet f (f.announce t byPort) := by
  unfold announce
  refine quiet_foldl byPort _ (fun g x => ?_) f
  -- a verdict and perhaps a debug record per report, then perhaps the port's reports
  refine (quiet_foldl x.2 _ (fun k rep => ?_) g).trans (quiet_emitIf _ _ _)
  dsimp only
  split
  · exact quiet_emit _ _
  · exact (quiet_emit _ _).trans (quiet_debug _ _ _)

theorem quiet_dropLoops (f : Flow) (r : Roadm) (rh : Nat) (set : ChannelSet) :
    Quiet f (f.dropLoops r rh set).1 := by
  refine quiet_foldl_fst set _ (fun ⟨g, kept⟩ c => ?_) (f, [])
  dsimp only
  split
  · exact quiet_loop _ _ _
  · exact Quiet.refl g

theorem quiet_acceptAt (f : Flow) (r : Roadm) (rh : Nat) (port : Int) (set : ChannelSet) :
    Quiet f (f.acceptAt r rh port set) := by
  unfold acceptAt
  split
  rename_i g kept hl
  split
  rename_i g' kept' hs
  have h₁ := quiet_dropLoops f r rh set
  have h₂ := quiet_stamp g ⟨.nodeIn, rh, port⟩ kept
  rw [hl] at h₁
  rw [hs] at h₂
  exact h₁.trans (h₂.trans (quiet_modifyRoadm _ _ _))

theorem quiet_dropUnlinked (f : Flow) (src : Nat) (resolved : List (Option Link × ChannelSet)) :
    Quiet f (f.dropUnlinked src resolved) := by
  refine quiet_foldl resolved _ (fun g ⟨l?, set⟩ => ?_) f
  dsimp only
  split
  · exact quiet_foldl set _ (fun k c => quiet_drop _ _ _ _) g
  · exact Quiet.refl g

theorem quiet_preamplifyInputs (f : Flow) (rh : Nat) (inPorts : List Int) :
    Quiet f (f.preamplifyInputs rh inPorts) := by
  refine quiet_foldl inPorts _ (fun g i => ?_) f
  split
  · rename_i r _
    exact (quiet_preamplify g r i).trans (quiet_modifyRoadm _ rh _)
  · exact Quiet.refl g

theorem quiet_switchOutputs (f : Flow) (rh : Nat) (outs : List Int) :
    Quiet f (f.switchOutputs rh outs).1 :=
  quiet_foldl_fst outs _ (fun ⟨g, _⟩ o => quiet_switchOutput g rh o) (f, [])

/-- Every port's reports go to the listener of a listening terminal. -/
theorem delivered_announce (f : Flow) (t : Terminal) (byPort : List (Int × List Report))
    (hl : t.listening = true) {q : Int} {reps : List Report} (hmem : (q, reps) ∈ byPort) :
    Event.delivered t.name reps ∈ (f.announce t byPort).pass.events.toList := by
  induction byPort generalizing f with
  | nil => cases hmem
  | cons x rest ih =>
    unfold announce
    rw [List.foldl_cons]
    show _ ∈ (Flow.announce _ t rest).pass.events.toList
    rcases List.mem_cons.mp hmem with rfl | hmem
    · -- written by this port's step, and kept by the later ones
      refine (quiet_announce _ t rest).events.subset ?_
      dsimp only
      rw [if_pos hl]
      simp [emit]
    · exact ih _ hmem

/-! ### Reports across a pass -/

/-- How a flow `f` reached from `f₀` within one pass stands with its reports: the identity of the
pass, the symbol rates and the soundness of the stored sets stay; every terminal port that a
delivery reached since `f₀` is pending or has current reports; and a pending one belongs to a
terminal of `X`, to which a last delivery is still due. -/
structure Awaits (f₀ : Flow) (X : Nat → Prop) (f : Flow) : Prop where
  id : f.pass.id = f₀.pass.id
  rates : f.net.symbolRate = f₀.net.symbolRate
  sound : f.net.SetsSound (signalChannel f₀.net.signals)
  resolved : ∀ {th t₀ t}, f₀.net.terminalAt? th = some t₀ → f.net.terminalAt? th = some t →
    Terminal.Resolved f₀.net.symbolRate f₀.pass.id t₀ t f.pass.events.toList
  pending : ∀ {th t₀ t p}, f₀.net.terminalAt? th = some t₀ → f.net.terminalAt? th = some t →
    t₀.portPass.get? p ≠ some f₀.pass.id → t.portPass.get? p = some f₀.pass.id →
    t.pending.contains p = true → X th

section Awaits

variable {f₀ f g : Flow} {X Y : Nat → Prop}

theorem Awaits.mono (h : Awaits f₀ X f) (hXY : ∀ th, X th → Y th) : Awaits f₀ Y f :=
  { h with pending := fun h₀ ht hp₀ hp hpen => hXY _ (h.pending h₀ ht hp₀ hp hpen) }

/-- A node that is no terminal awaits nothing. -/
theorem Awaits.of_not_terminal {k : Nat} (h : Awaits f₀ (fun x => X x ∨ x = k) f)
    (hk : f.net.terminalAt? k = none) : Awaits f₀ X f :=
  { h with
    pending := fun h₀ ht hp₀ hp hpen => (h.pending h₀ ht hp₀ hp hpen).resolve_right fun hth => by
      rw [hth, hk] at ht
      cases ht }

theorem Awaits.quiet (h : Awaits f₀ X f) (hq : Quiet f g)
    (hs : g.net.SetsSound (signalChannel f₀.net.signals)) : Awaits f₀ X g where
  id := hq.id.trans h.id
  rates := hq.rates.trans h.rates
  sound := hs
  resolved h₀ ht := (h.resolved h₀ ((hq.terminals _).symm.trans ht)).mono hq.events.subset
  pending h₀ ht := h.pending h₀ ((hq.terminals _).symm.trans ht)

/-- A write of the terminal `th` by a step that also appends events: the other terminals keep
their ports, and the written one needs to keep its ports resolved and await nothing further,
unless `X` names it. -/
theorem Awaits.write {th : Nat} {t t' : Terminal} {k : Flow}
    (h : Awaits f₀ (fun x => X x ∨ x = th) f) (ht : f.net.terminalAt? th = some t)
    (hk : k.net = f.net.modifyTerminal th fun _ => t') (hid : k.pass.id = f.pass.id)
    (hev : f.pass.events.toList ⊆ k.pass.events.toList)
    (hs : k.net.SetsSound (signalChannel f₀.net.signals))
    (hres : ∀ {t₀}, f₀.net.terminalAt? th = some t₀ →
      Terminal.Resolved f₀.net.symbolRate f₀.pass.id t₀ t f.pass.events.toList →
      Terminal.Resolved f₀.net.symbolRate f₀.pass.id t₀ t' k.pass.events.toList)
    (hpen : ∀ {t₀ p}, f₀.net.terminalAt? th = some t₀ → t₀.portPass.get? p ≠ some f₀.pass.id →
      t'.portPass.get? p = some f₀.pass.id → t'.pending.contains p = true → X th) :
    Awaits f₀ X k := by
  have hat : ∀ th', k.net.terminalAt? th' = if th = th' then some t' else f.net.terminalAt? th' :=
    fun th' => by
      rw [hk, Network.terminalAt?_modifyTerminal]
      split
      · rename_i hth
        subst hth
        rw [ht]
        rfl
      · rfl
  refine ⟨hid.trans h.id, by rw [hk]; exact h.rates, hs, fun {th' t₀ t''} h₀ ht' => ?_,
    fun {th' t₀ t'' p} h₀ ht' hp₀ hp hpd => ?_⟩
  all_goals
    rw [hat] at ht'
    by_cases hth : th = th'
  · subst hth
    rw [if_pos rfl] at ht'
    cases ht'
    exact hres h₀ (h.resolved h₀ ht)
  · rw [if_neg hth] at ht'
    exact (h.resolved h₀ ht').mono hev
  · subst hth
    rw [if_pos rfl] at ht'
    cases ht'
    exact hpen h₀ hp₀ hp hpd
  · rw [if_neg hth] at ht'
    exact (h.pending h₀ ht' hp₀ hp hpd).resolve_right (Ne.symm hth)

/-! ### The functions of the engine -/

/-- A delivery to a terminal keeps every reached port pending or current. The last delivery of a
fan-out files the reports of every pending port and hands them on; an earlier one leaves the port
pending, and the terminal then awaits its last. -/
theorem awaits_deliverTerminal {th : Nat} {port : Int} {set : ChannelSet} {isLast : Bool}
    (h : Awaits f₀ (fun x => X x ∨ x = th) f) (hs : ChannelSet.Sound (signalChannel f₀.net.signals) set)
    (hlast : isLast = false → X th) : Awaits f₀ X (f.deliverTerminal th port set isLast) := by
  unfold deliverTerminal
  split
  · rename_i hnone
    exact h.of_not_terminal hnone
  · rename_i t ht
    split
    rename_i g kept hst
    -- stamping and noting the unbound carriers write no terminal
    have hstamp := sound_stamp h.sound ⟨.nodeIn, th, port⟩ hs
    have hq := quiet_stamp f ⟨.nodeIn, th, port⟩ set
    rw [hst] at hstamp hq
    dsimp only at hstamp hq
    have hq₁ := hq.trans (quiet_dropUnbound g t port kept)
    have h₁ : Awaits f₀ (fun x => X x ∨ x = th) (g.dropUnbound t port kept) :=
      h.quiet hq₁ (by rw [dropUnbound_net]; exact hstamp.1)
    have ht₁ : (g.dropUnbound t port kept).net.terminalAt? th = some t := (hq₁.terminals th).trans ht
    have hsets := h₁.sound.terminal ht₁
    -- the arrivals stored at the port and the new ones are both sound
    have hold : ChannelSet.Sound (signalChannel f₀.net.signals) (t.portSet port true) := hsets.inSets.getD port
    have hacc := hsets.accept (g.dropUnbound t port kept).pass.id port hstamp.2
    dsimp only
    rw [h₁.id] at hacc ⊢
    split
    · -- an earlier delivery: the port may stay pending, and the terminal awaits the last one
      rename_i hnl
      refine h₁.write ht₁ rfl rfl (List.Subset.refl _)
        (h₁.sound.modifyTerminal th fun _ _ => hacc) (fun _ hres => hres.accept hold hstamp.2)
        fun _ _ _ _ => hlast (by simpa using hnl)
    · -- the last delivery: reports for every pending port, handed on
      have hrate : (fun i => ((g.dropUnbound t port kept).net.signal i).symbolRate) =
          f₀.net.symbolRate := h₁.rates
      rw [hrate]
      have hqa := quiet_announce ((g.dropUnbound t port kept).update (·.modifyTerminal th fun _ =>
        ((t.accept f₀.pass.id port kept).receive f₀.net.symbolRate).2))
        ((t.accept f₀.pass.id port kept).receive f₀.net.symbolRate).2
        ((t.accept f₀.pass.id port kept).receive f₀.net.symbolRate).1
      refine h₁.write ht₁ (announce_net _ _ _) hqa.id hqa.events.subset ?_
        (fun _ hres => (hres.accept hold hstamp.2).receive hqa.events.subset
          fun hl _ _ hmem => delivered_announce _ _ _ hl hmem)
        fun _ _ _ hpd => by simp at hpd
      rw [announce_net]
      exact h₁.sound.modifyTerminal th fun _ _ => hacc.receive _

section Switching

variable {sw : Flow → Nat → Flow}

theorem awaits_deliverRoadm (hsw : ∀ Y g rh, Awaits f₀ Y g → Awaits f₀ Y (sw g rh))
    (h : Awaits f₀ X f) {rh : Nat} {port : Int} {set : ChannelSet}
    (hs : ChannelSet.Sound (signalChannel f₀.net.signals) set) (isLast : Bool) :
    Awaits f₀ X (f.deliverRoadm sw rh port set isLast) := by
  unfold deliverRoadm
  split
  · exact h
  · rename_i r _
    have ha := h.quiet (quiet_acceptAt f r rh port set) (sound_acceptAt h.sound r rh port hs)
    dsimp only
    split
    · exact ha
    · exact hsw _ _ rh ha

/-- Running a set over a link and delivering it: the link's node may await reports before, and
after only if this is not the last delivery to it. -/
theorem awaits_propagateLink (hsw : ∀ Y g rh, Awaits f₀ Y g → Awaits f₀ Y (sw g rh))
    {l : Link} {set : ChannelSet} {isLast : Bool} (h : Awaits f₀ (fun x => X x ∨ x = l.dst) f)
    (hs : ChannelSet.Sound (signalChannel f₀.net.signals) set) (hlast : isLast = false → X l.dst) :
    Awaits f₀ X (f.propagateLink sw l set isLast) := by
  unfold propagateLink
  dsimp only
  -- the trace event and the link's components write no terminal
  have ht : ∀ e, Awaits f₀ (fun x => X x ∨ x = l.dst) ((f.emit e).traverse l set).1 ∧
      ChannelSet.Sound (signalChannel f₀.net.signals) ((f.emit e).traverse l set).2 := fun e =>
    have hst := sound_traverse (sound_emit h.sound e) l hs
    ⟨h.quiet ((quiet_emit f e).trans (quiet_traverse _ l set)) hst.1, hst.2⟩
  split
  · rename_i hnode
    exact awaits_deliverRoadm hsw ((ht _).1.of_not_terminal (by simp [Network.terminalAt?, hnode]))
      (ht _).2 isLast
  · exact awaits_deliverTerminal (ht _).1 (ht _).2 hlast
  · rename_i hnode
    exact (ht _).1.of_not_terminal (by simp [Network.terminalAt?, hnode])

/-- The deliveries of a fan-out, in order: a node that a later delivery goes to may await
reports, and after the last of them only the nodes of `X` may. -/
theorem awaits_foldl_propagateLink (hsw : ∀ Y g rh, Awaits f₀ Y g → Awaits f₀ Y (sw g rh))
    {op : Flow → Link × ChannelSet × Bool → Flow}
    (hop : ∀ g l set b, op g (l, set, b) = g.propagateLink sw l set b) :
    ∀ (D : List (Link × ChannelSet × Bool)) (f : Flow),
      (∀ d ∈ D, ChannelSet.Sound (signalChannel f₀.net.signals) d.2.1) →
      (∀ D₁ l set D₂, D = D₁ ++ (l, set, false) :: D₂ → ∃ d ∈ D₂, d.1.dst = l.dst) →
      Awaits f₀ (fun x => X x ∨ ∃ d ∈ D, d.1.dst = x) f → Awaits f₀ X (D.foldl op f)
  | [], f, _, _, h => h.mono fun x hx => hx.resolve_right fun ⟨_, hd, _⟩ => nomatch hd
  | (l, set, b) :: D, f, hs, hlater, h => by
    rw [List.foldl_cons, hop]
    refine awaits_foldl_propagateLink hsw hop D _ (fun d hd => hs d (List.mem_cons_of_mem _ hd))
      (fun D₁ l' s' D₂ he => hlater ((l, set, b) :: D₁) l' s' D₂ (by rw [he]; rfl)) ?_
    refine awaits_propagateLink hsw (h.mono fun x hx => ?_) (hs _ List.mem_cons_self) fun hb => ?_
    · rcases hx with hx | ⟨d, hd, hdx⟩
      · exact .inl (.inl hx)
      · rcases List.mem_cons.mp hd with rfl | hd
        · exact .inr hdx.symm
        · exact .inl (.inr ⟨d, hd, hdx⟩)
    · subst hb
      exact .inr (hlater [] l set D rfl)

/-- A fan-out awaits no more than before: the terminals its earlier deliveries leave pending are
due one of its later deliveries, and each last delivery files their reports. -/
theorem awaits_fanOut (hsw : ∀ Y g rh, Awaits f₀ Y g → Awaits f₀ Y (sw g rh))
    (h : Awaits f₀ X f) (src : Nat) {items : List (Int × ChannelSet)}
    (hitems : ∀ it ∈ items, ChannelSet.Sound (signalChannel f₀.net.signals) it.2) :
    Awaits f₀ X (f.fanOut sw src items) := by
  unfold fanOut
  dsimp only
  have h₁ : ∀ resolved, Awaits f₀ X (f.dropUnlinked src resolved) := fun resolved =>
    h.quiet (quiet_dropUnlinked f src resolved) (by rw [dropUnlinked_net]; exact h.sound)
  refine awaits_foldl_propagateLink hsw (fun _ _ _ _ => rfl) _ _ (fun d hd => ?_)
    (fun _ _ _ _ he => deliveries_later he) ((h₁ _).mono fun x hx => .inl hx)
  -- every delivery carries the set of one of the ports
  obtain ⟨l?, hmem⟩ := mem_deliveries hd
  obtain ⟨⟨port, set⟩, hps, he⟩ := List.mem_map.mp hmem
  rw [← (Prod.mk.inj he).2]
  exact hitems _ hps

end Switching

/-- Every round of a switching loop awaits no more than before, when its fan-outs do not. -/
theorem awaits_switchLoop {fan : Flow → List (Int × ChannelSet) → Flow}
    (hfan : ∀ Y g items, Awaits f₀ Y g →
      (∀ it ∈ items, ChannelSet.Sound (signalChannel f₀.net.signals) it.2) → Awaits f₀ Y (fan g items))
    (h : Awaits f₀ X f) (rh rounds : Nat) : Awaits f₀ X (f.switchLoop fan rh rounds) := by
  have hclear : ∀ k : Flow, Awaits f₀ X k →
      Awaits f₀ X (k.update (·.modifyRoadm rh ({ · with pending := {} }))) := fun k hk =>
    hk.quiet (quiet_modifyRoadm k rh _) (sound_modifyRoadm_ports hk.sound rh fun _ => ⟨rfl, rfl, rfl⟩)
  induction rounds generalizing f with
  | zero => exact h
  | succ rounds ih =>
    unfold switchLoop
    split
    · exact h
    · split
      · exact h
      · dsimp only
        have hc := h.quiet (quiet_countRound f rh) h.sound
        split
        · exact hclear _ (hc.quiet (quiet_fail _ _) hc.sound)
        · -- the pending inputs are cleared, processed, and the outputs they feed rebuilt
          have hround : ∀ (k : Flow) (ins outs : List Int), Awaits f₀ X k →
              Awaits f₀ X ((k.preamplifyInputs rh ins).switchOutputs rh outs).1 ∧
                ∀ it ∈ ((k.preamplifyInputs rh ins).switchOutputs rh outs).2,
                  ChannelSet.Sound (signalChannel f₀.net.signals) it.2 := fun k ins outs hk =>
            have hso := sound_switchOutputs (sound_preamplifyInputs hk.sound rh ins) rh outs
            ⟨hk.quiet ((quiet_preamplifyInputs k rh ins).trans (quiet_switchOutputs _ rh outs)) hso.1,
              hso.2⟩
          exact ih (hfan _ _ _ (hround _ _ _ (hclear _ hc)).1 (hround _ _ _ (hclear _ hc)).2)

/-- `switchRoadm` awaits no more than before, at every depth. -/
theorem awaits_switchRoadm (depth : Nat) :
    ∀ Y g rh, Awaits f₀ Y g → Awaits f₀ Y (switchRoadm depth g rh) := by
  induction depth with
  | zero => exact fun _ _ _ hg => hg
  | succ depth ih =>
    intro Y g rh hg
    simp only [switchRoadm]
    have hbusy : ∀ (k : Flow) (b : Bool), Awaits f₀ Y k →
        Awaits f₀ Y (k.update (·.modifyRoadm rh ({ · with busy := b }))) := fun k _ hk =>
      hk.quiet (quiet_modifyRoadm k rh _) (sound_modifyRoadm_ports hk.sound rh fun _ => ⟨rfl, rfl, rfl⟩)
    exact hbusy _ false (awaits_switchLoop (fun _ k _ hk hitems => awaits_fanOut ih hk rh hitems)
      (hbusy _ true hg) rh _)


/-! ### A pass -/

/-- Nothing awaits reports at the start: no port has been reached yet. -/
theorem Awaits.start (hs : f₀.net.SetsSound (signalChannel f₀.net.signals)) : Awaits f₀ X f₀ where
  id := rfl
  rates := rfl
  sound := hs
  resolved h₀ ht p hp₀ hp := absurd hp (by rw [h₀] at ht; cases ht; exact hp₀)
  pending h₀ ht hp₀ hp := absurd hp (by rw [h₀] at ht; cases ht; exact hp₀)

/-- Seeding a port writes the departures of its terminal only: every terminal keeps the pass
that last reached each of its ports. -/
theorem seed_terminalAt (f : Flow) (th : Nat) (port : Int) {h : Nat} {t : Terminal}
    (ht : f.net.terminalAt? h = some t) :
    ∃ t', (f.seed th port).1.net.terminalAt? h = some t' ∧ t'.portPass = t.portPass := by
  unfold seed
  split
  · exact ⟨t, ht, rfl⟩
  · dsimp only [update]
    rw [Network.terminalAt?_modifyTerminal, Network.terminalAt?_of_nodes (stamp_nodes _ _ _), ht]
    split
    · exact ⟨_, rfl, rfl⟩
    · exact ⟨t, rfl, rfl⟩

/-- A launch, from the flow after seeding on: that flow is of the new pass and keeps what every
terminal's ports were last reached by, and the fan-out and the closing records leave no terminal
awaiting reports. -/
theorem launch_awaits {n : Network} (hs : n.SetsSound (signalChannel n.signals))
    (hb : n.BindingsSound) (src : Terminal) (ports : List Int) (safe : Bool) (kind : String) :
    ∃ f₀ g : Flow, f₀.pass.id = n.passSeq + 1 ∧
      (∀ {th t₀}, n.terminalAt? th = some t₀ →
        ∃ t, f₀.net.terminalAt? th = some t ∧ t.portPass = t₀.portPass) ∧
      Awaits f₀ (fun _ => False) g ∧ (n.launch src ports safe kind).net = g.net ∧
      (n.launch src ports safe kind).events = g.pass.events.toList := by
  unfold Network.launch
  dsimp only
  generalize hP : List.foldl _ _ ports = P
  have hseed : Seeded (signalChannel n.signals) P ∧ P.1.pass.id = n.passSeq + 1 ∧
      ∀ {th t₀}, n.terminalAt? th = some t₀ →
        ∃ t, P.1.net.terminalAt? th = some t ∧ t.portPass = t₀.portPass := by
    rw [← hP]
    refine List.foldlRecOn (motive := fun p => Seeded (signalChannel n.signals) p ∧
        p.1.pass.id = n.passSeq + 1 ∧ ∀ {th t₀}, n.terminalAt? th = some t₀ →
          ∃ t, p.1.net.terminalAt? th = some t ∧ t.portPass = t₀.portPass) _ _
      ⟨⟨hs.of_frame rfl rfl rfl, hb.of_frame rfl rfl, rfl, fun _ h => nomatch h⟩, rfl,
        fun ht => ⟨_, ht, rfl⟩⟩
      fun ⟨g, items⟩ ⟨hg, hid, hterm⟩ port _ =>
        ⟨hg.seed src.handle port, (keeps_seed g _ _).id.trans hid, fun ht => ?_⟩
    obtain ⟨t, ht, hpp⟩ := hterm ht
    obtain ⟨t', ht', hpp'⟩ := seed_terminalAt g src.handle port ht
    exact ⟨t', ht', hpp'.trans hpp⟩
  obtain ⟨hsd, hid, hterm⟩ := hseed
  have hstart : Awaits P.1 (fun _ => False) P.1 :=
    Awaits.start (by rw [hsd.channels]; exact hsd.sets)
  have hfan := awaits_fanOut (awaits_switchRoadm (n.nodes.size + 1)) hstart src.handle
    (by rw [hsd.channels]; exact hsd.items)
  refine ⟨P.1, _, hid, hterm, ?_, rfl, rfl⟩
  -- the closing records of the pass write events only
  exact hfan.quiet ((quiet_emit _ _).trans ((quiet_emit _ _).trans (quiet_debug _ _ _))) hfan.sound

end Awaits

end Flow

/-- Reception reports are never stale. After a pass, every port of a terminal that a delivery of
the pass reached is no longer pending, each receive binding on it has the report of the port's
final arrivals filed (`Terminal.report`: missing, or the carrier's readings and verdict), and a
listening terminal has handed that report on. -/
theorem Network.launch_reports_current {n : Network} (hs : n.SetsSound (signalChannel n.signals))
    (hb : n.BindingsSound) (src : Terminal) (ports : List Int) (safe : Bool) (kind : String)
    {th : Nat} {t₀ t : Terminal} {p : Int} (h₀ : n.terminalAt? th = some t₀)
    (hfresh : t₀.portPass.get? p ≠ some (n.passSeq + 1))
    (ht : (n.launch src ports safe kind).net.terminalAt? th = some t)
    (hreached : t.portPass.get? p = some (n.passSeq + 1)) :
    t.pending.contains p = false ∧
      ∀ ch b, t.rx.get? ch = some b → b.port = p →
        t.reports.get? ch = some (t.report (n.launch src ports safe kind).net.symbolRate ch b) ∧
        (t.listening = true → ∃ reps, Event.delivered t.name reps ∈ (n.launch src ports safe kind).events ∧
          t.report (n.launch src ports safe kind).net.symbolRate ch b ∈ reps) := by
  obtain ⟨f₀, g, hid, hterm, hg, hnet, hev⟩ := Flow.launch_awaits hs hb src ports safe kind
  obtain ⟨t₀', h₀', hpp⟩ := hterm h₀
  rw [hnet] at ht ⊢
  rw [hev, hg.rates]
  rw [← hid, ← hpp] at hfresh
  rw [← hid] at hreached
  -- nothing awaits a last delivery any more, so the port is not pending and hence current
  have hpen : t.pending.contains p = false :=
    Bool.eq_false_iff.mpr fun hp => hg.pending h₀' ht hfresh hreached hp
  rcases hg.resolved h₀' ht p hfresh hreached with hp | hcur
  · rw [hpen] at hp
    cases hp
  · exact ⟨hpen, hcur⟩

end WdmNet

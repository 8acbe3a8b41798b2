import WdmNet.Proofs.Network.Arena
import WdmNet.Proofs.Pass.Frame
import WdmNet.Proofs.Topology.Duplicates
import WdmNet.Topology.Build
/-!
The switch budget of a pass counts deliveries.

A ROADM starts a switching round only while one of its inputs is pending, and every round
clears the inputs it takes. An input becomes pending only when a set is delivered to it, and
the pass traces every set it sends over a link before the delivery. So in every pass the rounds
that a ROADM has started, and one more while an input of it is pending, are paid for by the
deliveries into it that the pass has traced (`Flow.Tally`).

The budget failure of a pass is raised by a round that takes its ROADM's count past the budget,
so a pass fails with the propagation limit only when more than `maxSwitches` deliveries reach
one ROADM in it (`Network.launch_limit_needs_deliveries`). A routing loop is one way to get
there; fan-outs that merge are another, since each fan-out that ends at an idle ROADM starts a
round of its own.

The steps that switch nothing keep the switch counts, the pending inputs and the budget
failures of the pass and only append events (`Flow.Plain`); a delivery into a ROADM pays for
the input it may leave pending; and a round is paid for by the input it clears.

Main statements: `Flow.tally_fanOut`, `Network.launch_limit_needs_deliveries`.
-/

namespace WdmNet

/-- The link named by an event that traces the propagation over a link. -/
def Event.tracedLink : Event → Option String
  | .traced s =>
    if s.name = "link/propagate" then
      match s.attrs.lookup "link" with
      | some (.str name) => some name
      | _ => none
    else none
  | _ => none

/-- Whether an event traces a propagation over one of the links `L` into the node `h`. -/
def Event.deliversInto (L : Array Link) (h : Nat) (e : Event) : Bool :=
  e.tracedLink.any fun name => L.any fun l => l.name == name && l.dst == h

/-- One while the ROADM with this handle has a pending input, else zero. -/
def Network.pendingMark (n : Network) (h : Nat) : Nat :=
  if (n.roadmAt? h).any (!·.pending.isEmpty) then 1 else 0

theorem Network.pendingMark_le_one (n : Network) (h : Nat) : n.pendingMark h ≤ 1 := by
  unfold pendingMark
  split <;> omega

/-- The mark reads only the pending inputs. -/
theorem Network.pendingMark_congr {m n : Network} {h : Nat}
    (hp : (m.roadmAt? h).map (·.pending) = (n.roadmAt? h).map (·.pending)) :
    m.pendingMark h = n.pendingMark h := by
  have hany : ∀ k : Network, (k.roadmAt? h).any (!·.pending.isEmpty) =
      ((k.roadmAt? h).map (·.pending)).any (!·.isEmpty) := fun k => by
    rcases k.roadmAt? h with _ | r <;> rfl
  unfold pendingMark
  rw [hany m, hany n, hp]

theorem Network.isSome_roadmAt?_modifyRoadm (n : Network) (rh : Nat) (g : Roadm → Roadm)
    (h : Nat) : ((n.modifyRoadm rh g).roadmAt? h).isSome = (n.roadmAt? h).isSome := by
  rw [Network.roadmAt?_modifyRoadm]
  split
  · rw [Option.isSome_map]
  · rfl

theorem Network.pendingMark_modifyRoadm_of_ne (n : Network) {rh h : Nat} (hne : rh ≠ h)
    (g : Roadm → Roadm) : (n.modifyRoadm rh g).pendingMark h = n.pendingMark h := by
  unfold pendingMark
  rw [Network.roadmAt?_modifyRoadm, if_neg hne]

/-- The trace of a propagation over a link of `L` is a delivery into the link's end. -/
theorem deliversInto_trace {L : Array Link} {l : Link} (hl : l ∈ L)
    (rest : List (String × Trace.AttrValue)) (hasParent : Bool) :
    (Event.traced (Trace.Span.internal "link/propagate" (("link", .str l.name) :: rest)
      hasParent)).deliversInto L l.dst = true := by
  have hname : (Event.traced (Trace.Span.internal "link/propagate" (("link", .str l.name) :: rest)
      hasParent)).tracedLink = some l.name := rfl
  simp only [Event.deliversInto, hname, Option.any_some, Array.any_eq_true', Bool.and_eq_true,
    beq_iff_eq]
  exact ⟨l, hl, rfl, rfl⟩

theorem Network.mem_links_of_outboundLink {n : Network} {node : Nat} {port : Int} {l : Link}
    (h : n.outboundLink node port = some l) : l ∈ n.links := by
  unfold outboundLink at h
  obtain ⟨i, -, hi⟩ := Option.bind_eq_some_iff.mp h
  exact Array.mem_of_getElem? hi

namespace Flow

/-- Every delivery of a fan-out goes over a link one of its ports carries. -/
theorem link_mem_of_deliveries {items : List (Option Link × ChannelSet)}
    {x : Link × ChannelSet × Bool} (hx : x ∈ deliveries items) : (some x.1, x.2.1) ∈ items := by
  induction items with
  | nil => cases hx
  | cons it items ih =>
    obtain ⟨_ | l, set⟩ := it
    · exact List.mem_cons_of_mem _ (ih hx)
    · rcases List.mem_cons.mp hx with rfl | hx
      · exact List.mem_cons_self
      · exact List.mem_cons_of_mem _ (ih hx)

/-- The switching rounds the pass has counted against the ROADM with this handle. -/
def switchCount (f : Flow) (h : Nat) : Nat := f.pass.switches.getD h 0

/-- The propagations into the node `h` over links of the network that the pass has traced. -/
def tracedInto (f : Flow) (h : Nat) : Nat :=
  (f.pass.events.toList.filter (Event.deliversInto f.net.links h)).length

theorem switchCount_fresh (net : Network) (id : Nat) (kind origin : String) (safe : Bool)
    (h : Nat) : (Flow.mk net ⟨id, kind, origin, safe, #[], {}, #[]⟩).switchCount h = 0 :=
  Std.TreeMap.getD_emptyc

theorem tracedInto_fresh (net : Network) (id : Nat) (kind origin : String) (safe : Bool)
    (h : Nat) : (Flow.mk net ⟨id, kind, origin, safe, #[], {}, #[]⟩).tracedInto h = 0 := rfl

theorem tracedInto_le {f g : Flow} (hl : g.net.links = f.net.links)
    (he : f.pass.events.toList <+: g.pass.events.toList) (h : Nat) :
    f.tracedInto h ≤ g.tracedInto h := by
  unfold tracedInto
  rw [hl]
  exact (he.filter _).length_le

theorem tracedInto_emit (f : Flow) (e : Event) (h : Nat) :
    (f.emit e).tracedInto h = f.tracedInto h + if e.deliversInto f.net.links h then 1 else 0 := by
  unfold tracedInto
  simp only [emit, Array.toList_push, List.filter_append, List.length_append]
  split <;> simp [*]

/-! ### Steps that switch nothing -/

/-- A step of a pass that switches nothing: the links, the switch budget, the switch counts and
the pending inputs of every ROADM stay, no limit failure is added, and events are only
appended. -/
structure Plain (f g : Flow) : Prop where
  links : g.net.links = f.net.links
  budget : g.net.maxSwitches = f.net.maxSwitches
  switches : g.pass.switches = f.pass.switches
  pending : ∀ h, (g.net.roadmAt? h).map (·.pending) = (f.net.roadmAt? h).map (·.pending)
  events : f.pass.events.toList <+: g.pass.events.toList
  limits : ∀ e ∈ g.pass.errors.toList, e.is .propagationLimit → e ∈ f.pass.errors.toList

theorem Plain.refl (f : Flow) : Plain f f :=
  ⟨rfl, rfl, rfl, fun _ => rfl, List.prefix_refl _, fun _ he _ => he⟩

theorem Plain.trans {f g k : Flow} (h₁ : Plain f g) (h₂ : Plain g k) : Plain f k :=
  ⟨h₂.links.trans h₁.links, h₂.budget.trans h₁.budget, h₂.switches.trans h₁.switches,
    fun h => (h₂.pending h).trans (h₁.pending h), h₁.events.trans h₂.events,
    fun e he hk => h₁.limits e (h₂.limits e he hk) hk⟩

theorem Plain.tracedInto_le {f g : Flow} (hp : Plain f g) (h : Nat) :
    f.tracedInto h ≤ g.tracedInto h :=
  Flow.tracedInto_le hp.links hp.events h

theorem Plain.switchCount_eq {f g : Flow} (hp : Plain f g) (h : Nat) :
    g.switchCount h = f.switchCount h := by
  unfold switchCount
  rw [hp.switches]

theorem plain_foldl {α : Type} (l : List α) (op : Flow → α → Flow)
    (hop : ∀ g a, Plain g (op g a)) (f : Flow) : Plain f (l.foldl op f) := by
  induction l generalizing f with
  | nil => exact Plain.refl f
  | cons a l ih => exact (hop f a).trans (ih (op f a))

theorem plain_foldl_fst {α β : Type} (l : List α) (op : Flow × β → α → Flow × β)
    (hop : ∀ p a, Plain p.1 (op p a).1) (p : Flow × β) : Plain p.1 (l.foldl op p).1 := by
  induction l generalizing p with
  | nil => exact Plain.refl p.1
  | cons a l ih => exact (hop p a).trans (ih (op p a))

theorem plain_update (f : Flow) {u : Network → Network} (hl : (u f.net).links = f.net.links)
    (hb : (u f.net).maxSwitches = f.net.maxSwitches)
    (hp : ∀ h, ((u f.net).roadmAt? h).map (·.pending) = (f.net.roadmAt? h).map (·.pending)) :
    Plain f (f.update u) :=
  ⟨hl, hb, rfl, hp, List.prefix_refl _, fun _ he _ => he⟩

theorem plain_emit (f : Flow) (e : Event) : Plain f (f.emit e) :=
  ⟨rfl, rfl, rfl, fun _ => rfl, ⟨[e], by simp [emit]⟩, fun _ he _ => he⟩

theorem plain_debug (f : Flow) (msg : String) (attrs : List Log.Attr) : Plain f (f.debug msg attrs) :=
  plain_emit _ _

theorem plain_drop (f : Flow) (node : String) (reason : DropReason) (ch : Int) :
    Plain f (f.drop node reason ch) :=
  (plain_emit _ _).trans (plain_debug _ _ _)

/-- A failure that is no limit failure. -/
theorem plain_fail {e : Failure} (f : Flow) (he : e.is .propagationLimit = false) :
    Plain f (f.fail e) := by
  refine ⟨rfl, rfl, rfl, fun _ => rfl, List.prefix_refl _, fun e' he' hk => ?_⟩
  simp only [fail, Array.toList_push, List.mem_append, List.mem_singleton] at he'
  rcases he' with he' | rfl
  · exact he'
  · rw [he] at hk
    cases hk

theorem plain_loop (f : Flow) (node : String) (ch : Int) : Plain f (f.loop node ch) := by
  simp only [loop]
  split
  · exact plain_drop f node .loop ch
  · exact (plain_drop f node .loop ch).trans (plain_fail _ rfl)

theorem plain_visit (f : Flow) (c : Carrier) (loc : Location) (exit : SignalState) :
    Plain f (f.visit c loc exit) :=
  plain_update f rfl rfl fun _ => rfl

theorem plain_modifyAmp (f : Flow) (h : Nat) (g : Amplifier → Amplifier) :
    Plain f (f.update (·.modifyAmp h g)) :=
  plain_update f rfl rfl fun _ => rfl

theorem plain_modifySpan (f : Flow) (h : Nat) (g : Span → Span) :
    Plain f (f.update (·.modifySpan h g)) :=
  plain_update f rfl rfl fun _ => rfl

theorem plain_modifyTerminal (f : Flow) (th : Nat) (g : Terminal → Terminal) :
    Plain f (f.update (·.modifyTerminal th g)) :=
  plain_update f rfl rfl fun h => by rw [Network.roadmAt?_modifyTerminal]

/-- A change of a ROADM that leaves its pending inputs alone. -/
theorem plain_modifyRoadm (f : Flow) (rh : Nat) {g : Roadm → Roadm}
    (hg : ∀ r, (g r).pending = r.pending) : Plain f (f.update (·.modifyRoadm rh g)) := by
  refine plain_update f rfl rfl fun h => ?_
  rw [Network.roadmAt?_modifyRoadm]
  split
  · rw [Option.map_map]
    exact Option.map_congr fun r _ => hg r
  · rfl

theorem plain_stamp (f : Flow) (loc : Location) (set : ChannelSet) : Plain f (f.stamp loc set).1 :=
  plain_foldl set _ (fun g c => plain_visit g c loc c.state) f

theorem plain_visitAll (f : Flow) (loc : Location) (set out : ChannelSet) :
    Plain f (f.visitAll loc set out) := by
  refine plain_foldl _ _ (fun g co => ?_) f
  exact plain_visit g co.1 loc co.2.state

theorem plain_amplify (f : Flow) (h : Nat) (set : ChannelSet) : Plain f (f.amplify h set).1 := by
  unfold amplify
  split
  · exact Plain.refl f
  · split
    · exact plain_modifyAmp f h _
    · exact ((plain_emit _ _).trans (plain_visitAll _ _ _ _)).trans (plain_modifyAmp _ h _)

theorem plain_transmit (f : Flow) (h : Nat) (m : RamanModel) (set : ChannelSet) :
    Plain f (f.transmit h m set).1 := by
  unfold transmit
  split
  · exact Plain.refl f
  · split
    · exact plain_modifySpan f h _
    · exact (plain_visitAll _ _ _ _).trans (plain_modifySpan _ h _)

theorem plain_traverse (f : Flow) (l : Link) (set : ChannelSet) : Plain f (f.traverse l set).1 := by
  unfold traverse
  -- the link's boost first, then a span and its amplifier for every hop
  refine Plain.trans ?_ (plain_foldl_fst _ _ (fun p h => ?_) _)
  · split
    · exact plain_amplify f _ set
    · exact Plain.refl f
  · obtain ⟨g, cur⟩ := p
    have ht := plain_transmit g h.span l.raman cur
    rcases hx : g.transmit h.span l.raman cur with ⟨g', cur'⟩
    rw [hx] at ht
    simp only [hx]
    split
    · exact ht.trans (plain_amplify g' _ cur')
    · exact ht

theorem plain_dropUnrouted (f : Flow) (r : Roadm) (i : Int) (set : ChannelSet) :
    Plain f (f.dropUnrouted r i set) := by
  refine plain_foldl set _ (fun g c => ?_) f
  split
  · exact plain_drop _ _ _ _
  · exact Plain.refl g

theorem plain_preamplify (f : Flow) (r : Roadm) (i : Int) : Plain f (f.preamplify r i).1 := by
  have hd := plain_dropUnrouted f r i (r.portSet i true)
  unfold preamplify
  dsimp only
  split
  · exact hd
  · split
    · split
      · exact hd
      · exact hd.trans (plain_amplify _ _ _)
    · exact hd.trans (plain_amplify _ _ _)

theorem plain_collectOutput (f : Flow) (r : Roadm) (rh : Nat) (out : Int) :
    Plain f (f.collectOutput r rh out).1 := by
  unfold collectOutput
  refine plain_foldl_fst _ _
    (fun (p : Flow × ChannelSet × Std.TreeMap Int Int) (ic : Int × Carrier) => ?_) (f, [], {})
  obtain ⟨g, set, src⟩ := p
  obtain ⟨i, c⟩ := ic
  dsimp only
  split
  · exact Plain.refl g
  · split
    · exact Plain.refl g
    · split
      · exact plain_drop _ _ _ _
      · exact plain_visit _ _ _ _

theorem plain_boostOutput (f : Flow) (r : Roadm) (rh : Nat) (out : Int) (set : ChannelSet) :
    Plain f (f.boostOutput r rh out set).1 := by
  unfold boostOutput
  split
  · split
    · split
      · exact Plain.refl f
      · exact plain_amplify _ _ _
    · exact plain_amplify _ _ _
  · exact Plain.refl f

theorem plain_switchOutput (f : Flow) (rh : Nat) (out : Int) : Plain f (f.switchOutput rh out).1 := by
  unfold switchOutput
  split
  · exact Plain.refl f
  · rename_i r _
    split
    rename_i g set src hc
    split
    rename_i g' set' hb
    have h₁ := plain_collectOutput f r rh out
    have h₂ := plain_boostOutput g r rh out set.sortByChannel
    rw [hc] at h₁
    rw [hb] at h₂
    exact h₁.trans (h₂.trans (plain_modifyRoadm g' rh fun _ => rfl))

theorem plain_dropUnbound (f : Flow) (t : Terminal) (port : Int) (set : ChannelSet) :
    Plain f (f.dropUnbound t port set) := by
  refine plain_foldl set _ (fun g c => ?_) f
  split
  · split
    · exact Plain.refl g
    · exact plain_drop _ _ _ _
  · exact plain_drop _ _ _ _

theorem plain_emitIf (f : Flow) (c : Prop) [Decidable c] (e : Event) :
    Plain f (if c then f.emit e else f) := by
  split
  · exact plain_emit f e
  · exact Plain.refl f

theorem plain_announce (f : Flow) (t : Terminal) (byPort : List (Int × List Report)) :
    Plain f (f.announce t byPort) := by
  unfold announce
  refine plain_foldl byPort _ (fun g x => ?_) f
  -- a verdict and perhaps a debug record per report, then perhaps the port's reports
  refine (plain_foldl x.2 _ (fun k rep => ?_) g).trans (plain_emitIf _ _ _)
  dsimp only
  split
  · exact plain_emit _ _
  · exact (plain_emit _ _).trans (plain_debug _ _ _)

theorem plain_deliverTerminal (f : Flow) (th : Nat) (port : Int) (set : ChannelSet)
    (isLast : Bool) : Plain f (f.deliverTerminal th port set isLast) := by
  unfold deliverTerminal
  split
  · exact Plain.refl f
  · rename_i t _
    dsimp only
    have hs := (plain_stamp f ⟨.nodeIn, th, port⟩ set).trans
      (plain_dropUnbound _ t port (f.stamp ⟨.nodeIn, th, port⟩ set).2)
    split
    · exact hs.trans (plain_modifyTerminal _ th _)
    · exact hs.trans ((plain_modifyTerminal _ th _).trans (plain_announce _ _ _))

theorem plain_dropLoops (f : Flow) (r : Roadm) (rh : Nat) (set : ChannelSet) :
    Plain f (f.dropLoops r rh set).1 := by
  refine plain_foldl_fst set _ (fun p c => ?_) (f, [])
  obtain ⟨g, kept⟩ := p
  dsimp only
  split
  · exact plain_loop _ _ _
  · exact Plain.refl g

theorem plain_dropUnlinked (f : Flow) (src : Nat) (resolved : List (Option Link × ChannelSet)) :
    Plain f (f.dropUnlinked src resolved) := by
  refine plain_foldl resolved _ (fun g ls => ?_) f
  obtain ⟨l?, set⟩ := ls
  dsimp only
  split
  · exact plain_foldl set _ (fun k c => plain_drop _ _ _ _) g
  · exact Plain.refl g

theorem plain_preamplifyInputs (f : Flow) (rh : Nat) (inPorts : List Int) :
    Plain f (f.preamplifyInputs rh inPorts) := by
  refine plain_foldl inPorts _ (fun g i => ?_) f
  split
  · rename_i r _
    exact (plain_preamplify g r i).trans (plain_modifyRoadm _ rh fun _ => rfl)
  · exact Plain.refl g

theorem plain_switchOutputs (f : Flow) (rh : Nat) (outs : List Int) :
    Plain f (f.switchOutputs rh outs).1 := by
  refine plain_foldl_fst outs _ (fun p o => ?_) (f, [])
  exact plain_switchOutput p.1 rh o

theorem plain_seed (f : Flow) (th : Nat) (port : Int) : Plain f (f.seed th port).1 := by
  unfold seed
  split
  · exact Plain.refl f
  · exact (plain_stamp _ _ _).trans (plain_modifyTerminal _ th _)

/-! ### Counting the rounds of a pass -/

/-- What a run of a pass keeps, and how its switching rounds are paid for: the links, the
switch budget and the ROADMs stay, switch counts only grow, every limit failure the run adds
comes with a ROADM whose count has passed the budget, and the rounds a ROADM starts, with one
more for an input left pending, are paid for by the deliveries into it that the run traces. -/
structure Tally (f g : Flow) : Prop where
  links : g.net.links = f.net.links
  budget : g.net.maxSwitches = f.net.maxSwitches
  roadms : ∀ h, (g.net.roadmAt? h).isSome = (f.net.roadmAt? h).isSome
  counts : ∀ h, f.switchCount h ≤ g.switchCount h
  paid : ∀ h, g.switchCount h + g.net.pendingMark h + f.tracedInto h ≤
    f.switchCount h + f.net.pendingMark h + g.tracedInto h
  limits : ∀ e ∈ g.pass.errors.toList, e.is .propagationLimit →
    e ∈ f.pass.errors.toList ∨ ∃ h, (g.net.roadmAt? h).isSome ∧ g.net.maxSwitches < g.switchCount h

theorem Tally.refl (f : Flow) : Tally f f :=
  ⟨rfl, rfl, fun _ => rfl, fun _ => Nat.le_refl _, fun _ => Nat.le_refl _, fun _ he _ => .inl he⟩

theorem Tally.trans {f g k : Flow} (h₁ : Tally f g) (h₂ : Tally g k) : Tally f k := by
  refine ⟨h₂.links.trans h₁.links, h₂.budget.trans h₁.budget,
    fun h => (h₂.roadms h).trans (h₁.roadms h), fun h => (h₁.counts h).trans (h₂.counts h),
    fun h => ?_, fun e he hk => ?_⟩
  · have := h₁.paid h
    have := h₂.paid h
    omega
  · rcases h₂.limits e he hk with he' | hover
    · rcases h₁.limits e he' hk with he'' | ⟨h, hsome, hlt⟩
      · exact .inl he''
      · -- the count that passed the budget at `g` has only grown since
        refine .inr ⟨h, (h₂.roadms h).trans hsome, ?_⟩
        rw [h₂.budget]
        exact Nat.lt_of_lt_of_le hlt (h₂.counts h)
    · exact .inr hover

theorem Tally.of_plain {f g : Flow} (hp : Plain f g) : Tally f g := by
  refine ⟨hp.links, hp.budget, fun h => ?_, fun h => (hp.switchCount_eq h).ge, fun h => ?_,
    fun e he hk => .inl (hp.limits e he hk)⟩
  · rw [← Option.isSome_map (f := (·.pending)), hp.pending h, Option.isSome_map]
  · rw [hp.switchCount_eq h, Network.pendingMark_congr (hp.pending h)]
    have := hp.tracedInto_le h
    omega

/-- A delivery into a ROADM: after steps that switch nothing and have traced one more delivery
into it, the ROADM's port state changes, which leaves at most one input pending that the
delivery pays for. -/
theorem Tally.of_delivery {f g : Flow} {rh : Nat} (hp : Plain f g)
    (hD : f.tracedInto rh < g.tracedInto rh) (u : Roadm → Roadm) :
    Tally f (g.update (·.modifyRoadm rh u)) := by
  have hg : Tally f g := .of_plain hp
  have hsome := Network.isSome_roadmAt?_modifyRoadm g.net rh u
  refine ⟨hg.links, hg.budget, fun h => (hsome h).trans (hg.roadms h), hg.counts, fun h => ?_,
    fun e he hk => ?_⟩
  · have hc := hp.switchCount_eq h
    have htr : (g.update (·.modifyRoadm rh u)).tracedInto h = g.tracedInto h := rfl
    have hsw : (g.update (·.modifyRoadm rh u)).switchCount h = g.switchCount h := rfl
    rw [htr, hsw]
    by_cases hrh : rh = h
    · -- the delivery traced before pays for the input it leaves pending
      subst hrh
      have := Network.pendingMark_le_one (g.update (·.modifyRoadm rh u)).net rh
      omega
    · have hm : g.net.pendingMark h = f.net.pendingMark h :=
        Network.pendingMark_congr (hp.pending h)
      have := hp.tracedInto_le h
      simp only [update]
      rw [Network.pendingMark_modifyRoadm_of_ne _ hrh]
      omega
  · rcases hg.limits e he hk with he' | ⟨h, hs, hlt⟩
    · exact .inl he'
    · exact .inr ⟨h, (hsome h).trans hs, hlt⟩

/-- A failure raised while some ROADM's count has passed the budget. -/
theorem tally_fail_of_over {f : Flow} (e : Failure)
    (hover : ∃ h, (f.net.roadmAt? h).isSome ∧ f.net.maxSwitches < f.switchCount h) :
    Tally f (f.fail e) := by
  refine ⟨rfl, rfl, fun _ => rfl, fun _ => Nat.le_refl _, fun _ => Nat.le_refl _,
    fun e' he' _ => ?_⟩
  simp only [fail, Array.toList_push, List.mem_append, List.mem_singleton] at he'
  rcases he' with he' | rfl
  · exact .inl he'
  · exact .inr hover

/-- A round of a switching loop: the ROADM's count goes up by one and the pending inputs that
paid for it are cleared. -/
theorem tally_round {f : Flow} {rh : Nat} {r : Roadm} (hr : f.net.roadmAt? rh = some r)
    (hpen : r.pending.isEmpty = false) :
    Tally f (({ f with pass := { f.pass with
      switches := f.pass.switches.insert rh (f.pass.switches.getD rh 0 + 1) } } : Flow).update
        (·.modifyRoadm rh ({ · with pending := {} }))) := by
  refine ⟨rfl, rfl, fun h => ?_, fun h => getD_le_getD_insert_succ _ rh h, fun h => ?_,
    fun e he _ => .inl he⟩
  · exact Network.isSome_roadmAt?_modifyRoadm _ rh _ h
  · -- the round traces nothing
    show _ + _ + _ ≤ _ + _ + f.tracedInto h
    simp only [switchCount, update]
    rw [Std.TreeMap.getD_insert]
    by_cases hrh : rh = h
    · subst hrh
      have hcleared : (f.net.modifyRoadm rh ({ · with pending := {} })).pendingMark rh = 0 := by
        simp [Network.pendingMark, Network.roadmAt?_modifyRoadm, hr]
      have hmark : f.net.pendingMark rh = 1 := by
        simp [Network.pendingMark, hr, hpen]
      rw [if_pos (Std.ReflCmp.compare_self), hcleared, hmark]
    · have hne : compare rh h ≠ .eq := fun heq => hrh (Std.LawfulEqCmp.eq_of_compare heq)
      rw [if_neg hne, Network.pendingMark_modifyRoadm_of_ne _ hrh]

section Switching

variable {sw : Flow → Nat → Flow}

/-- A delivery into a ROADM that the pass has traced: the arrivals are accepted at the port,
and the last delivery of a fan-out may make the ROADM switch. -/
theorem tally_deliverRoadm (hsw : ∀ g rh, Tally g (sw g rh)) {f g : Flow} {rh : Nat}
    (hp : Plain f g) (hD : f.tracedInto rh < g.tracedInto rh) (port : Int) (set : ChannelSet)
    (isLast : Bool) : Tally f (g.deliverRoadm sw rh port set isLast) := by
  unfold deliverRoadm
  split
  · exact .of_plain hp
  · rename_i r _
    dsimp only
    -- loops are dropped and the rest stamped before the port state changes
    have hacc : Tally f (g.acceptAt r rh port set) := by
      unfold acceptAt
      split
      rename_i g₁ kept hl
      split
      rename_i g₂ kept' hs
      have h₁ := plain_dropLoops g r rh set
      have h₂ := plain_stamp g₁ ⟨.nodeIn, rh, port⟩ kept
      rw [hl] at h₁
      rw [hs] at h₂
      exact .of_delivery (hp.trans (h₁.trans h₂))
        (Nat.lt_of_lt_of_le hD ((h₁.trans h₂).tracedInto_le rh)) _
    split
    · exact hacc
    · exact hacc.trans (hsw _ rh)

/-- A propagation over a link of the network: the pass traces it, then runs the set over the
link and delivers it to the node at the link's end. -/
theorem tally_propagateLink (hsw : ∀ g rh, Tally g (sw g rh)) {f : Flow} {l : Link}
    (hl : l ∈ f.net.links) (set : ChannelSet) (isLast : Bool) :
    Tally f (f.propagateLink sw l set isLast) := by
  unfold propagateLink
  dsimp only
  have hp : ∀ e, Plain f ((f.emit e).traverse l set).1 := fun e =>
    (plain_emit f e).trans (plain_traverse _ l set)
  have hD : ∀ e, e.deliversInto f.net.links l.dst = true →
      f.tracedInto l.dst < ((f.emit e).traverse l set).1.tracedInto l.dst := fun e he => by
    have h := (plain_traverse (f.emit e) l set).tracedInto_le l.dst
    rw [tracedInto_emit, if_pos he] at h
    omega
  split
  · exact tally_deliverRoadm hsw (hp _) (hD _ (deliversInto_trace hl _ _)) _ _ _
  · exact .of_plain ((hp _).trans (plain_deliverTerminal _ _ _ _ _))
  · exact .of_plain (hp _)

/-- A fold of steps, each counted from every flow that still has the links `L`. -/
theorem tally_foldl {α : Type} (l : List α) (op : Flow → α → Flow) {L : Array Link}
    (hop : ∀ g, g.net.links = L → ∀ a ∈ l, Tally g (op g a)) (f : Flow) (hf : f.net.links = L) :
    Tally f (l.foldl op f) := by
  induction l generalizing f with
  | nil => exact Tally.refl f
  | cons a l ih =>
    have h₁ := hop f hf a List.mem_cons_self
    exact h₁.trans (ih (fun g hg b hb => hop g hg b (List.mem_cons_of_mem _ hb)) _
      (h₁.links.trans hf))

/-- A fan-out pays for its rounds: each delivery goes over a link of the network. -/
theorem tally_fanOut (hsw : ∀ g rh, Tally g (sw g rh)) (f : Flow) (src : Nat)
    (items : List (Int × ChannelSet)) : Tally f (f.fanOut sw src items) := by
  unfold fanOut
  dsimp only
  refine (Tally.of_plain (plain_dropUnlinked _ _ _)).trans
    (tally_foldl _ _ (L := f.net.links) (fun g hg x hx => ?_) _ (plain_dropUnlinked _ _ _).links)
  obtain ⟨⟨port, set'⟩, -, hx'⟩ := List.mem_map.mp (link_mem_of_deliveries hx)
  simp only [Prod.mk.injEq] at hx'
  obtain ⟨l, set, isLast⟩ := x
  exact tally_propagateLink hsw (hg ▸ Network.mem_links_of_outboundLink hx'.1) set isLast

end Switching

/-- Every round of a switching loop is paid for by the inputs it clears; the round past the
budget fails the pass with the ROADM's count over the budget. -/
theorem tally_switchLoop {fan : Flow → List (Int × ChannelSet) → Flow}
    (hfan : ∀ g items, Tally g (fan g items)) (f : Flow) (rh rounds : Nat) :
    Tally f (f.switchLoop fan rh rounds) := by
  induction rounds generalizing f with
  | zero => exact Tally.refl f
  | succ rounds ih =>
    unfold switchLoop
    split
    · exact Tally.refl f
    · rename_i r hr
      split
      · exact Tally.refl f
      · rename_i hpen
        have hround := tally_round hr (Bool.eq_false_iff.mpr hpen)
        dsimp only
        split
        · rename_i hover
          refine hround.trans (tally_fail_of_over _ ⟨rh, ?_, ?_⟩)
          · exact (Network.isSome_roadmAt?_modifyRoadm f.net rh _ rh).trans (by rw [hr]; rfl)
          · simp only [switchCount, update, Std.TreeMap.getD_insert_self]
            exact hover
        · exact hround.trans ((Tally.of_plain ((plain_preamplifyInputs _ rh _).trans
            (plain_switchOutputs _ rh _))).trans ((hfan _ _).trans (ih _)))

/-- `switchRoadm` pays for its rounds at every depth. -/
theorem tally_switchRoadm (depth : Nat) : ∀ g rh, Tally g (switchRoadm depth g rh) := by
  induction depth with
  | zero => exact fun g _ => Tally.refl g
  | succ depth ih =>
    intro g rh
    simp only [switchRoadm]
    have hbusy : ∀ (k : Flow) (b : Bool),
        Tally k (k.update (·.modifyRoadm rh ({ · with busy := b }))) :=
      fun k b => .of_plain (plain_modifyRoadm k rh fun _ => rfl)
    exact (hbusy _ true).trans ((tally_switchLoop (fun k items => tally_fanOut ih k rh items)
      _ rh _).trans (hbusy _ false))

end Flow

theorem Failure.is_join {es : List Failure} {k : Kind} :
    (Failure.join es).is k = true ↔ ∃ e ∈ es, e.is k = true := by
  simp only [Failure.is, Failure.join, List.contains_iff_mem, List.mem_flatMap]

/-- A launch is counted from its start: the network with the pass counter raised and a fresh
pass, to the flow whose network, error and events (less the closing records) the launch
returns. -/
theorem Network.launch_tally (n : Network) (t : Terminal) (ports : List Int) (safe : Bool)
    (kind : String) :
    ∃ g : Flow, Flow.Tally ⟨{ n with passSeq := n.passSeq + 1 },
        ⟨n.passSeq + 1, kind, t.name, safe, #[], {}, #[]⟩⟩ g ∧
      (n.launch t ports safe kind).net = g.net ∧
      (n.launch t ports safe kind).error =
        (if g.pass.errors.isEmpty then none else some (Failure.join g.pass.errors.toList)) ∧
      g.pass.events.toList <+: (n.launch t ports safe kind).events := by
  unfold Network.launch
  dsimp only
  refine ⟨_, (Flow.Tally.of_plain (Flow.plain_foldl_fst ports _ (fun p port => ?_) (_, []))).trans
    (Flow.tally_fanOut (Flow.tally_switchRoadm _) _ _ _), rfl, rfl, ?_⟩
  · obtain ⟨g, items⟩ := p
    dsimp only
    exact Flow.plain_seed g t.handle port
  · simp only [Flow.debug, Flow.emit, Array.toList_push, List.append_assoc]
    exact List.prefix_append _ _

/-- A pass fails with the propagation limit only when more than `maxSwitches` deliveries reach
one ROADM in it. Starting from a network with nothing pending, every limit failure comes from a
ROADM whose switch count has passed the budget, and each of its rounds was paid for by a
delivery into it that the pass traced; so the events of the launch hold more than
`maxSwitches` propagations over links into that ROADM. -/
theorem Network.launch_limit_needs_deliveries {n : Network}
    (hsettled : ∀ rh r, n.roadmAt? rh = some r → r.pending.isEmpty)
    (src : Terminal) (ports : List Int) (safe : Bool) (kind : String) {e : Failure}
    (he : (n.launch src ports safe kind).error = some e) (hk : e.is .propagationLimit) :
    ∃ rh r, n.roadmAt? rh = some r ∧ n.maxSwitches <
      ((n.launch src ports safe kind).events.filter (Event.deliversInto n.links rh)).length := by
  obtain ⟨g, hT, -, herr, hev⟩ := n.launch_tally src ports safe kind
  -- the launch's failure joins the failures of the pass, and one of them is a limit failure
  obtain ⟨e', he', hk'⟩ : ∃ e' ∈ g.pass.errors.toList, e'.is .propagationLimit := by
    rw [herr] at he
    split at he
    · cases he
    · rw [Option.some.injEq] at he
      rw [← he] at hk
      exact Failure.is_join.mp hk
  rcases hT.limits e' he' hk' with hnil | ⟨h, hsome, hover⟩
  · simp at hnil
  obtain ⟨r, hr⟩ := Option.isSome_iff_exists.mp ((hT.roadms h).symm.trans hsome)
  have hr' : n.roadmAt? h = some r := hr
  -- the pass starts with nothing counted, pending or traced
  have hmark : ({ n with passSeq := n.passSeq + 1 } : Network).pendingMark h = 0 := by
    show n.pendingMark h = 0
    simp [Network.pendingMark, hr', hsettled h r hr']
  have hpaid := hT.paid h
  rw [Flow.switchCount_fresh, Flow.tracedInto_fresh, hmark] at hpaid
  have htraced : g.tracedInto h ≤
      ((n.launch src ports safe kind).events.filter (Event.deliversInto n.links h)).length := by
    unfold Flow.tracedInto
    rw [hT.links]
    exact (hev.filter _).length_le
  rw [hT.budget] at hover
  change n.maxSwitches < g.switchCount h at hover
  exact ⟨h, r, hr', by omega⟩

/-- Two fan-outs that end at one ROADM, with no loop: terminal `t` feeds ROADMs `b1` and `b2`,
which both feed `x`. With a budget of one switch, `x` switches once for each of them, and the
launch fails with the propagation limit after two deliveries into `x`. -/
theorem Network.merging_fanouts_reach_limit :
    let n := ([.terminal "t" [], .roadm "b1" ⟨0, none, [], []⟩, .roadm "b2" ⟨0, none, [], []⟩,
      .roadm "x" ⟨0, none, [], []⟩, .link ⟨"t-b1", "t", "b1", 1, 1, "", [], ""⟩,
      .link ⟨"t-b2", "t", "b2", 2, 1, "", [], ""⟩, .link ⟨"b1-x", "b1", "x", 1, 1, "", [], ""⟩,
      .link ⟨"b2-x", "b2", "x", 1, 2, "", [], ""⟩] : List Addition).foldl add (empty 1)
    let n := ((n.execute (.installRule "b1" "a" 1 1 [1])).net.execute
      (.installRule "b2" "b" 1 1 [1])).net
    let o := n.launch ⟨0, "t", [], {}, {}, {}, {}, {}, {}, {}, false⟩ [1, 2] false "turn_on"
    o.error.map (·.is .propagationLimit) = some true ∧
      ∃ rh r, n.roadmAt? rh = some r ∧
        n.maxSwitches < (o.events.filter (Event.deliversInto n.links rh)).length := by
  intro n₀ n o
  have herr : o.error.map (·.is .propagationLimit) = some true := by decide +kernel
  obtain ⟨e, he, hk⟩ := Option.map_eq_some_iff.mp herr
  refine ⟨herr, @launch_limit_needs_deliveries n (fun rh r hr => ?_) _ [1, 2] false "turn_on" e
    he hk⟩
  -- the built network has four nodes, none with a pending input
  have hsize : n.nodes.size = 4 := by decide +kernel
  have hall : ∀ i < 4, (n.roadmAt? i).all (·.pending.isEmpty) = true := by decide +kernel
  have hlt : rh < 4 := by
    by_contra hge
    rw [roadmAt?, Array.getElem?_eq_none (by omega)] at hr
    cases hr
  have hr' := hall rh hlt
  rw [hr] at hr'
  exact hr'

/-- `k` ROADMs `b1`, …, `bk` that merge into one ROADM `x`, as a description: terminal `t1`
sends channel `i` on its port `i` to `bi`, whose rule `r` routes it on to input `i` of `x`. -/
def Description.fanIn (k : Nat) : Description :=
  let b := fun i : Nat => "b" ++ toString (i + 1)
  ⟨"", [], [⟨"t1", (List.range k).map fun i => ⟨i + 1, "", 0, "", 0⟩⟩],
    ((List.range k).map b ++ ["x"]).map (⟨·, ⟨0, none, [], []⟩⟩),
    (List.range k).flatMap (fun i => [⟨"", "t1", b i, i + 1, 1, "", some [], ""⟩,
      ⟨"", b i, "x", 1, i + 1, "", some [], ""⟩]),
    some ⟨(List.range k).map (fun i => ⟨b i, "r", 1, 1, some [i + 1]⟩), [],
      (List.range k).map (fun i => ⟨"t1", i + 1, i + 1, i + 1⟩), [], [], false⟩⟩

/-- Fan-outs that merge at one ROADM reach the switch budget with no loop: the description of
three branches builds with a budget of two switches, every link leads to a node added after its
source, so no walk revisits a node, and its control section applies; yet `x` starts one
switching round for each `bi` whose fan-out ends there, and turning `t1` off fails with the
propagation limit. The default budget of 64 is reached in the same way by 65 branches. -/
theorem Description.merging_fanouts_exceed_budget :
    ∃ n, (fanIn 3).build 2 = .ok n ∧ n.maxSwitches = 2 ∧
      (∀ l ∈ n.links, l.src < l.dst) ∧ (applyControl (fanIn 3).control n).error = none ∧
      ((applyControl (fanIn 3).control n).net.execute (.turnOff "t1" [])).error.map
        (·.is .propagationLimit) = some true := by
  -- validation sorts the node names, which the kernel does not evaluate: their being distinct
  -- is checked instead
  have hnodup : (namesGiven ((fanIn 3).terminals.map (·.name)) ++
      namesGiven ((fanIn 3).roadms.map (·.name))).Nodup := by decide +kernel
  have hproblems : (fanIn 3).problems = [] := by
    rw [Description.problems, duplicates_eq_nil_of_nodup "node" hnodup]
    decide +kernel
  have hvalid : (fanIn 3).validate = .ok () :=
    Description.validate_eq_ok_iff.mpr hproblems
  refine ⟨_, Except.eq_ok_getD (Network.empty 0) ?_, ?_⟩
  · rw [Description.build, hvalid]
    decide +kernel
  · rw [Description.build, hvalid]
    decide +kernel

end WdmNet

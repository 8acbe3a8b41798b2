import WdmNet.Proofs.Network.Bindings
import WdmNet.Proofs.Signal.ChannelOrder
/-!
Stored channel sets stay sound across a pass.

A network stores channel sets wherever carriers pass: a ROADM keeps the arrivals and the
processed set of each input port and the set of each output port, a terminal the arrivals and
departures of its ports, and an amplifier or a span the carriers that last crossed it.
`Network.SetsSound index` says that every one of them is sound for `index`: in strictly
increasing channel order, each carrier on the channel of its signal (`ChannelSet.Sound`).

A pass keeps this. It never changes the channel of a signal (`signalChannel_closed`), and each
function of the engine turns sound sets into sound sets: amplifiers and spans change only what
carriers carry, loop detection drops some, an output is collected one channel at a time and
then sorted, and a terminal seeds a port from its transmit bindings, which are filed under the
channels of their signals (`Network.BindingsSound`). The proofs follow the engine function by
function; the switching of ROADMs is taken by induction on its depth budget.

Main statement: `Network.SetsSound.launch`.
-/

namespace WdmNet

open ChannelSet

variable {index index' : Nat → Option Int}

namespace Roadm

/-- Every channel set a ROADM stores is sound: the arrivals and the processed set of each
input, and the set of each output. -/
structure SetsSound (index : Nat → Option Int) (r : Roadm) : Prop where
  inSets : TableSound index r.inSets
  inProc : TableSound index r.inProc
  outSets : TableSound index r.outSets

theorem SetsSound.mono {r : Roadm} (h : r.SetsSound index)
    (hi : ∀ {i ch}, index i = some ch → index' i = some ch) : r.SetsSound index' :=
  ⟨h.inSets.mono hi, h.inProc.mono hi, h.outSets.mono hi⟩

theorem SetsSound.accept {r : Roadm} (h : r.SetsSound index) (pass : Nat) (port : Int)
    {set : ChannelSet} (hs : ChannelSet.Sound index set) : (r.accept pass port set).SetsSound index :=
  ⟨h.inSets.insert port hs, h.inProc, h.outSets⟩

end Roadm

namespace Terminal

/-- Every channel set a terminal stores is sound: the arrivals and the departures of each
port. -/
structure SetsSound (index : Nat → Option Int) (t : Terminal) : Prop where
  inSets : TableSound index t.inSets
  outSets : TableSound index t.outSets

theorem SetsSound.mono {t : Terminal} (h : t.SetsSound index)
    (hi : ∀ {i ch}, index i = some ch → index' i = some ch) : t.SetsSound index' :=
  ⟨h.inSets.mono hi, h.outSets.mono hi⟩

theorem SetsSound.accept {t : Terminal} (h : t.SetsSound index) (pass : Nat) (port : Int)
    {set : ChannelSet} (hs : Sound index set) : (t.accept pass port set).SetsSound index :=
  ⟨h.inSets.insert port hs, h.outSets⟩

theorem SetsSound.receive {t : Terminal} (h : t.SetsSound index) (rate : Nat → Float) :
    (t.receive rate).2.SetsSound index :=
  ⟨h.inSets, h.outSets⟩

end Terminal

/-- The carriers of a component changed in place stay sound if the change keeps them so. -/
theorem sound_of_getElem?_modify {α : Type} {xs : Array α} {i j : Nat} {g : α → α}
    {carriers : α → ChannelSet} {a : α}
    (hxs : ∀ {j : Nat} {a : α}, xs[j]? = some a → Sound index (carriers a))
    (hg : ∀ a, xs[i]? = some a → Sound index (carriers (g a))) (ha : (xs.modify i g)[j]? = some a) :
    Sound index (carriers a) := by
  rw [Array.getElem?_modify] at ha
  split at ha
  · rename_i hij
    subst hij
    obtain ⟨a₀, h₀, rfl⟩ := Option.map_eq_some_iff.mp ha
    exact hg a₀ h₀
  · exact hxs ha

namespace Network

/-- Every channel set the network stores is sound: those of its ROADMs and terminals, and the
carriers that last crossed each amplifier and each span. -/
structure SetsSound (index : Nat → Option Int) (n : Network) : Prop where
  roadm : ∀ {h : Nat} {r : Roadm}, n.roadmAt? h = some r → r.SetsSound index
  terminal : ∀ {h : Nat} {t : Terminal}, n.terminalAt? h = some t → t.SetsSound index
  amp : ∀ {h : Nat} {a : Amplifier}, n.amps[h]? = some a → Sound index a.signals
  span : ∀ {h : Nat} {s : Span}, n.spans[h]? = some s → Sound index s.signals

variable {n m : Network}

/-- Only the nodes, amplifiers and spans hold channel sets. -/
theorem SetsSound.of_frame (h : n.SetsSound index) (hn : m.nodes = n.nodes) (ha : m.amps = n.amps)
    (hs : m.spans = n.spans) : m.SetsSound index where
  roadm hr := h.roadm ((roadmAt?_of_nodes hn _).symm.trans hr)
  terminal ht := h.terminal ((terminalAt?_of_nodes hn _).symm.trans ht)
  amp ha' := h.amp (by rwa [ha] at ha')
  span hs' := h.span (by rwa [hs] at hs')

/-- Sound sets stay sound when more signals get a channel. -/
theorem SetsSound.mono (h : n.SetsSound index)
    (hi : ∀ {i ch}, index i = some ch → index' i = some ch) : n.SetsSound index' where
  roadm hr := (h.roadm hr).mono hi
  terminal ht := (h.terminal ht).mono hi
  amp ha := (h.amp ha).mono hi
  span hs := (h.span hs).mono hi

theorem SetsSound.modifyRoadm (h : n.SetsSound index) (rh : Nat) {g : Roadm → Roadm}
    (hg : ∀ r, n.roadmAt? rh = some r → (g r).SetsSound index) :
    (n.modifyRoadm rh g).SetsSound index where
  roadm {j _} hr := by
    rw [roadmAt?_modifyRoadm] at hr
    split at hr
    · rename_i hj
      subst hj
      obtain ⟨r₀, h₀, rfl⟩ := Option.map_eq_some_iff.mp hr
      exact hg r₀ h₀
    · exact h.roadm hr
  terminal ht := h.terminal (by rwa [terminalAt?_modifyRoadm] at ht)
  amp := h.amp
  span := h.span

theorem SetsSound.modifyTerminal (h : n.SetsSound index) (th : Nat) {g : Terminal → Terminal}
    (hg : ∀ t, n.terminalAt? th = some t → (g t).SetsSound index) :
    (n.modifyTerminal th g).SetsSound index where
  roadm hr := h.roadm (by rwa [roadmAt?_modifyTerminal] at hr)
  terminal {j _} ht := by
    rw [terminalAt?_modifyTerminal] at ht
    split at ht
    · rename_i hj
      subst hj
      obtain ⟨t₀, h₀, rfl⟩ := Option.map_eq_some_iff.mp ht
      exact hg t₀ h₀
    · exact h.terminal ht
  amp := h.amp
  span := h.span

theorem SetsSound.modifyAmp (h : n.SetsSound index) (i : Nat) {g : Amplifier → Amplifier}
    (hg : ∀ a, n.amps[i]? = some a → Sound index (g a).signals) :
    (n.modifyAmp i g).SetsSound index where
  roadm := h.roadm
  terminal := h.terminal
  amp := sound_of_getElem?_modify h.amp hg
  span := h.span

theorem SetsSound.modifySpan (h : n.SetsSound index) (i : Nat) {g : Span → Span}
    (hg : ∀ s, n.spans[i]? = some s → Sound index (g s).signals) :
    (n.modifySpan i g).SetsSound index where
  roadm := h.roadm
  terminal := h.terminal
  amp := h.amp
  span := sound_of_getElem?_modify h.span hg

end Network

/-! ### Signals keep their channels -/

/-- A change of signals that keeps each signal's channel keeps the table of channels. -/
theorem signalChannel_modify {signals : Array Signal} {g : Signal → Signal}
    (hg : ∀ s, (g s).index = s.index) (i : Nat) :
    signalChannel (signals.modify i g) = signalChannel signals := by
  funext j
  unfold signalChannel
  rw [Array.getElem?_modify]
  split
  · cases signals[j]? <;> simp [hg]
  · rfl

/-- No step of a pass changes the channel of a signal: a visit records a location only. -/
theorem signalChannel_closed :
    Flow.Closed fun f g => signalChannel g.net.signals = signalChannel f.net.signals where
  refl _ := rfl
  trans h₁ h₂ := h₂.trans h₁
  record _ _ hn _ _ := by rw [hn]
  fail _ _ _ _ := rfl
  visit _ c _ _ := signalChannel_modify (fun s => (Signal.alike_record s _ _ _ _ _).index) c.sig
  amp _ _ _ := rfl
  span _ _ _ := rfl
  terminal _ _ _ _ := rfl
  roadmPorts _ _ _ _ := rfl
  output _ _ _ _ _ _ _ _ := rfl

theorem Network.signalChannel_of_lt {n : Network} {i : Nat} (hi : i < n.signals.size) :
    signalChannel n.signals i = some (n.signal i).index := by
  unfold signalChannel Network.signal
  rw [Array.getElem?_eq_getElem hi]
  rfl

/-- Carriers made from a terminal's transmit bindings in channel order, each on its binding's
signal and on the channel it is filed under, form a sound set when every binding is filed under
the channel of its signal. -/
theorem Terminal.sound_filterMap_tx {t : Terminal} {signals : Array Signal}
    (hidx : ∀ {ch b}, t.tx.get? ch = some b → signalChannel signals b.signal = some ch)
    {F : Int × TxBinding → Option Carrier}
    (hF : ∀ ch b c, t.tx.get? ch = some b → F (ch, b) = some c → c.sig = b.signal ∧ c.channel = ch) :
    Sound (signalChannel signals) (t.tx.toList.filterMap F) := by
  have hmem : ∀ {x : Int × TxBinding}, x ∈ t.tx.toList → t.tx.get? x.1 = some x.2 := fun hx => by
    rw [Std.TreeMap.get?_eq_getElem?]
    exact Std.TreeMap.mem_toList_iff_getElem?_eq_some.mp hx
  refine ⟨List.pairwise_filterMap.mpr (Std.TreeMap.ordered_keys_toList.imp_of_mem
    fun hx hy hlt c hc c' hc' => ?_), fun c hc => ?_⟩
  · rw [(hF _ _ c (hmem hx) hc).2, (hF _ _ c' (hmem hy) hc').2]
    exact Int.compare_eq_lt.mp hlt
  · obtain ⟨⟨ch, b⟩, hx, hc⟩ := List.mem_filterMap.mp hc
    obtain ⟨hsig, hch⟩ := hF ch b c (hmem hx) hc
    rw [hsig, hch]
    exact hidx (hmem hx)

namespace Flow

variable {f : Flow} {set : ChannelSet}

/-! ### Steps that write events, errors and visits only -/

theorem loop_net (f : Flow) (node : String) (ch : Int) : (f.loop node ch).net = f.net := by
  unfold Flow.loop
  dsimp only
  split <;> rfl

theorem dropUnrouted_net (f : Flow) (r : Roadm) (i : Int) (set : ChannelSet) :
    (f.dropUnrouted r i set).net = f.net := by
  unfold Flow.dropUnrouted
  refine List.foldlRecOn (motive := fun g : Flow => g.net = f.net) set _ rfl fun g hg c _ => ?_
  split <;> exact hg

theorem announce_net (f : Flow) (t : Terminal) (byPort : List (Int × List Report)) :
    (f.announce t byPort).net = f.net := by
  unfold Flow.announce
  refine List.foldlRecOn (motive := fun g : Flow => g.net = f.net) byPort _ rfl
    fun g hg ⟨_, reports⟩ _ => ?_
  have hr : (reports.foldl (fun f rep =>
      let f := f.emit (.received t.name rep.ok)
      if rep.ok then f
      else f.debug "channel reception failed"
        [.str "terminal" t.name, .int "channel" rep.channel, .str "reason" rep.reason]) g).net =
        f.net := by
    refine List.foldlRecOn (motive := fun k : Flow => k.net = f.net) reports _ hg
      fun k hk rep _ => ?_
    dsimp only
    split <;> exact hk
  dsimp only
  split <;> exact hr

theorem dropUnlinked_net (f : Flow) (src : Nat) (resolved : List (Option Link × ChannelSet)) :
    (f.dropUnlinked src resolved).net = f.net := by
  unfold Flow.dropUnlinked
  refine List.foldlRecOn (motive := fun g : Flow => g.net = f.net) resolved _ rfl
    fun g hg ⟨l?, set⟩ _ => ?_
  dsimp only
  split
  · exact List.foldlRecOn (motive := fun k : Flow => k.net = f.net) set _ hg fun _ hk _ _ => hk
  · exact hg

theorem sound_emit (h : f.net.SetsSound index) (e : Event) : (f.emit e).net.SetsSound index := h

theorem sound_visit (h : f.net.SetsSound index) (c : Carrier) (loc : Location) (exit : SignalState) :
    (f.visit c loc exit).net.SetsSound index :=
  h.of_frame rfl rfl rfl

theorem sound_visitAll (h : f.net.SetsSound index) (loc : Location) (set out : ChannelSet) :
    (f.visitAll loc set out).net.SetsSound index :=
  List.foldlRecOn (motive := fun g : Flow => g.net.SetsSound index) _ _ h
    fun _ hg p _ => sound_visit hg p.1 loc p.2.state

theorem sound_stamp (h : f.net.SetsSound index) (loc : Location) (hs : Sound index set) :
    (f.stamp loc set).1.net.SetsSound index ∧ Sound index (f.stamp loc set).2 :=
  ⟨List.foldlRecOn (motive := fun g : Flow => g.net.SetsSound index) set _ h
    fun _ hg c _ => sound_visit hg c loc c.state, hs.map fun _ => ⟨rfl, rfl⟩⟩

/-! ### Amplifiers, spans and links -/

theorem sound_amplify (h : f.net.SetsSound index) (i : Nat) (hs : Sound index set) :
    (f.amplify i set).1.net.SetsSound index ∧ Sound index (f.amplify i set).2 := by
  unfold Flow.amplify
  split
  · exact ⟨h, hs⟩
  · split
    · exact ⟨h.modifyAmp i fun _ _ => sound_nil, sound_nil⟩
    · dsimp only
      generalize Amplifier.adjustGain _ set = p
      obtain ⟨a, iters⟩ := p
      dsimp only
      -- the amplifier stores the carriers it sends on
      have hout : Sound index (set.map fun c =>
          { c with state := a.amplifyState c, recordedAt := a.location }) :=
        hs.map fun _ => ⟨rfl, rfl⟩
      exact ⟨(sound_visitAll (sound_emit h _) _ _ _).modifyAmp i fun _ _ => hout, hout⟩

theorem sound_transmit (h : f.net.SetsSound index) (i : Nat) (model : RamanModel)
    (hs : Sound index set) :
    (f.transmit i model set).1.net.SetsSound index ∧ Sound index (f.transmit i model set).2 := by
  unfold Flow.transmit
  split
  · exact ⟨h, hs⟩
  · rename_i s _
    split
    · exact ⟨h.modifySpan i fun _ _ => sound_nil, sound_nil⟩
    · dsimp only
      have hout := hs.zip (s.transmit model set)
        (g := fun c st => { c with state := st, recordedAt := s.location }) fun _ _ => ⟨rfl, rfl⟩
      exact ⟨(sound_visitAll h _ _ _).modifySpan i fun _ _ => hout, hout⟩

theorem sound_traverse (h : f.net.SetsSound index) (l : Link) (hs : Sound index set) :
    (f.traverse l set).1.net.SetsSound index ∧ Sound index (f.traverse l set).2 := by
  unfold Flow.traverse
  dsimp only
  -- the link's boost first, then each span and the amplifier after it
  refine List.foldlRecOn
    (motive := fun p : Flow × ChannelSet => p.1.net.SetsSound index ∧ Sound index p.2) _ _ ?_
    fun ⟨g, cur⟩ ⟨hg, hcur⟩ hop _ => ?_
  · split
    · exact sound_amplify h _ hs
    · exact ⟨h, hs⟩
  · dsimp only
    have ht := sound_transmit hg hop.span l.raman hcur
    split
    · exact sound_amplify ht.1 _ ht.2
    · exact ht

/-! ### ROADMs -/

theorem sound_preamplify (h : f.net.SetsSound index) {r : Roadm} (hr : r.SetsSound index)
    (i : Int) : (f.preamplify r i).1.net.SetsSound index ∧ Sound index (f.preamplify r i).2 := by
  have hd : (f.dropUnrouted r i (r.portSet i true)).net.SetsSound index := by
    rw [dropUnrouted_net]
    exact h
  have hs : Sound index (r.portSet i true) := hr.inSets.getD i
  unfold Flow.preamplify
  dsimp only
  split
  · exact ⟨hd, hs⟩
  · split
    · split
      · exact ⟨hd, hs⟩
      · exact sound_amplify hd _ hs
    · exact sound_amplify hd _ hs

/-- Collecting an output takes each channel once, from the processed sets of the ROADM: every
collected carrier is on the channel of its signal, and its channel is noted among the sources,
so no channel is collected twice. -/
theorem sound_collectOutput (h : f.net.SetsSound index) {r : Roadm} (hr : r.SetsSound index)
    (rh : Nat) (out : Int) :
    (f.collectOutput r rh out).1.net.SetsSound index ∧
      ((f.collectOutput r rh out).2.1.map (·.channel)).Nodup ∧
      ∀ c ∈ (f.collectOutput r rh out).2.1,
        index c.sig = some c.channel ∧ (f.collectOutput r rh out).2.2.contains c.channel := by
  unfold collectOutput
  refine List.foldlRecOn (motive := fun acc : Flow × ChannelSet × Std.TreeMap Int Int =>
    acc.1.net.SetsSound index ∧ (acc.2.1.map (·.channel)).Nodup ∧
      ∀ c ∈ acc.2.1, index c.sig = some c.channel ∧ acc.2.2.contains c.channel) _ _
    ?_ fun acc hacc ic hic => ?_
  · exact ⟨h, List.nodup_nil, fun _ h => nomatch h⟩
  obtain ⟨g, set, src⟩ := acc
  obtain ⟨i, c⟩ := ic
  obtain ⟨hg, hnd, hset⟩ := hacc
  -- the carrier comes from a processed set of the ROADM
  have hc : index c.sig = some c.channel := by
    obtain ⟨⟨i', cs⟩, hcs, hmem⟩ := List.mem_flatMap.mp hic
    obtain ⟨c', hc', hic'⟩ := List.mem_map.mp hmem
    cases hic'
    rw [Std.TreeMap.mem_toList_iff_getElem?_eq_some, ← Std.TreeMap.get?_eq_getElem?] at hcs
    exact (hr.inProc _ _ hcs).channel c hc'
  dsimp only
  split
  · exact ⟨hg, hnd, hset⟩
  · split
    · exact ⟨hg, hnd, hset⟩
    · split
      · exact ⟨hg, hnd, hset⟩
      · rename_i hnew
        refine ⟨sound_visit hg _ _ _, ?_, fun d hd => ?_⟩
        · rw [List.map_append, List.nodup_append]
          refine ⟨hnd, List.nodup_singleton _, fun a ha b hb => ?_⟩
          simp only [List.map_cons, List.map_nil, List.mem_singleton] at hb
          obtain ⟨d, hd, rfl⟩ := List.mem_map.mp ha
          rintro rfl
          exact hnew (hb ▸ (hset d hd).2)
        · rcases List.mem_append.mp hd with hd | hd
          · exact ⟨(hset d hd).1, by rw [Std.TreeMap.contains_insert]; simp [(hset d hd).2]⟩
          · rw [List.mem_singleton] at hd
            subst hd
            exact ⟨hc, by simp⟩

theorem sound_boostOutput (h : f.net.SetsSound index) (r : Roadm) (rh : Nat) (out : Int)
    (hs : Sound index set) :
    (f.boostOutput r rh out set).1.net.SetsSound index ∧
      Sound index (f.boostOutput r rh out set).2 := by
  unfold Flow.boostOutput
  split
  · split
    · split
      · exact ⟨h, hs⟩
      · exact sound_amplify h _ hs
    · exact sound_amplify h _ hs
  · exact ⟨h, hs⟩

/-- Rebuilding an output stores the collected carriers sorted by channel, then boosted. -/
theorem sound_switchOutput (h : f.net.SetsSound index) (rh : Nat) (out : Int) :
    (f.switchOutput rh out).1.net.SetsSound index ∧ Sound index (f.switchOutput rh out).2 := by
  unfold Flow.switchOutput
  split
  · exact ⟨h, sound_nil⟩
  · rename_i r hr
    have hc := sound_collectOutput h (h.roadm hr) rh out
    split
    rename_i g set src he
    rw [he] at hc
    obtain ⟨hg, hnd, hset⟩ := hc
    have hb := sound_boostOutput hg r rh out (sound_sortByChannel hnd fun c hc => (hset c hc).1)
    split
    rename_i g' set' he'
    rw [he'] at hb
    obtain ⟨hg', hset'⟩ := hb
    exact ⟨hg'.modifyRoadm rh fun r' hr' =>
      ⟨(hg'.roadm hr').inSets, (hg'.roadm hr').inProc, (hg'.roadm hr').outSets.insert out hset'⟩,
      hset'⟩

/-- The carriers that crossed the ROADM before are dropped; the others stay in order. -/
theorem sound_dropLoops (h : f.net.SetsSound index) (r : Roadm) (rh : Nat) (set : ChannelSet) :
    (f.dropLoops r rh set).1.net.SetsSound index ∧ ((f.dropLoops r rh set).2).Sublist set := by
  unfold Flow.dropLoops
  -- from any start, the fold keeps the flow's sets and appends a sublist of what it reads
  suffices hfold : ∀ (l : ChannelSet) (p : Flow × ChannelSet), p.1.net.SetsSound index →
      (l.foldl (fun (acc : Flow × ChannelSet) c =>
        if (acc.1.net.signal c.sig).visitedNode rh then (acc.1.loop r.name c.channel, acc.2)
        else (acc.1, acc.2 ++ [c])) p).1.net.SetsSound index ∧
      ∃ s, s.Sublist l ∧ (l.foldl (fun (acc : Flow × ChannelSet) c =>
        if (acc.1.net.signal c.sig).visitedNode rh then (acc.1.loop r.name c.channel, acc.2)
        else (acc.1, acc.2 ++ [c])) p).2 = p.2 ++ s by
    obtain ⟨hf, s, hs, he⟩ := hfold set (f, []) h
    exact ⟨hf, by rw [he]; exact hs⟩
  intro l
  induction l with
  | nil => exact fun p hp => ⟨hp, [], List.Sublist.slnil, by simp⟩
  | cons c cs ih =>
    intro ⟨g, kept⟩ hg
    rw [List.foldl_cons]
    dsimp only
    split
    · obtain ⟨hf, s, hs, he⟩ := ih (g.loop r.name c.channel, kept) (by rw [loop_net]; exact hg)
      exact ⟨hf, s, hs.cons c, he⟩
    · obtain ⟨hf, s, hs, he⟩ := ih (g, kept ++ [c]) hg
      exact ⟨hf, c :: s, hs.cons_cons c, by rw [he]; simp⟩

theorem sound_acceptAt (h : f.net.SetsSound index) (r : Roadm) (rh : Nat) (port : Int)
    (hs : Sound index set) : (f.acceptAt r rh port set).net.SetsSound index := by
  unfold Flow.acceptAt
  have hl := sound_dropLoops h r rh set
  split
  rename_i g kept he
  rw [he] at hl
  have hst := sound_stamp hl.1 ⟨.nodeIn, rh, port⟩ (hs.sublist hl.2)
  split
  rename_i g' kept' he'
  rw [he'] at hst
  exact hst.1.modifyRoadm rh fun r' hr' => (hst.1.roadm hr').accept _ port hst.2

/-! ### Terminals -/

/-- A terminal stores what arrives and, on the last delivery, files reports; its ports keep
their sets otherwise. -/
theorem sound_deliverTerminal (h : f.net.SetsSound index) (th : Nat) (port : Int)
    (hs : Sound index set) (isLast : Bool) :
    (f.deliverTerminal th port set isLast).net.SetsSound index := by
  unfold Flow.deliverTerminal
  split
  · exact h
  · rename_i t ht
    have hst := sound_stamp h ⟨.nodeIn, th, port⟩ hs
    split
    rename_i g kept he
    rw [he] at hst
    obtain ⟨hg, hkept⟩ := hst
    have hd : (g.dropUnbound t port kept).net.SetsSound index := by
      rw [dropUnbound_net]
      exact hg
    -- the terminal written back is the one read before the delivery, with the new arrivals
    have ha := (h.terminal ht).accept (g.dropUnbound t port kept).pass.id port hkept
    dsimp only
    split
    · exact hd.modifyTerminal th fun _ _ => ha
    · rw [announce_net]
      exact hd.modifyTerminal th fun _ _ => ha.receive _

/-- Seeding a port stores the carriers of its active transmitters, in channel order. -/
theorem sound_seed (h : f.net.SetsSound index) (hb : f.net.BindingsSound)
    (hi : signalChannel f.net.signals = index) (th : Nat) (port : Int) :
    (f.seed th port).1.net.SetsSound index ∧ Sound index (f.seed th port).2 := by
  subst hi
  unfold Flow.seed
  split
  · exact ⟨h, sound_nil⟩
  · rename_i t ht
    have hbt := hb.terminal ht
    dsimp only
    generalize hS : List.filterMap _ t.tx.toList = S
    have hset : Sound (signalChannel f.net.signals) S := by
      rw [← hS]
      refine Terminal.sound_filterMap_tx (fun hget => ?_) fun ch b c hget hc => ?_
      · rw [Network.signalChannel_of_lt (hb.signal_lt ⟨t, ht, hget⟩), hbt.tx_index hget]
      · dsimp only at hc
        split at hc
        · cases hc
        · cases hc
          exact ⟨rfl, hbt.tx_index hget⟩
    have hst := sound_stamp h ⟨.nodeOut, th, port⟩ hset
    exact ⟨hst.1.modifyTerminal th fun t' ht' =>
      ⟨(hst.1.terminal ht').inSets, (hst.1.terminal ht').outSets.insert port hst.2⟩, hst.2⟩

/-! ### Deliveries, fan-outs and switching -/

section Switching

variable {sw : Flow → Nat → Flow}

theorem sound_deliverRoadm (hsw : ∀ g rh, g.net.SetsSound index → (sw g rh).net.SetsSound index)
    (h : f.net.SetsSound index) (rh : Nat) (port : Int) (hs : Sound index set) (isLast : Bool) :
    (f.deliverRoadm sw rh port set isLast).net.SetsSound index := by
  unfold Flow.deliverRoadm
  split
  · exact h
  · rename_i r _
    have ha := sound_acceptAt h r rh port hs
    dsimp only
    split
    · exact ha
    · exact hsw _ rh ha

theorem sound_propagateLink (hsw : ∀ g rh, g.net.SetsSound index → (sw g rh).net.SetsSound index)
    (h : f.net.SetsSound index) (l : Link) (hs : Sound index set) (isLast : Bool) :
    (f.propagateLink sw l set isLast).net.SetsSound index := by
  unfold Flow.propagateLink
  dsimp only
  -- the link's components first, whatever the trace event written before them
  have ht : ∀ e, ((f.emit e).traverse l set).1.net.SetsSound index ∧
      Sound index ((f.emit e).traverse l set).2 := fun e => sound_traverse (sound_emit h e) l hs
  split
  · exact sound_deliverRoadm hsw (ht _).1 _ _ (ht _).2 _
  · exact sound_deliverTerminal (ht _).1 _ _ (ht _).2 _
  · exact (ht _).1

/-- Every delivery of a fan-out carries the set of one of its ports. -/
theorem mem_deliveries {items : List (Option Link × ChannelSet)} {x : Link × ChannelSet × Bool}
    (hx : x ∈ deliveries items) : ∃ l?, (l?, x.2.1) ∈ items := by
  induction items with
  | nil => cases hx
  | cons it items ih =>
    obtain ⟨_ | l, set⟩ := it
    · obtain ⟨l?, hl⟩ := ih hx
      exact ⟨l?, List.mem_cons_of_mem _ hl⟩
    · rcases List.mem_cons.mp hx with rfl | hx
      · exact ⟨some l, List.mem_cons_self⟩
      · obtain ⟨l?, hl⟩ := ih hx
        exact ⟨l?, List.mem_cons_of_mem _ hl⟩

theorem sound_fanOut (hsw : ∀ g rh, g.net.SetsSound index → (sw g rh).net.SetsSound index)
    (h : f.net.SetsSound index) (src : Nat) {items : List (Int × ChannelSet)}
    (hitems : ∀ it ∈ items, Sound index it.2) : (f.fanOut sw src items).net.SetsSound index := by
  unfold Flow.fanOut
  dsimp only
  refine List.foldlRecOn (motive := fun g : Flow => g.net.SetsSound index) _ _ ?_
    fun g hg d hx => ?_
  · rw [dropUnlinked_net]
    exact h
  obtain ⟨l, set', isLast⟩ := d
  -- the set delivered is the set of one of the ports
  obtain ⟨l?, hmem⟩ := mem_deliveries hx
  obtain ⟨⟨port, set⟩, hps, he⟩ := List.mem_map.mp hmem
  have hset : set = set' := (Prod.mk.inj he).2
  subst hset
  exact sound_propagateLink hsw hg l (hitems _ hps) isLast

end Switching

theorem sound_preamplifyInputs (h : f.net.SetsSound index) (rh : Nat) (inPorts : List Int) :
    (f.preamplifyInputs rh inPorts).net.SetsSound index := by
  unfold Flow.preamplifyInputs
  refine List.foldlRecOn (motive := fun g : Flow => g.net.SetsSound index) _ _ h
    fun g hg i _ => ?_
  dsimp only
  split
  · rename_i r hr
    have hp := sound_preamplify hg (hg.roadm hr) i
    exact hp.1.modifyRoadm rh fun r' hr' =>
      ⟨(hp.1.roadm hr').inSets, (hp.1.roadm hr').inProc.insert i hp.2, (hp.1.roadm hr').outSets⟩
  · exact hg

theorem sound_switchOutputs (h : f.net.SetsSound index) (rh : Nat) (outs : List Int) :
    (f.switchOutputs rh outs).1.net.SetsSound index ∧
      ∀ it ∈ (f.switchOutputs rh outs).2, Sound index it.2 := by
  unfold Flow.switchOutputs
  refine List.foldlRecOn (motive := fun p : Flow × List (Int × ChannelSet) =>
    p.1.net.SetsSound index ∧ ∀ it ∈ p.2, Sound index it.2) _ _
    ?_ fun ⟨g, items⟩ ⟨hg, hitems⟩ o _ => ?_
  · exact ⟨h, fun _ h => nomatch h⟩
  dsimp only
  have ho := sound_switchOutput hg rh o
  refine ⟨ho.1, fun it hit => ?_⟩
  rcases List.mem_append.mp hit with hit | hit
  · exact hitems it hit
  · rw [List.mem_singleton] at hit
    subst hit
    exact ho.2

/-- A change of a ROADM's port state that leaves its stored sets alone. -/
theorem sound_modifyRoadm_ports (h : f.net.SetsSound index) (rh : Nat) {g : Roadm → Roadm}
    (hg : ∀ r, (g r).inSets = r.inSets ∧ (g r).inProc = r.inProc ∧ (g r).outSets = r.outSets) :
    (f.update (·.modifyRoadm rh g)).net.SetsSound index :=
  h.modifyRoadm rh fun r hr => by
    obtain ⟨hi, hp, ho⟩ := hg r
    have hr := h.roadm hr
    exact ⟨hi ▸ hr.inSets, hp ▸ hr.inProc, ho ▸ hr.outSets⟩

/-- Every round of a switching loop keeps the sets sound when its fan-outs do. -/
theorem sound_switchLoop {fan : Flow → List (Int × ChannelSet) → Flow}
    (hfan : ∀ g items, g.net.SetsSound index → (∀ it ∈ items, Sound index it.2) →
      (fan g items).net.SetsSound index)
    (h : f.net.SetsSound index) (rh rounds : Nat) :
    (f.switchLoop fan rh rounds).net.SetsSound index := by
  induction rounds generalizing f with
  | zero => exact h
  | succ rounds ih =>
    unfold Flow.switchLoop
    split
    · exact h
    · split
      · exact h
      · dsimp only
        split
        · exact sound_modifyRoadm_ports h rh fun _ => ⟨rfl, rfl, rfl⟩
        · -- the pending inputs are cleared, processed, and the outputs they feed rebuilt
          have hround : ∀ (g : Flow) (ins outs : List Int), g.net.SetsSound index →
              ((g.preamplifyInputs rh ins).switchOutputs rh outs).1.net.SetsSound index ∧
                ∀ it ∈ ((g.preamplifyInputs rh ins).switchOutputs rh outs).2, Sound index it.2 :=
            fun g ins outs hg => sound_switchOutputs (sound_preamplifyInputs hg rh ins) rh outs
          have hclear : ∀ k : Flow, k.net.SetsSound index →
              (k.update (·.modifyRoadm rh ({ · with pending := {} }))).net.SetsSound index :=
            fun k hk => sound_modifyRoadm_ports hk rh fun _ => ⟨rfl, rfl, rfl⟩
          refine ih (hfan _ _ (hround _ _ _ ?_).1 (hround _ _ _ ?_).2) <;> exact hclear _ h

/-- `switchRoadm` keeps the sets sound at every depth. -/
theorem sound_switchRoadm (depth : Nat) :
    ∀ g rh, g.net.SetsSound index → (switchRoadm depth g rh).net.SetsSound index := by
  induction depth with
  | zero => exact fun _ _ hg => hg
  | succ depth ih =>
    intro g rh hg
    simp only [Flow.switchRoadm]
    have hbusy : ∀ (k : Flow) (b : Bool), k.net.SetsSound index →
        (k.update (·.modifyRoadm rh ({ · with busy := b }))).net.SetsSound index :=
      fun k _ hk => sound_modifyRoadm_ports hk rh fun _ => ⟨rfl, rfl, rfl⟩
    exact hbusy _ false (sound_switchLoop (fun k items hk hitems => sound_fanOut ih hk rh hitems)
      (hbusy _ true hg) rh _)

end Flow

/-- What the seeding of a pass's ports keeps and yields, for the channels `index` of the signals
before it: sound sets and bindings, the same channels, and a sound set for each seeded port. -/
structure Flow.Seeded (index : Nat → Option Int) (p : Flow × List (Int × ChannelSet)) : Prop where
  sets : p.1.net.SetsSound index
  bindings : p.1.net.BindingsSound
  channels : signalChannel p.1.net.signals = index
  items : ∀ it ∈ p.2, Sound index it.2

/-- Seeding one more port. -/
theorem Flow.Seeded.seed {index : Nat → Option Int} {g : Flow} {items : List (Int × ChannelSet)}
    (h : Seeded index (g, items)) (th : Nat) (port : Int) :
    Seeded index ((g.seed th port).1, items ++ [(port, (g.seed th port).2)]) := by
  have hs := Flow.sound_seed h.sets h.bindings h.channels th port
  refine ⟨hs.1, Network.bindingsSound_closed.seed g th port h.bindings,
    (signalChannel_closed.seed g th port).trans h.channels, fun it hit => ?_⟩
  rcases List.mem_append.mp hit with hit | hit
  · exact h.items it hit
  · rw [List.mem_singleton] at hit
    subst hit
    exact hs.2

/-- A pass keeps every stored channel set sound, given sound bindings: the sets it seeds, carries
and stores are in strictly increasing channel order, each carrier on the channel of its
signal, and no signal changes channel. -/
theorem Network.SetsSound.launch {n : Network} (h : n.SetsSound (signalChannel n.signals))
    (hb : n.BindingsSound) (t : Terminal) (ports : List Int) (safe : Bool) (kind : String) :
    (n.launch t ports safe kind).net.SetsSound
      (signalChannel (n.launch t ports safe kind).net.signals) := by
  obtain ⟨g, hg, hnet, -⟩ := signalChannel_closed.launch n t ports safe kind
  have hidx : signalChannel (n.launch t ports safe kind).net.signals = signalChannel n.signals := by
    rw [hnet]
    exact hg
  rw [hidx]
  unfold Network.launch
  dsimp only
  generalize hP : List.foldl _ _ ports = P
  -- seeding keeps the sets, the bindings and the channels of the signals, and yields sound sets
  have hseed : Flow.Seeded (signalChannel n.signals) P := by
    rw [← hP]
    exact List.foldlRecOn (motive := Flow.Seeded (signalChannel n.signals)) _ _
      ⟨h.of_frame rfl rfl rfl, hb.of_frame rfl rfl, rfl, fun _ h => nomatch h⟩
      fun ⟨g, items⟩ hg port _ => hg.seed t.handle port
  -- the closing records of the pass write events only
  dsimp only [Flow.emit, Flow.debug]
  exact Flow.sound_fanOut (Flow.sound_switchRoadm _) hseed.sets t.handle hseed.items

end WdmNet

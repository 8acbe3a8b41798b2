import WdmNet.Proofs.Pass.ChannelOrder
/-!
Stored channel sets stay sorted over every run.

Every channel set that a network stores, at its ROADMs, its terminals, its amplifiers and its
spans, is in strictly increasing channel order with each carrier on the channel of its signal
(`Network.SetsSound` over the channels of the network's own signals). Additions store nothing
yet; a command either runs a pass (`Network.SetsSound.launch`), or changes bindings, gains and
switch rules, which leaves the sets alone, or filters or clears them. New signals only add
channels, and no signal ever changes its channel.

So every monitor watches a sound set: `ChannelSet.find?` gives the one carrier of a channel,
and the per-channel state of a monitor agrees row by row with its readings.

Main statement: `Network.channel_sets_stay_sorted`.
-/

namespace WdmNet

open ChannelSet

variable {index : Nat → Option Int}

/-! ### Nodes -/

namespace Roadm

variable {r r' : Roadm}

/-- Taking a rule out filters the carriers of its output. -/
theorem SetsSound.removeRule (h : r.SetsSound index) (rule : SwitchRule) :
    (r.removeRule rule).SetsSound index := by
  refine ⟨h.inSets, h.inProc, ?_⟩
  unfold Roadm.removeRule
  dsimp only
  split
  · rename_i set hset
    exact h.outSets.insert _ ((h.outSets _ _ hset).sublist List.filter_sublist)
  · exact h.outSets

/-- Every call on the switch table keeps the stored sets sound: installing, moving a rule and
setting a VOA target leave them alone, deleting filters an output, and a reset clears them. -/
theorem SetsSound.edit (h : r.SetsSound index) (he : Edit r r') : r'.SetsSound index := by
  cases he with
  | install he =>
    rcases (installRule_eq_ok he).2 with ⟨-, rfl⟩ | ⟨-, -, rfl⟩
    · exact h
    · exact ⟨h.inSets, h.inProc, h.outSets⟩
  | delete he =>
    obtain ⟨rule, -, rfl⟩ := deleteRule_eq_ok he
    exact h.removeRule rule
  | deleteAll =>
    rw [deleteAllRules_eq]
    refine List.foldlRecOn (motive := fun r : Roadm => r.SetsSound index) _ _ h
      fun acc hacc id _ => ?_
    cases acc.rules.get? id with
    | none => exact hacc
    | some rule => exact hacc.removeRule rule
  | update he =>
    obtain ⟨rule, -, -, ⟨-, rfl⟩ | rfl⟩ := updateRule_eq_ok he
    · exact h
    · have hrm := h.removeRule rule
      exact ⟨hrm.inSets, hrm.inProc, hrm.outSets⟩
  | configureVoa he =>
    unfold Roadm.configureVoa at he
    split at he
    · cases he
    · split at he
      · cases he
      · split at he
        · cases he
        · cases he
          exact ⟨h.inSets, h.inProc, h.outSets⟩
  | reset => exact ⟨tableSound_empty, tableSound_empty, tableSound_empty⟩

end Roadm

/-- The stored sets of a node. -/
def Node.SetsSound (index : Nat → Option Int) : Node → Prop
  | .terminal t => t.SetsSound index
  | .roadm r => r.SetsSound index

/-- A new terminal stores nothing yet. -/
theorem Terminal.setsSound_create {h : Nat} {name : String} {trxs : List Transceiver} {t : Terminal}
    (he : Terminal.create h name trxs = .ok t) : t.SetsSound index := by
  unfold Terminal.create at he
  obtain ⟨_, -, he⟩ := Except.bind_eq_ok.mp he
  cases he
  exact ⟨tableSound_empty, tableSound_empty⟩

/-- A new amplifier has carried nothing yet. -/
theorem Amplifier.create_signals {h : Nat} {name : String} {cfg : AmplifierConfig} {a : Amplifier}
    (he : Amplifier.create h name cfg = .ok a) : a.signals = [] := by
  unfold Amplifier.create at he
  obtain ⟨-, he⟩ := Except.ite_throw_eq_ok he
  obtain ⟨_, -, he⟩ := Except.bind_eq_ok.mp he
  obtain ⟨_, -, he⟩ := Except.bind_eq_ok.mp he
  cases he
  rfl

/-- The carriers of a component put in place stay sound if the new one's are. -/
theorem sound_of_getElem?_set {α : Type} (carriers : α → ChannelSet) {xs : Array α} {i j : Nat}
    {x a : α}
    (hxs : ∀ {j : Nat} {a : α}, xs[j]? = some a → Sound index (carriers a))
    (hx : Sound index (carriers x)) (ha : (xs.set! i x)[j]? = some a) : Sound index (carriers a) := by
  rw [Array.set!_eq_setIfInBounds, Array.getElem?_setIfInBounds] at ha
  split at ha
  · split at ha
    · cases ha
      exact hx
    · cases ha
  · exact hxs ha

namespace Network

variable {n m : Network}

theorem terminalAt?_of_setNode {i : Nat} {nd : Node} {h : Nat} {t : Terminal}
    (ht : (n.setNode i nd).terminalAt? h = some t) : n.terminalAt? h = some t ∨ nd = .terminal t := by
  rw [terminalAt?_eq_some, setNode, Array.set!_eq_setIfInBounds, Array.getElem?_setIfInBounds] at ht
  rw [terminalAt?_eq_some]
  split at ht
  · split at ht
    · exact .inr (Option.some.inj ht)
    · cases ht
  · exact .inl ht

theorem terminalAt?_of_push {nd : Node} (hs : m.nodes = n.nodes.push nd) {h : Nat} {t : Terminal}
    (ht : m.terminalAt? h = some t) : n.terminalAt? h = some t ∨ nd = .terminal t := by
  rw [terminalAt?_eq_some, hs, Array.getElem?_push] at ht
  rw [terminalAt?_eq_some]
  split at ht
  · exact .inr (Option.some.inj ht)
  · exact .inl ht

/-- A node of the network keeps sound sets. -/
theorem SetsSound.node (h : n.SetsSound index) {nd : Node} (hmem : nd ∈ n.nodes) :
    nd.SetsSound index := by
  obtain ⟨j, hj⟩ := Array.getElem?_of_mem hmem
  cases nd with
  | terminal t => exact h.terminal (terminalAt?_eq_some.mpr hj)
  | roadm r => exact h.roadm (roadmAt?_eq_some.mpr hj)

/-- Putting a node with sound sets in place of another. -/
theorem SetsSound.setNode (h : n.SetsSound index) (i : Nat) {nd : Node}
    (hnd : nd.SetsSound index) : (n.setNode i nd).SetsSound index where
  roadm hr := by
    rcases roadmAt?_of_setNode hr with hr | rfl
    · exact h.roadm hr
    · exact hnd
  terminal ht := by
    rcases terminalAt?_of_setNode ht with ht | rfl
    · exact h.terminal ht
    · exact hnd
  amp := h.amp
  span := h.span

/-- A new node with sound sets, pushed after the others. -/
theorem SetsSound.push (h : n.SetsSound index) {nd : Node} (hs : m.nodes = n.nodes.push nd)
    (ha : m.amps = n.amps) (hsp : m.spans = n.spans) (hnd : nd.SetsSound index) :
    m.SetsSound index where
  roadm hr := by
    rcases roadmAt?_of_push hs hr with hr | rfl
    · exact h.roadm hr
    · exact hnd
  terminal ht := by
    rcases terminalAt?_of_push hs ht with ht | rfl
    · exact h.terminal ht
    · exact hnd
  amp ha' := h.amp (by rwa [ha] at ha')
  span hs' := h.span (by rwa [hsp] at hs')

/-- A change of a terminal's bindings, which leaves its stored sets alone. -/
theorem SetsSound.modifyTerminal_bindings (h : n.SetsSound index) (th : Nat) {g : Terminal → Terminal}
    (hg : ∀ t, (g t).inSets = t.inSets ∧ (g t).outSets = t.outSets) :
    (n.modifyTerminal th g).SetsSound index :=
  h.modifyTerminal th fun t ht => by
    obtain ⟨hi, ho⟩ := hg t
    exact ⟨hi ▸ (h.terminal ht).inSets, ho ▸ (h.terminal ht).outSets⟩

/-! ### Signals -/

/-- A signal pushed after the others leaves the channels of the others. -/
theorem signalChannel_push {signals : Array Signal} {s : Signal} {i : Nat} {ch : Int}
    (hi : signalChannel signals i = some ch) : signalChannel (signals.push s) i = some ch := by
  obtain ⟨s', hs', rfl⟩ := signalChannel_eq_some.mp hi
  refine signalChannel_eq_some.mpr ⟨s', ?_, rfl⟩
  rw [Array.getElem?_push]
  split
  · rename_i hsz
    rw [hsz, Array.getElem?_eq_none (Nat.le_refl _)] at hs'
    cases hs'
  · exact hs'

theorem SetsSound.modifySignal {index : Nat → Option Int}
    (h : n.SetsSound index ∧ signalChannel n.signals = index) (j : Nat) {g : Signal → Signal}
    (hg : ∀ s, (g s).index = s.index) :
    (n.modifySignal j g).SetsSound index ∧ signalChannel (n.modifySignal j g).signals = index :=
  ⟨h.1.of_frame rfl rfl rfl, (signalChannel_modify hg j).trans h.2⟩

/-- Changes of signals that keep every channel, one after another, keep the sets and the
channels. -/
theorem SetsSound.foldl_modifySignal {α : Type} (h : n.SetsSound (signalChannel n.signals))
    (sig : α → Nat) {g : α → Signal → Signal} (hg : ∀ a s, (g a s).index = s.index) (l : List α) :
    (l.foldl (fun n a => n.modifySignal (sig a) (g a)) n).SetsSound (signalChannel n.signals) ∧
      signalChannel (l.foldl (fun n a => n.modifySignal (sig a) (g a)) n).signals =
        signalChannel n.signals :=
  foldl_invariant (P := fun m : Network => m.SetsSound (signalChannel n.signals) ∧
      signalChannel m.signals = signalChannel n.signals) ⟨h, rfl⟩ l fun _ a hm =>
    SetsSound.modifySignal hm (sig a) (hg a)

theorem ofExcept_setsSound (h : n.SetsSound (signalChannel n.signals)) {e : Except Failure Network}
    (he : ∀ n', e = .ok n' → n'.SetsSound (signalChannel n'.signals)) :
    (Outcome.ofExcept n e).net.SetsSound (signalChannel (Outcome.ofExcept n e).net.signals) :=
  ofExcept_invariant (P := fun m : Network => m.SetsSound (signalChannel m.signals)) h he

/-! ### Commands -/

theorem SetsSound.withRoadm (h : n.SetsSound (signalChannel n.signals)) {name : String}
    {f : Roadm → Except Failure Roadm} (hf : ∀ r r', f r = .ok r' → Roadm.Edit r r') {n' : Network}
    (he : n.withRoadm name f = .ok n') : n'.SetsSound (signalChannel n'.signals) := by
  unfold Network.withRoadm at he
  obtain ⟨r, hr, he⟩ := Except.bind_eq_ok.mp he
  obtain ⟨r', hr', he⟩ := Except.bind_eq_ok.mp he
  cases he
  obtain ⟨j, hj⟩ := roadmAt?_of_roadm hr
  exact h.setNode _ ((h.roadm hj).edit (hf r r' hr'))

/-- The amplifier found by name is one of the network's amplifiers. -/
theorem getElem?_of_amplifier {name : String} {a : Amplifier} (he : n.amplifier name = .ok a) :
    ∃ j : Nat, n.amps[j]? = some a := by
  unfold Network.amplifier at he
  split at he
  · rename_i a₀ h₀
    obtain ⟨j, -, hj⟩ := Option.bind_eq_some_iff.mp h₀
    cases he
    exact ⟨j, hj⟩
  · cases he

/-- An amplifier replaced by a call that keeps its carriers or forgets them all. -/
theorem SetsSound.withAmplifier (h : n.SetsSound (signalChannel n.signals)) {name : String}
    {f : Amplifier → Except Failure Amplifier}
    (hf : ∀ a a', f a = .ok a' → a'.signals = a.signals ∨ a'.signals = []) {n' : Network}
    (he : n.withAmplifier name f = .ok n') : n'.SetsSound (signalChannel n'.signals) := by
  unfold Network.withAmplifier at he
  obtain ⟨a, ha, he⟩ := Except.bind_eq_ok.mp he
  obtain ⟨a', ha', he⟩ := Except.bind_eq_ok.mp he
  cases he
  obtain ⟨j, hj⟩ := getElem?_of_amplifier ha
  have hsound : Sound (signalChannel n.signals) a'.signals := by
    rcases hf a a' ha' with hs | hs
    · rw [hs]
      exact h.amp hj
    · rw [hs]
      exact sound_nil
  exact ⟨h.roadm, h.terminal, sound_of_getElem?_set Amplifier.signals h.amp hsound,
    h.span⟩

theorem setGain_signals {a a' : Amplifier} {db : Float} (he : a.setGain db = .ok a') :
    a'.signals = a.signals := by
  unfold Amplifier.setGain at he
  split at he
  · cases he
  · cases he
    rfl

theorem SetsSound.resetLink (h : n.SetsSound (signalChannel n.signals)) {name : String}
    {n' : Network} (he : n.resetLink name = .ok n') : n'.SetsSound (signalChannel n'.signals) := by
  unfold Network.resetLink at he
  obtain ⟨l, -, he⟩ := Except.bind_eq_ok.mp he
  cases he
  -- signals forget the link's locations but keep their channels
  obtain ⟨hX, hXi⟩ := foldl_invariant (P := fun m : Network =>
      m.SetsSound (signalChannel n.signals) ∧ signalChannel m.signals = signalChannel n.signals)
    ⟨h, rfl⟩ l.locations fun m loc hm => foldl_invariant (P := fun m : Network =>
      m.SetsSound (signalChannel n.signals) ∧ signalChannel m.signals = signalChannel n.signals)
      hm (m.componentSignals loc)
      fun _ c hm' => SetsSound.modifySignal hm' c.sig fun s => (Signal.alike_forget s loc).index
  rw [← hXi] at hX
  -- the link's amplifiers and spans are reset and carry nothing afterwards
  refine foldl_invariant (P := fun m : Network => m.SetsSound (signalChannel m.signals)) ?_ l.hops
    fun m hop hm => ?_
  · split
    · exact hX.modifyAmp _ fun _ _ => sound_nil
    · exact hX
  · dsimp only
    have hs := hm.modifySpan hop.span (g := fun s => { s with signals := [] }) fun _ _ => sound_nil
    split
    · exact hs.modifyAmp _ fun _ _ => sound_nil
    · exact hs

/-- A new transmit binding pushes a signal, which only adds a channel. -/
theorem SetsSound.assocTx (h : n.SetsSound (signalChannel n.signals)) {t : Terminal}
    {trxId ch port : Int} {n' : Network} (he : n.assocTx t trxId ch port = .ok n') :
    n'.SetsSound (signalChannel n'.signals) := by
  rcases assocTx_eq_ok he with ⟨rfl, -⟩ | ⟨trx, s, -, -, -, -, rfl⟩
  · exact h
  refine SetsSound.modifyTerminal_bindings ?_ _ fun _ => ⟨rfl, rfl⟩
  exact (h.mono signalChannel_push).of_frame rfl rfl rfl

theorem SetsSound.resetNode (h : n.SetsSound (signalChannel n.signals)) (nd : Node) :
    (n.resetNode nd).SetsSound (signalChannel (n.resetNode nd).signals) := by
  cases nd with
  | terminal t =>
    -- the terminal's signals are switched off, and the terminal is cleared
    have hoff := h.foldl_modifySignal TxBinding.signal
      (g := fun _ s => { s.clearPath with active := false }) (fun _ _ => rfl) t.tx.values
    show (Network.modifyTerminal _ t.handle Terminal.clear).SetsSound (signalChannel
      (Network.modifyTerminal _ t.handle Terminal.clear).signals)
    rw [signals_modifyTerminal, hoff.2]
    exact hoff.1.modifyTerminal _ fun _ _ => ⟨tableSound_empty, tableSound_empty⟩
  | roadm r =>
    exact h.modifyRoadm _ fun _ _ => ⟨tableSound_empty, tableSound_empty, tableSound_empty⟩

theorem SetsSound.reset (h : n.SetsSound (signalChannel n.signals)) :
    n.reset.SetsSound (signalChannel n.reset.signals) := by
  have hN := foldl_invariant (P := fun m : Network => m.SetsSound (signalChannel m.signals)) h
    n.nodes.toList fun m nd hm => hm.resetNode nd
  refine ⟨hN.roadm, hN.terminal, fun {j a} ha => ?_, fun {j s} hs => ?_⟩
  · -- every amplifier is reset and carries nothing
    change (Array.map Amplifier.reset _)[j]? = some a at ha
    rw [Array.getElem?_map] at ha
    obtain ⟨a₀, -, rfl⟩ := Option.map_eq_some_iff.mp ha
    exact sound_nil
  · change (Array.map (fun s : Span => { s with signals := [] }) _)[j]? = some s at hs
    rw [Array.getElem?_map] at hs
    obtain ⟨s₀, -, rfl⟩ := Option.map_eq_some_iff.mp hs
    exact sound_nil

theorem SetsSound.turnOn (h : n.SetsSound (signalChannel n.signals)) (hb : n.BindingsSound)
    (name : String) (safe : Bool) :
    (n.turnOn name safe).net.SetsSound (signalChannel (n.turnOn name safe).net.signals) := by
  unfold Network.turnOn
  split
  · exact h
  · rename_i t ht
    split
    · exact h
    · dsimp only
      split
      · exact h
      · -- the transmitters are switched on, which changes no set and no channel, then a pass runs
        have hon := hb.switchOn (hb.terminalAt?_of_terminal ht)
        have hN := h.foldl_modifySignal TxBinding.signal
          (g := fun _ s => { s with active := true }) (fun _ _ => rfl) t.tx.values
        generalize List.foldl _ n t.tx.values = N at hon hN ⊢
        have hM := hN.1.modifyTerminal_bindings t.handle
          (g := fun t => { t with tx := t.tx.map fun _ (b : TxBinding) => { b with active := true } })
          fun _ => ⟨rfl, rfl⟩
        rw [← hN.2] at hM
        split
        · exact SetsSound.launch hM hon _ _ _ _
        · exact hM

theorem SetsSound.turnOff (h : n.SetsSound (signalChannel n.signals)) (hb : n.BindingsSound)
    (name : String) (channels : List Int) :
    (n.turnOff name channels).net.SetsSound (signalChannel (n.turnOff name channels).net.signals) := by
  unfold Network.turnOff
  split
  · exact h
  · rename_i t _
    dsimp only
    generalize (if channels.isEmpty then t.tx.keys else channels) = cs
    split
    · exact h
    · generalize hN : List.foldl _ n cs = N
      -- the channels are switched off one by one, keeping every set and every channel
      have hNs : N.BindingsSound ∧ N.SetsSound (signalChannel n.signals) ∧
          signalChannel N.signals = signalChannel n.signals := by
        rw [← hN]
        refine foldl_invariant (P := fun m : Network => m.BindingsSound ∧
          m.SetsSound (signalChannel n.signals) ∧ signalChannel m.signals = signalChannel n.signals)
          ⟨hb, h, rfl⟩ cs fun m ch hm => ?_
        split
        · rename_i b _
          have hoff := SetsSound.modifySignal hm.2 b.signal
            (g := fun s => { s.clearPath with active := false }) fun _ => rfl
          exact ⟨hm.1.switchOff ‹_›, hoff.1.modifyTerminal_bindings _ fun _ => ⟨rfl, rfl⟩, hoff.2⟩
        · exact hm
      obtain ⟨hNb, hNs, hNi⟩ := hNs
      rw [← hNi] at hNs
      split
      · exact hNs
      · split
        · exact SetsSound.launch hNs hNb _ _ _ _
        · exact hNs

/-- Every command keeps the stored sets sound, given sound bindings. -/
theorem SetsSound.execute (h : n.SetsSound (signalChannel n.signals)) (hb : n.BindingsSound)
    (c : Command) : (n.execute c).net.SetsSound (signalChannel (n.execute c).net.signals) := by
  cases c with
  | installRule => exact ofExcept_setsSound h fun _ he => h.withRoadm (fun _ _ hr => .install hr) he
  | deleteRule roadm id =>
    refine ofExcept_setsSound h fun _ he => h.withRoadm (fun r r' hr => ?_) he
    -- the empty id deletes every rule
    split at hr
    · cases hr
      exact .deleteAll r
    · exact .delete hr
  | updateRule => exact ofExcept_setsSound h fun _ he => h.withRoadm (fun _ _ hr => .update hr) he
  | configureVoa =>
    exact ofExcept_setsSound h fun _ he => h.withRoadm (fun _ _ hr => .configureVoa hr) he
  | assocTx =>
    refine ofExcept_setsSound h fun _ he => ?_
    obtain ⟨t, -, he⟩ := Except.bind_eq_ok.mp he
    exact h.assocTx he
  | assocRx =>
    refine ofExcept_setsSound h fun _ he => ?_
    obtain ⟨t, ht, he⟩ := Except.bind_eq_ok.mp he
    obtain ⟨t', hr, he⟩ := Except.bind_eq_ok.mp he
    cases he
    -- a receive binding leaves the terminal's sets as they were
    have hsets : t'.SetsSound (signalChannel n.signals) := by
      have hold := h.terminal (hb.terminalAt?_of_terminal ht)
      rcases Terminal.assocRx_eq_ok hr with rfl | ⟨-, -, rfl⟩
      · exact hold
      · exact ⟨hold.inSets, hold.outSets⟩
    exact h.setNode _ hsets
  | turnOn => exact h.turnOn hb _ _
  | turnOff => exact h.turnOff hb _ _
  | resetNode =>
    refine ofExcept_setsSound h fun _ he => ?_
    obtain ⟨nd, -, he⟩ := Except.bind_eq_ok.mp he
    cases he
    exact h.resetNode nd
  | setGain =>
    exact ofExcept_setsSound h fun _ he => h.withAmplifier (fun _ _ ha => .inl (setGain_signals ha)) he
  | resetAmplifier =>
    exact ofExcept_setsSound h fun _ he => h.withAmplifier (fun _ _ ha => by cases ha; exact .inr rfl) he
  | resetLink => exact ofExcept_setsSound h fun _ he => h.resetLink he
  | resetNetwork => exact h.reset

/-! ### Runs -/

theorem setsSound_empty (m : Nat) : (empty m).SetsSound index where
  roadm h := nomatch h
  terminal h := nomatch h
  amp h := by simp [empty] at h
  span h := by simp [empty] at h

/-- Every addition stores nothing: a new node and a new amplifier start empty, and a new link's
spans carry nothing yet. -/
theorem SetsSound.step {n' : Network} (h : n.SetsSound (signalChannel n.signals))
    (hb : n.BindingsSound) (hs : Step n n') : n'.SetsSound (signalChannel n'.signals) := by
  cases hs with
  | addTerminal he =>
    obtain ⟨-, t, ht, rfl, -⟩ := addTerminal_eq_ok he
    exact h.push rfl rfl rfl (Terminal.setsSound_create ht)
  | addRoadm he =>
    obtain ⟨-, pre, boo, c₁, claimed, -, -, rfl, -⟩ := addRoadm_eq_ok he
    exact h.push rfl rfl rfl ⟨tableSound_empty, tableSound_empty, tableSound_empty⟩
  | addAmplifier he =>
    obtain ⟨-, a, ha, rfl, -⟩ := addAmplifier_eq_ok he
    refine ⟨h.roadm, h.terminal, fun {j b} hj => ?_, h.span⟩
    change (n.amps.push a)[j]? = some b at hj
    rw [Array.getElem?_push] at hj
    split at hj
    · cases hj
      rw [Amplifier.create_signals ha]
      exact sound_nil
    · exact h.amp hj
  | addLink he =>
    obtain ⟨src, dst, name, boost, c₀, claimed, spans, hops, length, raman, -, -, -, -, -, -, -,
      hbuilt, rfl, -⟩ := addLink_eq_ok he
    refine ⟨h.roadm, h.terminal, h.amp, fun {j s} hj => ?_⟩
    change (n.spans ++ spans)[j]? = some s at hj
    rw [Array.getElem?_append] at hj
    split at hj
    · exact h.span hj
    · rw [hbuilt.fresh s (Array.mem_of_getElem? hj)]
      exact sound_nil
  | execute c => exact h.execute hb c

theorem SetsSound.unbind {n' : Network} (h : n.SetsSound (signalChannel n.signals))
    (hb : n.BindingsSound) (hu : Unbind n n') : n'.SetsSound (signalChannel n'.signals) := by
  cases hu with
  | @tx _ t t' ch ht he =>
    obtain ⟨-, -, -, rfl⟩ := Terminal.disassocTx_eq_ok he
    have hold := h.terminal (hb.terminalAt?_of_terminal ht)
    exact h.setNode _ (show Terminal.SetsSound _ _ from ⟨hold.inSets, hold.outSets⟩)
  | @rx _ t t' ch ht he =>
    obtain ⟨-, rfl⟩ := Terminal.disassocRx_eq_ok he
    have hold := h.terminal (hb.terminalAt?_of_terminal ht)
    exact h.setNode _ (show Terminal.SetsSound _ _ from ⟨hold.inSets, hold.outSets⟩)

/-- A run of additions, commands and unbindings from an empty network keeps every stored
channel set sound. -/
theorem setsSound_of_run {m : Nat} {n : Network}
    (hn : Relation.ReflTransGen (fun a b => Step a b ∨ Unbind a b) (empty m) n) :
    n.SetsSound (signalChannel n.signals) := by
  induction hn with
  | refl => exact setsSound_empty m
  | tail hrun hstep ih =>
    -- the bindings are sound along the run too, which the seeding of a pass needs
    have hb := bindingsSound_of_run hrun
    rcases hstep with hstep | hstep
    · exact ih.step hb hstep
    · exact ih.unbind hb hstep

/-! ### Monitors -/

/-- Every monitor watches a stored set. -/
theorem SetsSound.monitorOf (h : n.SetsSound index) {kind name : String} {i : Int} {mode : Mode}
    {mon : Monitor} (he : n.monitorOf kind name i mode = .ok mon) : Sound index mon.carriers := by
  unfold Network.monitorOf at he
  split at he
  · -- an amplifier's carriers
    unfold Network.amplifierMonitor at he
    obtain ⟨a, ha, he⟩ := Except.bind_eq_ok.mp he
    cases he
    obtain ⟨j, hj⟩ := getElem?_of_amplifier ha
    exact h.amp hj
  · split at he
    · -- a span's carriers
      unfold Network.spanMonitor at he
      obtain ⟨l, -, he⟩ := Except.bind_eq_ok.mp he
      split at he
      · cases he
      · rename_i hop _
        cases he
        cases hs : n.spans[hop.span]? with
        | none => exact sound_nil
        | some s => exact h.span hs
    · split at he
      · -- the set of a node port
        unfold Network.portMonitor at he
        obtain ⟨nd, hnd, he⟩ := Except.bind_eq_ok.mp he
        obtain ⟨-, he⟩ := Except.ite_throw_eq_ok he
        cases he
        have hsets := h.node (mem_of_node hnd)
        cases nd with
        | terminal t =>
          show Sound index ((((if _ then t.inSets else t.outSets)).get? i).getD [])
          split
          · exact hsets.inSets.getD i
          · exact hsets.outSets.getD i
        | roadm r =>
          show Sound index ((((if _ then r.inSets else r.outSets)).get? i).getD [])
          split
          · exact hsets.inSets.getD i
          · exact hsets.outSets.getD i
      · cases he

/-- Over every run from an empty network, every channel set the network stores is in strictly
increasing channel order, each carrier on the channel of its signal. So at every monitor,
`find?` gives the one carrier of a channel, and the readings are, row by row, what the
per-channel state says of each channel. -/
theorem channel_sets_stay_sorted {m : Nat} {n : Network}
    (hn : Relation.ReflTransGen (fun a b => Step a b ∨ Unbind a b) (empty m) n) :
    n.SetsSound (signalChannel n.signals) ∧
    ∀ {kind name : String} {i : Int} {mode : Mode} {mon : Monitor},
      n.monitorOf kind name i mode = .ok mon →
      (∀ ch c, mon.carriers.find? ch = some c ↔ c ∈ mon.carriers ∧ c.channel = ch) ∧
      mon.readings n.signals mode = mon.channels.filterMap fun ch =>
        (mon.state n.signals ch mode).map fun (st, s) =>
          ⟨ch, s.frequency, Units.wattsToDbm st.power, Units.wattsToDbm st.ase,
            Units.wattsToDbm st.nli, osnrDb st, gosnrDb st s.symbolRate⟩ := by
  have hs := setsSound_of_run hn
  refine ⟨hs, fun he => ⟨fun _ _ => (hs.monitorOf he).find?_eq_some_iff, ?_⟩⟩
  exact Monitor.readings_eq_of_sound (hs.monitorOf he) _

/-- A terminal bound to transmit and switched on keeps its sets sound. -/
theorem channel_sets_sorted_after_turn_on :
    let n₁ : Network := { empty 0 with
      nodes := #[.terminal ⟨0, "t", [⟨1, "t-trx1", 0, "QPSK", 0⟩], {}, {}, {}, {}, {}, {}, {}, false⟩]
      nodeByName := (∅ : Std.TreeMap String Nat).insert "t" 0 }
    let n : Network := ((n₁.execute (.assocTx "t" 1 1 1)).net.execute (.turnOn "t" false)).net
    Relation.ReflTransGen (fun a b => Step a b ∨ Unbind a b) (empty 0) n ∧
      n.SetsSound (signalChannel n.signals) := by
  intro n₁ n
  have hadd : (empty 0).addTerminal "t" [⟨1, "", 0, "", 0⟩] = .ok (n₁, 0) := by
    have hv : validName "t" = true := by decide
    simp only [addTerminal, hv]
    rfl
  have hrun : Relation.ReflTransGen (fun a b => Step a b ∨ Unbind a b) (empty 0) n :=
    ((Relation.ReflTransGen.single (.inl (.addTerminal hadd))).tail
      (.inl (.execute n₁ _))).tail (.inl (.execute _ _))
  exact ⟨hrun, (channel_sets_stay_sorted hrun).1⟩

end Network

end WdmNet

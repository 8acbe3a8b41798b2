import WdmNet.Proofs.Network.Bindings
import WdmNet.Proofs.Network.LinkReset
import WdmNet.Proofs.Pass.Budget
/-!
Networks that differ only in how their passes and signals are numbered.

A network counts its passes, and each pass marks what it writes with its number: the visits it
records on signals, the port marks of the nodes it delivers to, and the records and spans it
logs. Signals are kept in one list and everything that carries a signal refers to it by its
position. Two networks can therefore hold the same things and differ only in the numbers: one
ran `passes` more passes and holds `signals` more signals that nothing refers to.
`Network.Renumbered o n₁ n₂` says that `n₁` is `n₂` with its numbers moved on by the offset
`o`: its pass counter and every pass mark by `o.passes`, every signal position by `o.signals`,
and `o.signals` signals in front that nothing refers to.

The engine only compares pass numbers with each other and looks signals up by position, so it
cannot tell such networks apart: this module states the relation on each part of a network and
shows that every read of the engine gives the same answer on both and every write keeps the
relation. A table whose values move with the numbering is related to its image up to the order
of insertion (`IsImage`).

Main definitions: `Offset`, `IsImage`, `Event.renumber`, `Network.Renumbered`.
-/

namespace WdmNet

/-- How far the numbering of one network runs ahead of another's: by `passes` passes and by
`signals` signal positions. -/
structure Offset where
  passes : Nat
  signals : Nat

namespace Offset

variable (o : Offset)

/-- A carrier of the signal `signals` positions further on. -/
def carrier (c : Carrier) : Carrier := { c with sig := c.sig + o.signals }

/-- Every carrier of a set moved on. -/
def carriers (set : ChannelSet) : ChannelSet := set.map o.carrier

/-- A visit written `passes` passes later. -/
def visit (v : Visit) : Visit := { v with pass := v.pass + o.passes }

/-- A signal whose visits were all written `passes` passes later. -/
def signal (s : Signal) : Signal := { s with visits := s.visits.map o.visit }

/-- A transmit binding that owns the signal `signals` positions further on. -/
def binding (b : TxBinding) : TxBinding := { b with signal := b.signal + o.signals }

/-- An amplifier whose last carriers are moved on. -/
def amplifier (a : Amplifier) : Amplifier := { a with signals := o.carriers a.signals }

/-- A span whose last carriers are moved on. -/
def span (s : Span) : Span := { s with signals := o.carriers s.signals }

end Offset

namespace Offset

variable (o : Offset)

/-! ### What the engine reads of signals and carriers does not see the numbering -/

@[simp] theorem signal_default : o.signal default = default := rfl

@[simp] theorem signal_active (s : Signal) : (o.signal s).active = s.active := rfl

@[simp] theorem signal_index (s : Signal) : (o.signal s).index = s.index := rfl

@[simp] theorem signal_frequency (s : Signal) : (o.signal s).frequency = s.frequency := rfl

@[simp] theorem signal_symbolRate (s : Signal) : (o.signal s).symbolRate = s.symbolRate := rfl

theorem signal_truncate (s : Signal) (k : Nat) : o.signal (s.truncate k) = (o.signal s).truncate k := by
  unfold Signal.truncate
  by_cases hk : k ≥ s.visits.length
  · simp [signal, hk]
  · simp only [signal, List.length_map, hk, if_false, List.map_take, Signal.mk.injEq, true_and]
    rw [← List.map_drop, List.foldl_map]
    rfl

/-- Recording a visit commutes with the renumbering, the pass of the visit moving on too. -/
theorem signal_record (s : Signal) (prev loc : Location) (pass : Nat) (entry exit : SignalState) :
    o.signal (s.record prev loc pass entry exit) =
      (o.signal s).record prev loc (pass + o.passes) entry exit := by
  unfold Signal.record
  dsimp only
  rw [show (o.signal s).positions = s.positions from rfl, ← signal_truncate]
  simp [signal, visit]

theorem signal_forget (s : Signal) (loc : Location) : o.signal (s.forget loc) = (o.signal s).forget loc := by
  unfold Signal.forget
  rw [show (o.signal s).positions = s.positions from rfl]
  split
  · exact signal_truncate o s _
  · rfl

theorem signal_clearPath (s : Signal) : o.signal s.clearPath = (o.signal s).clearPath := rfl

@[simp] theorem visitedNode_signal (s : Signal) (h : Nat) :
    (o.signal s).visitedNode h = s.visitedNode h := by
  simp [Signal.visitedNode, signal, visit, Function.comp_def]

@[simp] theorem stateAt_signal (s : Signal) (loc : Location) (entry : Bool) :
    (o.signal s).stateAt loc entry = s.stateAt loc entry := by
  unfold Signal.stateAt
  rw [show (o.signal s).positions = s.positions from rfl]
  split
  · simp [signal, visit, Function.comp_def]
  · rfl

theorem signal_of_create {ch : Int} {rate : Float} {s : Signal} (h : Signal.create ch rate = .ok s) :
    o.signal s = s := by
  unfold Signal.create at h
  split at h
  · cases h
  · cases h
    rfl

@[simp] theorem carrier_sig (c : Carrier) : (o.carrier c).sig = c.sig + o.signals := rfl

@[simp] theorem carrier_channel (c : Carrier) : (o.carrier c).channel = c.channel := rfl

@[simp] theorem carrier_state (c : Carrier) : (o.carrier c).state = c.state := rfl

@[simp] theorem carriers_nil : o.carriers [] = [] := rfl

theorem carriers_cons (c : Carrier) (set : ChannelSet) :
    o.carriers (c :: set) = o.carrier c :: o.carriers set := rfl

theorem carriers_append (a b : ChannelSet) : o.carriers (a ++ b) = o.carriers a ++ o.carriers b :=
  List.map_append

@[simp] theorem getD_map_carriers (x : Option ChannelSet) : (x.map o.carriers).getD [] = o.carriers (x.getD []) := by
  cases x <;> rfl

@[simp] theorem isEmpty_carriers (set : ChannelSet) : (o.carriers set).isEmpty = set.isEmpty := by
  cases set <;> rfl

@[simp] theorem length_carriers (set : ChannelSet) : (o.carriers set).length = set.length :=
  List.length_map _

theorem channels_carriers (set : ChannelSet) : ChannelSet.channels (o.carriers set) = set.channels := by
  simp [carriers, ChannelSet.channels, Function.comp_def]

theorem find?_carriers (set : ChannelSet) (ch : Int) :
    ChannelSet.find? (o.carriers set) ch = (set.find? ch).map o.carrier := by
  simp [carriers, ChannelSet.find?, Function.comp_def]

/-- Moving every signal position on by the same amount keeps which carriers name the same
signal. -/
theorem sameAs_carriers (a b : ChannelSet) :
    ChannelSet.sameAs (o.carriers a) (o.carriers b) = ChannelSet.sameAs a b := by
  induction a generalizing b with
  | nil => cases b <;> rfl
  | cons c a ih =>
    cases b with
    | nil => rfl
    | cons d b =>
      have hsig : (c.sig + o.signals == d.sig + o.signals) = (c.sig == d.sig) := by
        rw [Bool.eq_iff_iff, beq_iff_eq, beq_iff_eq, Nat.add_right_cancel_iff]
      simp only [carriers_cons, ChannelSet.sameAs, ih, carrier_sig, carrier_state, hsig]

theorem sortByChannel_carriers (set : ChannelSet) :
    ChannelSet.sortByChannel (o.carriers set) = o.carriers set.sortByChannel := by
  unfold ChannelSet.sortByChannel carriers
  exact (List.map_mergeSort (r := fun a b : Carrier => decide (a.channel ≤ b.channel))
    (s := fun a b : Carrier => decide (a.channel ≤ b.channel)) (f := o.carrier)
    fun _ _ _ _ => rfl).symm

theorem channelPowers_carriers (set : ChannelSet) :
    Amplifier.channelPowers (o.carriers set) = Amplifier.channelPowers set := by
  simp [Amplifier.channelPowers, carriers, Function.comp_def]

/-! ### Amplifiers and spans read only the channel data of their carriers -/

@[simp] theorem amplifier_location (a : Amplifier) : (o.amplifier a).location = a.location := rfl

@[simp] theorem amplifier_name (a : Amplifier) : (o.amplifier a).name = a.name := rfl

@[simp] theorem span_location (s : Span) : (o.span s).location = s.location := rfl

theorem adjustGain_amplifier (a : Amplifier) (set : ChannelSet) :
    (o.amplifier a).adjustGain (o.carriers set) =
      (o.amplifier (a.adjustGain set).1, (a.adjustGain set).2) := by
  simp only [Amplifier.adjustGain, channelPowers_carriers]
  rfl

theorem amplifyState_carrier (a : Amplifier) (c : Carrier) :
    (o.amplifier a).amplifyState (o.carrier c) = a.amplifyState c := rfl

theorem transmit_carriers (s : Span) (m : RamanModel) (set : ChannelSet) :
    (o.span s).transmit m (o.carriers set) = s.transmit m set := by
  simp only [Span.transmit, Span.nliIncrements, Span.ramanFactors, carriers, List.map_map,
    List.zipWith_map_left, List.length_map]
  rfl

theorem amplifier_reset (a : Amplifier) : (o.amplifier a).reset = a.reset := rfl

theorem amplifier_of_reset (a : Amplifier) : o.amplifier a.reset = a.reset := rfl

end Offset

/-! ### Tables whose values move with the numbering -/

/-- `m₁` is the image of `m₂` under `g`: the same keys, and under each key the image of the
value of `m₂`. Two tables built by the same insertions and removals are equal only up to
`Std.TreeMap.Equiv`, so that is what the image is taken up to. -/
def IsImage {α β γ : Type} {cmp : α → α → Ordering} (g : β → γ) (m₁ : Std.TreeMap α γ cmp)
    (m₂ : Std.TreeMap α β cmp) : Prop :=
  m₁.Equiv (m₂.map fun _ v => g v)

namespace IsImage

variable {α β γ : Type} {cmp : α → α → Ordering} [Std.TransCmp cmp]
  {g : β → γ} {m₁ : Std.TreeMap α γ cmp} {m₂ : Std.TreeMap α β cmp}

theorem contains (h : IsImage g m₁ m₂) (k : α) : m₁.contains k = m₂.contains k := by
  rw [h.contains_eq, Std.TreeMap.contains_map]

theorem isEmpty (h : IsImage g m₁ m₂) : m₁.isEmpty = m₂.isEmpty := by
  rw [h.isEmpty_eq, Std.TreeMap.isEmpty_map]

theorem keys (h : IsImage g m₁ m₂) : m₁.keys = m₂.keys := by
  rw [h.keys_eq, Std.TreeMap.keys_map]

theorem toList (h : IsImage g m₁ m₂) : m₁.toList = m₂.toList.map fun p => (p.1, g p.2) := by
  rw [Std.TreeMap.equiv_iff_toList_eq.mp h, Std.TreeMap.toList_map]

theorem values (h : IsImage g m₁ m₂) : m₁.values = m₂.values.map g := by
  rw [TreeMap.values_eq_map_snd, TreeMap.values_eq_map_snd, h.toList, List.map_map,
    List.map_map]
  rfl

variable [Std.LawfulEqCmp cmp]

theorem getElem? (h : IsImage g m₁ m₂) (k : α) : m₁[k]? = m₂[k]?.map g := by
  rw [h.getElem?_eq, Std.TreeMap.getElem?_map]

theorem get? (h : IsImage g m₁ m₂) (k : α) : m₁.get? k = (m₂.get? k).map g := by
  simp only [Std.TreeMap.get?_eq_getElem?, h.getElem?]

theorem of_getElem? (h : ∀ k : α, m₁[k]? = m₂[k]?.map g) : IsImage g m₁ m₂ :=
  Std.TreeMap.Equiv.of_forall_constGet?_eq fun k => by rw [Std.TreeMap.getElem?_map, h]

theorem empty : IsImage g (∅ : Std.TreeMap α γ cmp) (∅ : Std.TreeMap α β cmp) :=
  of_getElem? fun _ => by simp

theorem insert (h : IsImage g m₁ m₂) (k : α) (v : β) :
    IsImage g (m₁.insert k (g v)) (m₂.insert k v) :=
  of_getElem? fun k' => by
    rw [Std.TreeMap.getElem?_insert, Std.TreeMap.getElem?_insert, h.getElem?]
    split <;> rfl

theorem erase (h : IsImage g m₁ m₂) (k : α) : IsImage g (m₁.erase k) (m₂.erase k) :=
  of_getElem? fun k' => by
    rw [Std.TreeMap.getElem?_erase, Std.TreeMap.getElem?_erase, h.getElem?]
    split <;> rfl

theorem map {f₁ : α → γ → γ} {f₂ : α → β → β} (h : IsImage g m₁ m₂)
    (hf : ∀ k v, f₁ k (g v) = g (f₂ k v)) : IsImage g (m₁.map f₁) (m₂.map f₂) :=
  of_getElem? fun k => by
    rw [Std.TreeMap.getElem?_map, Std.TreeMap.getElem?_map, h.getElem?]
    cases m₂[k]? <;> simp [hf]

end IsImage

theorem map_add_beq_some (x : Option Nat) (p k : Nat) :
    (x.map (· + k) == some (p + k)) = (x == some p) := by
  cases x <;> simp

/-- Two left folds over one list stay related when each step keeps the relation. -/
theorem foldl_rel {α β γ : Type} {R : β → γ → Prop} (l : List α) {f₁ : β → α → β}
    {f₂ : γ → α → γ} (hf : ∀ b c a, R b c → R (f₁ b a) (f₂ c a)) {b : β} {c : γ} (h : R b c) :
    R (l.foldl f₁ b) (l.foldl f₂ c) := by
  induction l generalizing b c with
  | nil => exact h
  | cons a l ih => exact ih (hf b c a h)

theorem foldl_rel_map {α α' β γ : Type} {R : β → γ → Prop} (l : List α) (g : α → α')
    {f₁ : β → α' → β} {f₂ : γ → α → γ} (hf : ∀ b c a, R b c → R (f₁ b (g a)) (f₂ c a)) {b : β}
    {c : γ} (h : R b c) : R ((l.map g).foldl f₁ b) (l.foldl f₂ c) := by
  rw [List.foldl_map]
  exact foldl_rel l hf h

/-! ### Results that agree -/

/-- Two results that fail with the same error, or succeed with values related by `R`. -/
inductive ResultRel {ε α β : Type} (R : α → β → Prop) : Except ε α → Except ε β → Prop
  | error (e : ε) : ResultRel R (.error e) (.error e)
  | ok {a : α} {b : β} : R a b → ResultRel R (.ok a) (.ok b)

namespace ResultRel

variable {ε α β γ δ : Type} {R : α → β → Prop} {S : γ → δ → Prop}

theorem bind {x₁ : Except ε α} {x₂ : Except ε β} {f₁ : α → Except ε γ} {f₂ : β → Except ε δ}
    (h : ResultRel R x₁ x₂) (hf : ∀ a b, R a b → ResultRel S (f₁ a) (f₂ b)) :
    ResultRel S (x₁ >>= f₁) (x₂ >>= f₂) := by
  cases h with
  | error e => exact .error e
  | ok hab => exact hf _ _ hab

end ResultRel

/-! ### Terminals -/

/-- `t₁` is `t₂` renumbered by `o`: the transmit bindings own signals moved on, the carriers at
the ports are moved on, the port marks name passes moved on, and all the rest is the same. -/
structure Terminal.Renumbered (o : Offset) (t₁ t₂ : Terminal) : Prop where
  handle : t₁.handle = t₂.handle
  name : t₁.name = t₂.name
  transceivers : t₁.transceivers = t₂.transceivers
  tx : IsImage o.binding t₁.tx t₂.tx
  rx : t₁.rx = t₂.rx
  inSets : IsImage o.carriers t₁.inSets t₂.inSets
  outSets : IsImage o.carriers t₁.outSets t₂.outSets
  portPass : IsImage (· + o.passes) t₁.portPass t₂.portPass
  pending : t₁.pending = t₂.pending
  reports : t₁.reports = t₂.reports
  listening : t₁.listening = t₂.listening

namespace Terminal.Renumbered

variable {o : Offset} {t₁ t₂ : Terminal}

theorem clear (h : t₁.Renumbered o t₂) : t₁.clear.Renumbered o t₂.clear :=
  { h with tx := .empty, rx := rfl, inSets := .empty, outSets := .empty, portPass := .empty,
           pending := rfl, reports := rfl }

theorem transceiver? (h : t₁.Renumbered o t₂) (id : Int) : t₁.transceiver? id = t₂.transceiver? id := by
  rw [Terminal.transceiver?, h.transceivers]
  rfl

theorem portSet (h : t₁.Renumbered o t₂) (port : Int) (entry : Bool) :
    t₁.portSet port entry = o.carriers (t₂.portSet port entry) := by
  cases entry
  · show (t₁.outSets.get? port).getD [] = o.carriers ((t₂.outSets.get? port).getD [])
    rw [h.outSets.get?, Offset.getD_map_carriers]
  · show (t₁.inSets.get? port).getD [] = o.carriers ((t₂.inSets.get? port).getD [])
    rw [h.inSets.get?, Offset.getD_map_carriers]

theorem txPorts (h : t₁.Renumbered o t₂) (channels : List Int) :
    t₁.txPorts channels = t₂.txPorts channels := by
  simp only [Terminal.txPorts, h.tx.get?, Option.map_map]
  rfl

theorem activeChannels (h : t₁.Renumbered o t₂) : t₁.activeChannels = t₂.activeChannels := by
  simp only [Terminal.activeChannels, h.tx.toList, List.filterMap_map]
  rfl

/-- A delivery of the moved carriers in the moved pass is stored alike, and marks the port
pending alike. -/
theorem accept (h : t₁.Renumbered o t₂) (pass : Nat) (port : Int) (set : ChannelSet) :
    (t₁.accept (pass + o.passes) port (o.carriers set)).Renumbered o (t₂.accept pass port set) :=
  { h with
    portPass := h.portPass.insert port pass
    inSets := h.inSets.insert port set
    pending := by
      simp only [Terminal.accept, h.portPass.get?, map_add_beq_some, h.inSets.get?,
        Offset.getD_map_carriers, Offset.sameAs_carriers, h.pending] }

/-- A report reads a carrier's state and the symbol rate of its signal, which the moved rate
gives at the moved position. -/
theorem report (h : t₁.Renumbered o t₂) {rate₁ rate₂ : Nat → Float}
    (hrate : ∀ i, rate₁ (i + o.signals) = rate₂ i) (ch : Int) (b : RxBinding) :
    t₁.report rate₁ ch b = t₂.report rate₂ ch b := by
  unfold Terminal.report
  rw [h.transceiver?, h.portSet, Offset.find?_carriers]
  cases (t₂.portSet b.port true).find? ch with
  | none => rfl
  | some c => simp [hrate]

theorem receive (h : t₁.Renumbered o t₂) (rate₁ rate₂ : Nat → Float)
    (hrate : ∀ i, rate₁ (i + o.signals) = rate₂ i) :
    (t₁.receive rate₁).1 = (t₂.receive rate₂).1 ∧
      (t₁.receive rate₁).2.Renumbered o (t₂.receive rate₂).2 := by
  have hrep : t₁.report rate₁ = t₂.report rate₂ := funext fun ch => funext (h.report hrate ch)
  refine ⟨?_, { h with pending := rfl, reports := ?_ }⟩
  · simp only [Terminal.receive, hrep, h.pending, h.rx]
  · simp only [Terminal.receive, hrep, h.pending, h.rx, h.reports]

end Terminal.Renumbered

/-- The terminal `t` with the bindings, carriers and port marks of `s`: what a change that
reads only the rest of a terminal cannot tell apart. -/
def Terminal.withPorts (t s : Terminal) : Terminal :=
  { t with tx := s.tx, inSets := s.inSets, outSets := s.outSets, portPass := s.portPass }

theorem Terminal.withPorts_self (t : Terminal) : t.withPorts t = t := rfl

theorem Terminal.Renumbered.withPorts_eq {o : Offset} {t₁ t₂ : Terminal} (h : t₁.Renumbered o t₂) :
    t₂.withPorts t₁ = t₁ := by
  obtain ⟨hh, hn, htr, -, hrx, -, -, -, hp, hr, hl⟩ := h
  cases t₁
  cases t₂
  simp_all [Terminal.withPorts]

/-- A change of a terminal that does not look at its bindings, carriers and port marks, and
keeps them, keeps the renumbering. -/
theorem Terminal.Renumbered.change {o : Offset} {t₁ t₂ : Terminal}
    {f : Terminal → Except Failure Terminal} (hf : ∀ t s, f (t.withPorts s) = (·.withPorts s) <$> f t)
    (h : t₁.Renumbered o t₂) : ResultRel (Terminal.Renumbered o) (f t₁) (f t₂) := by
  have h₁ : f t₁ = (·.withPorts t₁) <$> f t₂ := by rw [← hf, h.withPorts_eq]
  have h₂ := hf t₂ t₂
  rw [Terminal.withPorts_self] at h₂
  rw [h₁]
  cases hr : f t₂ with
  | error e => exact .error e
  | ok t' =>
    -- the change kept the port state of `t₂`
    rw [hr] at h₂
    have ht' : t' = t'.withPorts t₂ := Except.ok.inj h₂
    rw [ht']
    exact .ok { h with handle := rfl, name := rfl, transceivers := rfl, rx := rfl, pending := rfl,
                       reports := rfl, listening := rfl }

theorem Terminal.assocRx_withPorts (t s : Terminal) (trx ch port : Int) :
    (t.withPorts s).assocRx trx ch port = (·.withPorts s) <$> t.assocRx trx ch port := by
  unfold Terminal.assocRx
  rw [show (t.withPorts s).transceiver? trx = t.transceiver? trx from rfl,
    show (t.withPorts s).rx = t.rx from rfl]
  -- the checks and the table of receive bindings are read alike on both sides
  split
  · dsimp only
    split
    · rfl
    split
    · rfl
    split
    · split <;> rfl
    · split <;> rfl
  · rfl

/-! ### ROADMs -/

/-- `r₁` is `r₂` renumbered by `o`: the carriers at the ports and the processed inputs are
moved on, the port marks name passes moved on, and all the rest is the same. -/
structure Roadm.Renumbered (o : Offset) (r₁ r₂ : Roadm) : Prop where
  handle : r₁.handle = r₂.handle
  name : r₁.name = r₂.name
  config : r₁.config = r₂.config
  preamps : r₁.preamps = r₂.preamps
  boosts : r₁.boosts = r₂.boosts
  rules : r₁.rules = r₂.rules
  route : r₁.route = r₂.route
  voa : r₁.voa = r₂.voa
  inSets : IsImage o.carriers r₁.inSets r₂.inSets
  inProc : IsImage o.carriers r₁.inProc r₂.inProc
  portPass : IsImage (· + o.passes) r₁.portPass r₂.portPass
  pending : r₁.pending = r₂.pending
  outSets : IsImage o.carriers r₁.outSets r₂.outSets
  outSrc : r₁.outSrc = r₂.outSrc
  busy : r₁.busy = r₂.busy

/-- The ROADM `r` with the carriers, processed inputs and port marks of `s`. -/
def Roadm.withPorts (r s : Roadm) : Roadm :=
  { r with inSets := s.inSets, inProc := s.inProc, portPass := s.portPass, outSets := s.outSets }

theorem Roadm.withPorts_self (r : Roadm) : r.withPorts r = r := rfl

namespace Roadm.Renumbered

variable {o : Offset} {r₁ r₂ : Roadm}

theorem withPorts_eq (h : r₁.Renumbered o r₂) : r₂.withPorts r₁ = r₁ := by
  obtain ⟨hh, hn, hc, hpre, hboo, hru, hro, hv, -, -, -, hp, -, hsrc, hb⟩ := h
  cases r₁
  cases r₂
  simp_all [Roadm.withPorts]

/-- A change of a ROADM that does not look at its port state, and keeps it, keeps the
renumbering. -/
theorem change {f : Roadm → Except Failure Roadm}
    (hf : ∀ r s, f (r.withPorts s) = (·.withPorts s) <$> f r) (h : r₁.Renumbered o r₂) :
    ResultRel (Roadm.Renumbered o) (f r₁) (f r₂) := by
  have h₁ : f r₁ = (·.withPorts r₁) <$> f r₂ := by rw [← hf, h.withPorts_eq]
  have h₂ := hf r₂ r₂
  rw [Roadm.withPorts_self] at h₂
  rw [h₁]
  cases hr : f r₂ with
  | error e => exact .error e
  | ok r' =>
    -- the change kept the port state of `r₂`
    rw [hr] at h₂
    have hr' : r' = r'.withPorts r₂ := Except.ok.inj h₂
    rw [hr']
    exact .ok { h with handle := rfl, name := rfl, config := rfl, preamps := rfl, boosts := rfl,
                       rules := rfl, route := rfl, voa := rfl, pending := rfl, outSrc := rfl, busy := rfl }

theorem portSet (h : r₁.Renumbered o r₂) (port : Int) (entry : Bool) :
    r₁.portSet port entry = o.carriers (r₂.portSet port entry) := by
  cases entry
  · show (r₁.outSets.get? port).getD [] = o.carriers ((r₂.outSets.get? port).getD [])
    rw [h.outSets.get?, Offset.getD_map_carriers]
  · show (r₁.inSets.get? port).getD [] = o.carriers ((r₂.inSets.get? port).getD [])
    rw [h.inSets.get?, Offset.getD_map_carriers]

theorem ruleFor (h : r₁.Renumbered o r₂) : r₁.ruleFor = r₂.ruleFor := by
  unfold Roadm.ruleFor
  rw [h.route, h.rules]

theorem voaTarget (h : r₁.Renumbered o r₂) : r₁.voaTarget = r₂.voaTarget := by
  unfold Roadm.voaTarget
  rw [h.voa, h.config]

theorem affectedOutputs (h : r₁.Renumbered o r₂) : r₁.affectedOutputs = r₂.affectedOutputs := by
  unfold Roadm.affectedOutputs
  rw [h.rules, h.outSrc]

theorem accept (h : r₁.Renumbered o r₂) (pass : Nat) (port : Int) (set : ChannelSet) :
    (r₁.accept (pass + o.passes) port (o.carriers set)).Renumbered o (r₂.accept pass port set) :=
  { h with
    portPass := h.portPass.insert port pass
    inSets := h.inSets.insert port set
    pending := by
      simp only [Roadm.accept, h.portPass.get?, map_add_beq_some, h.inSets.get?,
        Offset.getD_map_carriers, Offset.sameAs_carriers, h.pending] }

theorem reset (h : r₁.Renumbered o r₂) : r₁.reset.Renumbered o r₂.reset :=
  { h with rules := rfl, route := rfl, voa := rfl, inSets := .empty, inProc := .empty,
           portPass := .empty, pending := rfl, outSets := .empty, outSrc := rfl, busy := rfl }

/-- Taking a rule out filters the carriers of its output by channel and source, which the
renumbering does not change. -/
theorem removeRule (h : r₁.Renumbered o r₂) (rule : SwitchRule) :
    (r₁.removeRule rule).Renumbered o (r₂.removeRule rule) := by
  refine { h with rules := by simp only [Roadm.removeRule, h.rules]
                  route := by simp only [Roadm.removeRule, h.route]
                  outSets := ?_ }
  simp only [Roadm.removeRule, h.outSets.get?, h.outSrc]
  cases r₂.outSets.get? rule.outPort with
  | none => exact h.outSets
  | some set =>
    simp only [Option.map_some]
    rw [Offset.carriers, List.filter_map]
    exact h.outSets.insert _ _

theorem deleteRule (h : r₁.Renumbered o r₂) (ruleId : String) :
    ResultRel (Roadm.Renumbered o) (r₁.deleteRule ruleId) (r₂.deleteRule ruleId) := by
  unfold Roadm.deleteRule
  rw [h.rules, h.name]
  cases r₂.rules.get? ruleId with
  | none => exact .error _
  | some rule => exact .ok (h.removeRule rule)

theorem deleteAllRules (h : r₁.Renumbered o r₂) :
    r₁.deleteAllRules.Renumbered o r₂.deleteAllRules := by
  unfold Roadm.deleteAllRules
  rw [h.rules]
  refine foldl_rel _ (fun a₁ a₂ id ha => ?_) h
  rw [ha.rules]
  split
  · exact ha.removeRule _
  · exact ha

theorem updateRule (h : r₁.Renumbered o r₂) (ruleId : String) (newOut : Int) :
    ResultRel (Roadm.Renumbered o) (r₁.updateRule ruleId newOut) (r₂.updateRule ruleId newOut) := by
  unfold Roadm.updateRule
  rw [h.rules, h.name]
  cases r₂.rules.get? ruleId with
  | none => exact .error _
  | some rule =>
    dsimp only
    split
    · exact .error _
    · split
      · exact .ok h
      · have hrm := h.removeRule rule
        exact .ok { hrm with
          rules := by simp only [hrm.rules]
          route := by simp only [hrm.route] }

theorem installRule_withPorts (r s : Roadm) (ruleId : String) (i o : Int) (chs : List Int) :
    (r.withPorts s).installRule ruleId i o chs = (·.withPorts s) <$> r.installRule ruleId i o chs := by
  unfold Roadm.installRule
  dsimp only
  -- the checks before the table see neither side's port state
  split
  · rfl
  split
  · rfl
  split
  · rfl
  rw [map_bind]
  congr 1
  funext u
  split
  · rename_i existing hex
    rw [show r.rules.get? _ = some existing from hex]
    dsimp only
    split <;> rfl
  · rename_i hnone
    rw [show r.rules.get? _ = none from hnone]
    dsimp only
    rw [map_bind]
    rfl

theorem configureVoa_withPorts (r s : Roadm) (ch outPort : Int) (powerDbm : Float) :
    (r.withPorts s).configureVoa ch outPort powerDbm =
      (·.withPorts s) <$> r.configureVoa ch outPort powerDbm := by
  unfold Roadm.configureVoa
  split
  · rfl
  · split
    · rfl
    · split <;> rfl

end Roadm.Renumbered

/-! ### Nodes and networks -/

/-- Nodes of the same kind, the first renumbered from the second. -/
inductive Node.Renumbered (o : Offset) : Node → Node → Prop
  | terminal {t₁ t₂ : Terminal} : t₁.Renumbered o t₂ → Node.Renumbered o (.terminal t₁) (.terminal t₂)
  | roadm {r₁ r₂ : Roadm} : r₁.Renumbered o r₂ → Node.Renumbered o (.roadm r₁) (.roadm r₂)

namespace Node.Renumbered

variable {o : Offset} {nd₁ nd₂ : Node}

theorem name (h : nd₁.Renumbered o nd₂) : nd₁.name = nd₂.name := by
  cases h with
  | terminal ht => exact ht.name
  | roadm hr => exact hr.name

theorem handle (h : nd₁.Renumbered o nd₂) : nd₁.handle = nd₂.handle := by
  cases h with
  | terminal ht => exact ht.handle
  | roadm hr => exact hr.handle

theorem portSet (h : nd₁.Renumbered o nd₂) (port : Int) (entry : Bool) :
    nd₁.portSet port entry = o.carriers (nd₂.portSet port entry) := by
  cases h with
  | terminal ht => exact ht.portSet port entry
  | roadm hr => exact hr.portSet port entry

end Node.Renumbered

theorem optionRel_none_iff {α β : Type} {R : α → β → Prop} {x : Option α} {y : Option β}
    (h : Option.Rel R x y) : x = none ↔ y = none := by
  cases h <;> simp

/-- A map of related values keeps related options related. -/
theorem optionRel_map {α β γ δ : Type} {R : α → β → Prop} {S : γ → δ → Prop} {x : Option α}
    {y : Option β} {f : α → γ} {g : β → δ} (h : Option.Rel R x y) (hfg : ∀ a b, R a b → S (f a) (g b)) :
    Option.Rel S (x.map f) (y.map g) := by
  cases h with
  | some hab => exact .some (hfg _ _ hab)
  | none => exact .none

/-- `n₁` is `n₂` renumbered by `o`. The pass counter is `o.passes` ahead; the nodes are
pairwise renumbered; the amplifiers and spans hold the moved carriers; the signal list is
`o.signals` longer, and the signal at each moved position is the signal of `n₂` with its
visits moved on. The signals in front are not constrained: nothing refers to them. The rest
is the same. -/
structure Network.Renumbered (o : Offset) (n₁ n₂ : Network) : Prop where
  maxSwitches : n₁.maxSwitches = n₂.maxSwitches
  passSeq : n₁.passSeq = n₂.passSeq + o.passes
  nodes : ∀ i : Nat, Option.Rel (Node.Renumbered o) n₁.nodes[i]? n₂.nodes[i]?
  nodeByName : n₁.nodeByName = n₂.nodeByName
  amps : n₁.amps = n₂.amps.map o.amplifier
  ampByName : n₁.ampByName = n₂.ampByName
  ampOnLink : n₁.ampOnLink = n₂.ampOnLink
  ampOnNode : n₁.ampOnNode = n₂.ampOnNode
  spans : n₁.spans = n₂.spans.map o.span
  links : n₁.links = n₂.links
  linkByName : n₁.linkByName = n₂.linkByName
  outLinks : n₁.outLinks = n₂.outLinks
  inLinks : n₁.inLinks = n₂.inLinks
  size : n₁.signals.size = n₂.signals.size + o.signals
  signal : ∀ i, n₁.signal (i + o.signals) = o.signal (n₂.signal i)

theorem Network.signal_modifySignal_of_ge {n : Network} {j i : Nat} (g : Signal → Signal)
    (hi : n.signals.size ≤ i) : (n.modifySignal j g).signal i = n.signal i := by
  unfold Network.signal Network.modifySignal
  rw [Array.getElem?_modify]
  split <;> simp [Array.getElem?_eq_none hi]

namespace Network.Renumbered

variable {o : Offset} {n₁ n₂ : Network}

theorem nodes_size (h : n₁.Renumbered o n₂) : n₁.nodes.size = n₂.nodes.size := by
  -- a position past the end of one array is past the end of the other
  have hnone : ∀ i, n₁.nodes[i]? = none ↔ n₂.nodes[i]? = none := fun i =>
    optionRel_none_iff (h.nodes i)
  simp only [Array.getElem?_eq_none_iff] at hnone
  exact Nat.le_antisymm ((hnone _).mpr le_rfl) ((hnone _).mp le_rfl)

theorem terminalAt? (h : n₁.Renumbered o n₂) (th : Nat) :
    Option.Rel (Terminal.Renumbered o) (n₁.terminalAt? th) (n₂.terminalAt? th) := by
  unfold Network.terminalAt?
  have hrel := h.nodes th
  generalize n₁.nodes[th]? = x₁ at hrel ⊢
  generalize n₂.nodes[th]? = x₂ at hrel ⊢
  cases hrel with
  | some hnd => cases hnd with
    | terminal ht => exact .some ht
    | roadm => exact .none
  | none => exact .none

theorem roadmAt? (h : n₁.Renumbered o n₂) (rh : Nat) :
    Option.Rel (Roadm.Renumbered o) (n₁.roadmAt? rh) (n₂.roadmAt? rh) := by
  unfold Network.roadmAt?
  have hrel := h.nodes rh
  generalize n₁.nodes[rh]? = x₁ at hrel ⊢
  generalize n₂.nodes[rh]? = x₂ at hrel ⊢
  cases hrel with
  | some hnd => cases hnd with
    | terminal => exact .none
    | roadm hr => exact .some hr
  | none => exact .none

theorem nodeName (h : n₁.Renumbered o n₂) (nh : Nat) : n₁.nodeName nh = n₂.nodeName nh := by
  unfold Network.nodeName
  have hrel := h.nodes nh
  generalize n₁.nodes[nh]? = x₁ at hrel ⊢
  generalize n₂.nodes[nh]? = x₂ at hrel ⊢
  cases hrel with
  | some hnd => exact congrArg (Option.getD · "") (congrArg some hnd.name)
  | none => rfl

theorem node (h : n₁.Renumbered o n₂) (name : String) :
    ResultRel (Node.Renumbered o) (n₁.node name) (n₂.node name) := by
  unfold Network.node
  rw [h.nodeByName]
  cases n₂.nodeByName.get? name with
  | none => exact .error _
  | some nh =>
    rw [Option.bind_eq_bind, Option.bind_some, Option.bind_some]
    have hrel := h.nodes nh
    generalize n₁.nodes[nh]? = x₁ at hrel ⊢
    generalize n₂.nodes[nh]? = x₂ at hrel ⊢
    cases hrel with
    | some hnd => exact .ok hnd
    | none => exact .error _

theorem terminal (h : n₁.Renumbered o n₂) (name : String) :
    ResultRel (Terminal.Renumbered o) (n₁.terminal name) (n₂.terminal name) := by
  unfold Network.terminal
  refine (h.node name).bind fun nd₁ nd₂ hnd => ?_
  cases hnd with
  | terminal ht => exact .ok ht
  | roadm => exact .error _

theorem roadm (h : n₁.Renumbered o n₂) (name : String) :
    ResultRel (Roadm.Renumbered o) (n₁.roadm name) (n₂.roadm name) := by
  unfold Network.roadm
  refine (h.node name).bind fun nd₁ nd₂ hnd => ?_
  cases hnd with
  | terminal => exact .error _
  | roadm hr => exact .ok hr

theorem amplifier (h : n₁.Renumbered o n₂) (name : String) :
    n₁.amplifier name = o.amplifier <$> n₂.amplifier name := by
  unfold Network.amplifier
  rw [h.ampByName, h.amps]
  cases n₂.ampByName.get? name with
  | none => rfl
  | some ah =>
    rw [Option.bind_eq_bind, Option.bind_some, Option.bind_some, Array.getElem?_map]
    cases n₂.amps[ah]? <;> rfl

theorem link (h : n₁.Renumbered o n₂) : n₁.link = n₂.link := by
  unfold Network.link
  rw [h.linkByName, h.links]

theorem outboundLink (h : n₁.Renumbered o n₂) : n₁.outboundLink = n₂.outboundLink := by
  unfold Network.outboundLink
  rw [h.outLinks, h.links]

theorem inboundLink (h : n₁.Renumbered o n₂) : n₁.inboundLink = n₂.inboundLink := by
  unfold Network.inboundLink
  rw [h.inLinks, h.links]

theorem componentSignals (h : n₁.Renumbered o n₂) (loc : Location) :
    n₁.componentSignals loc = o.carriers (n₂.componentSignals loc) := by
  unfold Network.componentSignals
  split
  · rw [h.spans, Array.getElem?_map]
    cases n₂.spans[loc.id.toNat]? <;> rfl
  · rw [h.amps, Array.getElem?_map]
    cases n₂.amps[loc.id.toNat]? <;> rfl
  · rfl

/-- A change of one signal that commutes with the renumbering, made at the moved position,
keeps the renumbering. -/
theorem modifySignal (h : n₁.Renumbered o n₂) {f₁ f₂ : Signal → Signal}
    (hf : ∀ s, f₁ (o.signal s) = o.signal (f₂ s)) (j : Nat) :
    (n₁.modifySignal (j + o.signals) f₁).Renumbered o (n₂.modifySignal j f₂) :=
  { h with
    size := by simpa [Network.modifySignal] using h.size
    signal := fun i => by
      by_cases hi : i < n₂.signals.size
      · rw [signal_modifySignal_of_lt _ (by rw [h.size]; omega), signal_modifySignal_of_lt _ hi,
          h.signal]
        by_cases hji : j = i
        · rw [if_pos (by omega), if_pos hji, hf]
        · rw [if_neg (by omega), if_neg hji]
      · -- past the end nothing changes, on either side
        rw [signal_modifySignal_of_ge _ (by rw [h.size]; omega),
          signal_modifySignal_of_ge _ (by omega), h.signal] }

theorem push (h : n₁.Renumbered o n₂) {s : Signal} (hs : o.signal s = s) :
    ({ n₁ with signals := n₁.signals.push s } : Network).Renumbered o
      { n₂ with signals := n₂.signals.push s } :=
  { h with
    size := by simp [h.size]; omega
    signal := fun i => by
      rw [signal_push, signal_push, h.size, h.signal]
      by_cases hi : i = n₂.signals.size
      · rw [if_pos (by omega), if_pos hi, hs]
      · rw [if_neg (by omega), if_neg hi] }

/-- A change of the node at one handle keeps the renumbering when it keeps the renumbering of
the node. -/
theorem modifyNodes (h : n₁.Renumbered o n₂) {g₁ g₂ : Node → Node}
    (hg : ∀ nd₁ nd₂, nd₁.Renumbered o nd₂ → (g₁ nd₁).Renumbered o (g₂ nd₂)) (nh : Nat) :
    ({ n₁ with nodes := n₁.nodes.modify nh g₁ } : Network).Renumbered o
      { n₂ with nodes := n₂.nodes.modify nh g₂ } :=
  { h with
    nodes := fun i => by
      simp only [Array.getElem?_modify]
      split
      · exact optionRel_map (h.nodes i) hg
      · exact h.nodes i }

theorem modifyTerminal (h : n₁.Renumbered o n₂) {g₁ g₂ : Terminal → Terminal}
    (hg : ∀ t₁ t₂, t₁.Renumbered o t₂ → (g₁ t₁).Renumbered o (g₂ t₂)) (th : Nat) :
    (n₁.modifyTerminal th g₁).Renumbered o (n₂.modifyTerminal th g₂) :=
  h.modifyNodes (fun _ _ hnd => by
    cases hnd with
    | terminal ht => exact .terminal (hg _ _ ht)
    | roadm hr => exact .roadm hr) th

theorem modifyRoadm (h : n₁.Renumbered o n₂) {g₁ g₂ : Roadm → Roadm}
    (hg : ∀ r₁ r₂, r₁.Renumbered o r₂ → (g₁ r₁).Renumbered o (g₂ r₂)) (rh : Nat) :
    (n₁.modifyRoadm rh g₁).Renumbered o (n₂.modifyRoadm rh g₂) :=
  h.modifyNodes (fun _ _ hnd => by
    cases hnd with
    | terminal ht => exact .terminal ht
    | roadm hr => exact .roadm (hg _ _ hr)) rh

theorem setNode (h : n₁.Renumbered o n₂) {nd₁ nd₂ : Node} (hnd : nd₁.Renumbered o nd₂) (nh : Nat) :
    (n₁.setNode nh nd₁).Renumbered o (n₂.setNode nh nd₂) :=
  { h with
    nodes := fun i => by
      simp only [Network.setNode, Array.set!_eq_setIfInBounds, Array.getElem?_setIfInBounds,
        h.nodes_size]
      split
      · split
        · exact .some hnd
        · exact .none
      · exact h.nodes i }

/-- A change of one amplifier that commutes with moving its carriers keeps the renumbering. -/
theorem modifyAmp (h : n₁.Renumbered o n₂) {g₁ g₂ : Amplifier → Amplifier}
    (hg : ∀ a, g₁ (o.amplifier a) = o.amplifier (g₂ a)) (ah : Nat) :
    (n₁.modifyAmp ah g₁).Renumbered o (n₂.modifyAmp ah g₂) :=
  { h with
    amps := by
      simp only [Network.modifyAmp, h.amps]
      refine Array.ext_getElem? fun i => ?_
      simp only [Array.getElem?_modify, Array.getElem?_map]
      split
      · cases n₂.amps[i]? <;> simp [hg]
      · rfl }

theorem modifySpan (h : n₁.Renumbered o n₂) {g₁ g₂ : Span → Span}
    (hg : ∀ s, g₁ (o.span s) = o.span (g₂ s)) (sh : Nat) :
    (n₁.modifySpan sh g₁).Renumbered o (n₂.modifySpan sh g₂) :=
  { h with
    spans := by
      simp only [Network.modifySpan, h.spans]
      refine Array.ext_getElem? fun i => ?_
      simp only [Array.getElem?_modify, Array.getElem?_map]
      split
      · cases n₂.spans[i]? <;> simp [hg]
      · rfl }

end Network.Renumbered

/-! ### Pass numbers in what a pass tells -/

/-- The pass attribute of a record with the pass number moved on by `δ`; every other attribute
stays. -/
def Log.Attr.renumber (δ : Nat) (a : Log.Attr) : Log.Attr :=
  match a.value with
  | .count k => if a.key = "pass" then { a with value := .count (k + δ) } else a
  | _ => a

/-- The pass attribute of a span with the pass number moved on by `δ`. -/
def Trace.renumberAttr (δ : Nat) (a : String × Trace.AttrValue) : String × Trace.AttrValue :=
  match a.2 with
  | .int i => if a.1 = "pass" then (a.1, .int (i + δ)) else a
  | _ => a

/-- An event with every pass number in it moved on by `δ`: the pass attribute of a record or
a span. No other event names a pass. -/
def Event.renumber (δ : Nat) : Event → Event
  | .logged r => .logged { r with attrs := r.attrs.map (Log.Attr.renumber δ) }
  | .traced sp => .traced { sp with attrs := sp.attrs.map (Trace.renumberAttr δ) }
  | e => e

end WdmNet

import WdmNet.Proofs.Terminal.Bindings
import WdmNet.Proofs.Network.Additions
import WdmNet.Proofs.Network.Invariant
import WdmNet.Proofs.Network.Reachable
import WdmNet.Proofs.Pass.Frame
/-!
The bindings of the terminals of a network.

`Network.BindingsSound` says that the bindings of every terminal are sound against the
network's signals (`Terminal.BindingsSound`), that every terminal sits at the position its
handle names, and that every transmit binding owns a signal of the network that no other
binding owns. The last part is what lets a terminal switch its own signals on and off without
touching another terminal's: a new binding launches a new signal, pushed after all others.

Every change of a terminal that a program makes is one replacement of a terminal by another
(`Network.BindingsSound.replace`): a binding of the new terminal is an old one with the same
signal, or owns a new signal alone. Binding, unbinding, switching on and off and resetting a
terminal are such replacements, and a pass only stores port state and reports. So the
bindings stay sound through every addition, every command and every channel unbound directly
at a terminal, from the empty network on.

Main statements: `Network.BindingsSound.replace`, `Network.BindingsSound.step`,
`Network.terminal_bindings_stay_sound`.
-/

namespace WdmNet

/-- A new terminal has no bindings and no reports yet. -/
theorem Terminal.create_unbound {h : Nat} {name : String} {trxs : List Transceiver} {t : Terminal}
    (he : Terminal.create h name trxs = .ok t) :
    t.handle = h ∧ t.tx = {} ∧ t.rx = {} ∧ t.reports = {} := by
  unfold Terminal.create at he
  obtain ⟨_, -, he⟩ := Except.bind_eq_ok.mp he
  cases he
  exact ⟨rfl, rfl, rfl, rfl⟩

namespace Network

variable {n m : Network}

/-! ### Terminals and signals after a write -/

theorem terminalAt?_eq_some {h : Nat} {t : Terminal} :
    n.terminalAt? h = some t ↔ n.nodes[h]? = some (.terminal t) := by
  unfold terminalAt?
  rcases n.nodes[h]? with _ | _ | _ <;> simp

theorem terminalAt?_of_nodes (hs : m.nodes = n.nodes) (h : Nat) :
    m.terminalAt? h = n.terminalAt? h := by
  unfold terminalAt?
  rw [hs]

theorem terminalAt?_modifyTerminal (i : Nat) (g : Terminal → Terminal) (h : Nat) :
    (n.modifyTerminal i g).terminalAt? h =
      if i = h then (n.terminalAt? h).map g else n.terminalAt? h := by
  unfold terminalAt? modifyTerminal
  rw [Array.getElem?_modify]
  by_cases hih : i = h
  · rw [if_pos hih, if_pos hih]
    rcases n.nodes[h]? with _ | _ | _ <;> rfl
  · rw [if_neg hih, if_neg hih]

@[simp] theorem terminalAt?_modifyRoadm (i : Nat) (g : Roadm → Roadm) (h : Nat) :
    (n.modifyRoadm i g).terminalAt? h = n.terminalAt? h := by
  unfold terminalAt? modifyRoadm
  rw [Array.getElem?_modify]
  by_cases hih : i = h
  · rw [if_pos hih]
    rcases n.nodes[h]? with _ | _ | _ <;> rfl
  · rw [if_neg hih]

/-- Replacing a terminal by a terminal. -/
theorem terminalAt?_setNode_terminal {i : Nat} {t₀ t : Terminal} (hi : n.terminalAt? i = some t₀)
    (h : Nat) : (n.setNode i (.terminal t)).terminalAt? h =
      if i = h then some t else n.terminalAt? h := by
  have hlt : i < n.nodes.size := (Array.getElem?_eq_some_iff.mp (terminalAt?_eq_some.mp hi)).1
  unfold terminalAt? setNode
  rw [Array.set!_eq_setIfInBounds, Array.getElem?_setIfInBounds]
  by_cases hih : i = h
  · subst hih
    simp [hlt]
  · simp [hih]

/-- Putting a ROADM in place of a node removes a terminal at most. -/
theorem terminalAt?_of_setNode_roadm {i h : Nat} {r : Roadm} {t : Terminal}
    (ht : (n.setNode i (.roadm r)).terminalAt? h = some t) : n.terminalAt? h = some t := by
  rw [terminalAt?_eq_some, setNode, Array.set!_eq_setIfInBounds, Array.getElem?_setIfInBounds] at ht
  rw [terminalAt?_eq_some]
  split at ht
  · split at ht <;> cases ht
  · exact ht

theorem terminalAt?_push_terminal {t : Terminal} (hs : m.nodes = n.nodes.push (.terminal t))
    (h : Nat) : m.terminalAt? h = if h = n.nodes.size then some t else n.terminalAt? h := by
  unfold terminalAt?
  rw [hs, Array.getElem?_push]
  by_cases hh : h = n.nodes.size
  · rw [if_pos hh, if_pos hh]
  · rw [if_neg hh, if_neg hh]

theorem terminalAt?_push_roadm {r : Roadm} (hs : m.nodes = n.nodes.push (.roadm r)) (h : Nat) :
    m.terminalAt? h = n.terminalAt? h := by
  unfold terminalAt?
  rw [hs, Array.getElem?_push]
  by_cases hh : h = n.nodes.size
  · rw [if_pos hh, hh, Array.getElem?_eq_none (Nat.le_refl _)]
  · rw [if_neg hh]

/-- A terminal changed in place, on a network with the same nodes. -/
theorem terminalAt?_modifyTerminal_self {N : Network} (hN : N.nodes = n.nodes) {i : Nat}
    {t : Terminal} (ht : n.terminalAt? i = some t) (g : Terminal → Terminal) (j : Nat) :
    (N.modifyTerminal i g).terminalAt? j = if i = j then some (g t) else n.terminalAt? j := by
  rw [terminalAt?_modifyTerminal, terminalAt?_of_nodes hN]
  by_cases hj : i = j
  · subst hj
    rw [if_pos rfl, if_pos rfl, ht]
    rfl
  · rw [if_neg hj, if_neg hj]

@[simp] theorem signal_modifyTerminal (i : Nat) (g : Terminal → Terminal) (j : Nat) :
    (n.modifyTerminal i g).signal j = n.signal j := rfl

@[simp] theorem signals_modifyTerminal (i : Nat) (g : Terminal → Terminal) :
    (n.modifyTerminal i g).signals = n.signals := rfl

theorem signal_modifySignal_of_lt {j i : Nat} (g : Signal → Signal) (hi : i < n.signals.size) :
    (n.modifySignal j g).signal i = if j = i then g (n.signal i) else n.signal i := by
  unfold signal modifySignal
  rw [Array.getElem?_modify]
  by_cases hji : j = i
  · rw [if_pos hji, if_pos hji, Array.getElem?_eq_getElem hi]
    rfl
  · rw [if_neg hji, if_neg hji]

theorem signal_push {s : Signal} (i : Nat) :
    ({ n with signals := n.signals.push s } : Network).signal i =
      if i = n.signals.size then s else n.signal i := by
  unfold signal
  rw [Array.getElem?_push]
  by_cases hi : i = n.signals.size
  · rw [if_pos hi, if_pos hi]
    rfl
  · rw [if_neg hi, if_neg hi]

/-- One change applied to the signals of a list of bindings, with no effect the second time,
changes exactly those signals. -/
theorem signal_foldl_modifySignal {α : Type} (sig : α → Nat) {g : Signal → Signal}
    (hg : ∀ s, g (g s) = g s) (l : List α) (n : Network) {i : Nat} (hi : i < n.signals.size) :
    (l.foldl (fun n a => n.modifySignal (sig a) g) n).signal i =
      if ∃ a ∈ l, sig a = i then g (n.signal i) else n.signal i := by
  induction l generalizing n with
  | nil => simp
  | cons a l ih =>
    have hi' : i < (n.modifySignal (sig a) g).signals.size := by
      simpa [modifySignal] using hi
    rw [List.foldl_cons, ih _ hi', signal_modifySignal_of_lt g hi]
    by_cases ha : sig a = i
    · simp [ha, hg]
    · simp [ha]

theorem foldl_modifySignal_frame {α : Type} (sig : α → Nat) (g : Signal → Signal) (l : List α)
    (n : Network) : (l.foldl (fun n a => n.modifySignal (sig a) g) n).nodes = n.nodes ∧
      (l.foldl (fun n a => n.modifySignal (sig a) g) n).signals.size = n.signals.size :=
  foldl_invariant (P := fun m => m.nodes = n.nodes ∧ m.signals.size = n.signals.size)
    ⟨rfl, rfl⟩ l fun _ _ hm => ⟨hm.1, by simpa [modifySignal] using hm.2⟩

/-! ### The invariant -/

/-- A transmit binding of the terminal with this handle. -/
def TxAt (n : Network) (h : Nat) (ch : Int) (b : TxBinding) : Prop :=
  ∃ t, n.terminalAt? h = some t ∧ t.tx.get? ch = some b

/-- Every terminal sits at its handle and has sound bindings, and every transmit binding owns a
signal of the network that no other binding owns. -/
structure BindingsSound (n : Network) : Prop where
  handle : ∀ {h t}, n.terminalAt? h = some t → t.handle = h
  terminal : ∀ {h t}, n.terminalAt? h = some t → t.BindingsSound n.signal
  signal_lt : ∀ {h ch b}, n.TxAt h ch b → b.signal < n.signals.size
  signal_owner : ∀ {h h' ch ch' b b'}, n.TxAt h ch b → n.TxAt h' ch' b' → b.signal = b'.signal →
    h = h' ∧ ch = ch'

theorem bindingsSound_empty (m : Nat) : (empty m).BindingsSound where
  handle h := nomatch h
  terminal h := nomatch h
  signal_lt := fun ⟨_, h, _⟩ => nomatch h
  signal_owner := fun ⟨_, h, _⟩ => nomatch h

/-- Fewer terminals over the same signals. -/
theorem BindingsSound.of_terminals (h : n.BindingsSound)
    (ht : ∀ {j t}, m.terminalAt? j = some t → n.terminalAt? j = some t)
    (hs : m.signals = n.signals) : m.BindingsSound := by
  have hsig : m.signal = n.signal := funext fun i => by unfold signal; rw [hs]
  have htx : ∀ {j ch b}, m.TxAt j ch b → n.TxAt j ch b := fun ⟨t, hj, hb⟩ => ⟨t, ht hj, hb⟩
  exact ⟨fun hj => h.handle (ht hj), fun hj => hsig ▸ h.terminal (ht hj),
    fun hb => hs ▸ h.signal_lt (htx hb), fun hb hb' hbb => h.signal_owner (htx hb) (htx hb') hbb⟩

theorem BindingsSound.modifyRoadm (h : n.BindingsSound) (i : Nat) (g : Roadm → Roadm) :
    (n.modifyRoadm i g).BindingsSound :=
  h.of_terminals (fun hj => by rwa [terminalAt?_modifyRoadm] at hj) rfl

theorem BindingsSound.of_frame (h : n.BindingsSound) (hn : m.nodes = n.nodes)
    (hs : m.signals = n.signals) : m.BindingsSound :=
  h.of_terminals (fun hj => (terminalAt?_of_nodes hn _).symm.trans hj) hs

/-- A change of one signal that no binding sees. -/
theorem BindingsSound.modifySignal_alike (h : n.BindingsSound) (j : Nat) {g : Signal → Signal}
    (hg : ∀ s : Signal, s.Alike (g s)) : (n.modifySignal j g).BindingsSound where
  handle := h.handle
  terminal ht := (h.terminal ht).of_signals fun _ => by
    rcases signal_modifySignal n j g _ with hs | hs <;> rw [hs]
    · exact .refl _
    · exact hg _
  signal_lt hb := by simpa [modifySignal] using h.signal_lt hb
  signal_owner := h.signal_owner

/-- Replacing the terminal at `i` by `t'` keeps the bindings sound when the other terminals keep
the signals of their bindings, `t'` is sound against the new signals and sits at `i`, and each
binding of `t'` is one of the old terminal's with its signal, or owns a signal that no binding
owned before, alone. -/
theorem BindingsSound.replace (h : n.BindingsSound) {i : Nat} {t t' : Terminal}
    (ht : n.terminalAt? i = some t)
    (hm : ∀ j, m.terminalAt? j = if i = j then some t' else n.terminalAt? j)
    (hsize : n.signals.size ≤ m.signals.size)
    (hsig : ∀ {j ch b}, j ≠ i → n.TxAt j ch b → m.signal b.signal = n.signal b.signal)
    (hhandle : t'.handle = i) (hsound : t'.BindingsSound m.signal)
    (hbind : ∀ {ch b}, t'.tx.get? ch = some b →
      (∃ b₀, t.tx.get? ch = some b₀ ∧ b₀.signal = b.signal) ∨
      (n.signals.size ≤ b.signal ∧ b.signal < m.signals.size ∧
        ∀ {ch' b'}, t'.tx.get? ch' = some b' → b'.signal = b.signal → ch' = ch)) :
    m.BindingsSound := by
  -- a binding of `m` is one of `t'` or one of another terminal of `n`
  have htx : ∀ {j ch b}, m.TxAt j ch b →
      (j = i ∧ t'.tx.get? ch = some b) ∨ (j ≠ i ∧ n.TxAt j ch b) := by
    rintro j ch b ⟨t₁, ht₁, hb⟩
    rw [hm] at ht₁
    split at ht₁
    · cases ht₁
      exact .inl ⟨(‹i = j›).symm, hb⟩
    · exact .inr ⟨Ne.symm ‹_›, t₁, ht₁, hb⟩
  -- a binding of `t'` with an old signal shares it with nobody else in `n` but its origin
  have hold : ∀ {ch b j ch' b'}, t'.tx.get? ch = some b → n.TxAt j ch' b' → b.signal = b'.signal →
      ∃ b₀, t.tx.get? ch = some b₀ ∧ i = j := by
    intro ch b j ch' b' hb hb' hbb
    rcases hbind hb with ⟨b₀, hb₀, hs₀⟩ | ⟨hge, -, -⟩
    · exact ⟨b₀, hb₀, (h.signal_owner ⟨t, ht, hb₀⟩ hb' (hs₀.trans hbb)).1⟩
    · exact absurd (hbb ▸ h.signal_lt hb') (Nat.not_lt.mpr hge)
  refine ⟨fun {j t₁} ht₁ => ?_, fun {j t₁} ht₁ => ?_, fun hb => ?_, fun hb hb' hbb => ?_⟩
  · rw [hm] at ht₁
    split at ht₁
    · cases ht₁
      exact hhandle.trans ‹i = j›
    · exact h.handle ht₁
  · rw [hm] at ht₁
    split at ht₁
    · cases ht₁
      exact hsound
    · refine (h.terminal ht₁).of_signals fun hb => ?_
      rw [hsig (Ne.symm ‹_›) ⟨t₁, ht₁, hb⟩]
      exact .refl _
  · rcases htx hb with ⟨-, hb⟩ | ⟨-, hb⟩
    · rcases hbind hb with ⟨b₀, hb₀, hs₀⟩ | ⟨-, hlt, -⟩
      · exact hs₀ ▸ Nat.lt_of_lt_of_le (h.signal_lt ⟨t, ht, hb₀⟩) hsize
      · exact hlt
    · exact Nat.lt_of_lt_of_le (h.signal_lt hb) hsize
  · rcases htx hb with ⟨hj, hb₁⟩ | ⟨hj, hb₁⟩ <;> rcases htx hb' with ⟨hj', hb₁'⟩ | ⟨hj', hb₁'⟩
    · -- two bindings of `t'`
      refine ⟨hj.trans hj'.symm, ?_⟩
      rcases hbind hb₁ with ⟨b₀, hb₀, hs₀⟩ | ⟨-, -, hown⟩
      · rcases hbind hb₁' with ⟨b₀', hb₀', hs₀'⟩ | ⟨-, -, hown'⟩
        · exact (h.signal_owner ⟨t, ht, hb₀⟩ ⟨t, ht, hb₀'⟩ (by rw [hs₀, hs₀', hbb])).2
        · exact hown' hb₁ hbb
      · exact (hown hb₁' hbb.symm).symm
    · obtain ⟨-, -, hij⟩ := hold hb₁ hb₁' hbb
      exact absurd hij.symm hj'
    · obtain ⟨-, -, hij⟩ := hold hb₁' hb₁ hbb.symm
      exact absurd hij.symm hj
    · exact h.signal_owner hb₁ hb₁' hbb

/-- A terminal of the network sits at its handle. -/
theorem BindingsSound.terminalAt?_of_mem (h : n.BindingsSound) {t : Terminal}
    (hmem : Node.terminal t ∈ n.nodes) : n.terminalAt? t.handle = some t := by
  obtain ⟨j, hj⟩ := Array.getElem?_of_mem hmem
  have ht : n.terminalAt? j = some t := terminalAt?_eq_some.mpr hj
  rw [h.handle ht]
  exact ht

theorem mem_of_node {name : String} {nd : Node} (he : n.node name = .ok nd) : nd ∈ n.nodes := by
  unfold Network.node at he
  split at he
  · rename_i nd' hnd
    obtain ⟨j, -, hj⟩ := Option.bind_eq_some_iff.mp hnd
    cases he
    exact Array.mem_of_getElem? hj
  · cases he

/-- The terminal found by name sits at its handle. -/
theorem BindingsSound.terminalAt?_of_terminal (h : n.BindingsSound) {name : String} {t : Terminal}
    (he : n.terminal name = .ok t) : n.terminalAt? t.handle = some t := by
  unfold Network.terminal at he
  obtain ⟨nd, hnd, he⟩ := Except.bind_eq_ok.mp he
  cases nd with
  | terminal t' =>
    cases he
    exact h.terminalAt?_of_mem (mem_of_node hnd)
  | roadm => cases he

/-! ### Terminal operations -/

/-- A write of a pass to a terminal. -/
theorem BindingsSound.passWrite (h : n.BindingsSound) (th : Nat) {g : Terminal → Terminal} {pass : Nat}
    (hw : ∀ t, n.terminalAt? th = some t → t.PassWrite pass (g t)) :
    (n.modifyTerminal th g).BindingsSound := by
  rcases ht : n.terminalAt? th with _ | t
  · refine h.of_terminals (fun {j t₁} ht₁ => ?_) rfl
    rw [terminalAt?_modifyTerminal] at ht₁
    split at ht₁
    · subst th
      rw [ht] at ht₁
      cases ht₁
    · exact ht₁
  · have hw := hw t ht
    refine h.replace ht (terminalAt?_modifyTerminal_self rfl ht g) (Nat.le_refl _) (fun _ _ => rfl)
      (hw.handle.trans (h.handle ht)) ((h.terminal ht).passWrite hw) fun {ch b} hb => ?_
    rw [hw.tx] at hb
    exact .inl ⟨b, hb, rfl⟩

/-- The receive bindings and the unbindings of a terminal found by name: the terminal is put
back with the same handle and no new transmit binding. -/
theorem BindingsSound.setTerminal (h : n.BindingsSound) {name : String} {t t' : Terminal}
    (he : n.terminal name = .ok t) (hhandle : t'.handle = t.handle)
    (htx : ∀ {ch b}, t'.tx.get? ch = some b → t.tx.get? ch = some b)
    (hsound : t.BindingsSound n.signal → t'.BindingsSound n.signal) :
    (n.setNode t.handle (.terminal t')).BindingsSound := by
  have ht := h.terminalAt?_of_terminal he
  exact h.replace ht (terminalAt?_setNode_terminal ht) (Nat.le_refl _) (fun _ _ => rfl) hhandle
    (hsound (h.terminal ht)) fun hb => .inl ⟨_, htx hb, rfl⟩

theorem BindingsSound.assocRx (h : n.BindingsSound) {name : String} {t t' : Terminal}
    {trx ch port : Int} (he : n.terminal name = .ok t) (hr : t.assocRx trx ch port = .ok t') :
    (n.setNode t.handle (.terminal t')).BindingsSound := by
  have hshape : t'.handle = t.handle ∧ t'.tx = t.tx := by
    rcases Terminal.assocRx_eq_ok hr with rfl | ⟨-, -, rfl⟩ <;> exact ⟨rfl, rfl⟩
  exact h.setTerminal he hshape.1 (fun hb => hshape.2 ▸ hb) (·.assocRx hr)

/-- What a successful transmit binding did: either the channel was already bound to this
transceiver on this port, and nothing changes; or the channel was free, the transceiver
transmitted nothing, and a new signal of the channel is pushed and filed under it. -/
theorem assocTx_eq_ok {t : Terminal} {trxId ch port : Int} {n' : Network}
    (he : n.assocTx t trxId ch port = .ok n') :
    (n' = n ∧ ∃ b, t.tx.get? ch = some b ∧ b.transceiver = trxId ∧ b.port = port) ∨
    ∃ trx s, t.transceiver? trxId = some trx ∧ t.tx.get? ch = none ∧
      (∀ {c b}, t.tx.get? c = some b → b.transceiver ≠ trxId) ∧
      Signal.create ch trx.effectiveSymbolRate = .ok s ∧
      n' = ({ n with signals := n.signals.push s } : Network).modifyTerminal t.handle
        fun t => { t with tx := t.tx.insert ch ⟨trxId, port, n.signals.size, false⟩ } := by
  unfold Network.assocTx at he
  split at he
  · rename_i trx htrx
    dsimp only at he
    split at he
    · cases he
    · split at he
      · cases he
      · split at he
        · -- the same binding again changes nothing
          rename_i b hb
          split at he
          · rename_i hsame
            cases he
            simp only [Bool.and_eq_true, beq_iff_eq] at hsame
            exact .inl ⟨rfl, b, hb, hsame⟩
          · cases he
        · rename_i hnone
          split at he
          · cases he
          · rename_i hfind
            obtain ⟨s, hs, he⟩ := Except.bind_eq_ok.mp he
            cases he
            refine .inr ⟨trx, s, htrx, hnone, fun {c b} hb hbt => ?_, hs, rfl⟩
            have hnone' : t.tx.toList.find? (fun x => x.2.transceiver == trxId) = none :=
              Option.eq_none_iff_forall_ne_some.mpr fun ⟨o, b'⟩ hf => hfind o b' hf
            have hmem : (c, b) ∈ t.tx.toList := Std.TreeMap.mem_toList_iff_getElem?_eq_some.mpr hb
            exact absurd (by simp [hbt]) (List.find?_eq_none.mp hnone' _ hmem)
  · cases he

/-- A new transmit binding owns the signal it pushes. -/
theorem BindingsSound.assocTx (h : n.BindingsSound) {name : String} {t : Terminal}
    {trxId ch port : Int} {n' : Network} (ht : n.terminal name = .ok t)
    (he : n.assocTx t trxId ch port = .ok n') : n'.BindingsSound := by
  rcases assocTx_eq_ok he with ⟨rfl, -⟩ | ⟨trx, s, htrx, hnone, hfree, hs, rfl⟩
  · exact h
  have ht := h.terminalAt?_of_terminal ht
  have hold : ∀ {j c b}, n.TxAt j c b →
      (({ n with signals := n.signals.push s } : Network).modifyTerminal t.handle fun t =>
        { t with tx := t.tx.insert ch ⟨trxId, port, n.signals.size, false⟩ }).signal b.signal =
        n.signal b.signal := fun hb => by
    rw [signal_modifyTerminal, signal_push, if_neg (Nat.ne_of_lt (h.signal_lt hb))]
  obtain ⟨hindex, hrate, hactive⟩ := Signal.create_for_transceiver hs
  refine h.replace ht (terminalAt?_modifyTerminal_self rfl ht _) (by simp [modifyTerminal])
    (fun _ hb => hold hb) rfl
    ((h.terminal ht).insertTx hnone hfree htrx ?_ fun hb => hold ⟨t, ht, hb⟩) fun {c b} hb => ?_
  · simp only [signal_modifyTerminal, signal_push]
    exact ⟨hindex, hrate, hactive⟩
  · -- the new binding owns the pushed signal; every other binding is an old one
    change (t.tx.insert ch ⟨trxId, port, n.signals.size, false⟩).get? c = some b at hb
    rw [get?_insert_eq] at hb
    split at hb
    · cases hb
      refine .inr ⟨Nat.le_refl _, by simp [modifyTerminal], fun {c' b'} hb' hbb => ?_⟩
      change (t.tx.insert ch ⟨trxId, port, n.signals.size, false⟩).get? c' = some b' at hb'
      rw [get?_insert_eq] at hb'
      split at hb'
      · exact (‹ch = c'›).symm.trans ‹ch = c›
      · exact absurd hbb (Nat.ne_of_lt (h.signal_lt ⟨t, ht, hb'⟩))
    · exact .inl ⟨b, hb, rfl⟩

/-- Switching a terminal's transmit bindings on, with their signals. -/
theorem BindingsSound.switchOn (h : n.BindingsSound) {t : Terminal}
    (ht : n.terminalAt? t.handle = some t) :
    ((t.tx.values.foldl (fun n b => n.modifySignal b.signal ({ · with active := true })) n).modifyTerminal
      t.handle fun t => { t with tx := t.tx.map fun _ (b : TxBinding) => { b with active := true } }
      ).BindingsSound := by
  have hidem : ∀ s : Signal, { ({ s with active := true } : Signal) with active := true } =
      { s with active := true } := fun _ => rfl
  obtain ⟨hnodes, hsize⟩ := foldl_modifySignal_frame TxBinding.signal
    (fun s : Signal => { s with active := true }) t.tx.values n
  -- a binding of another terminal owns none of the signals switched on
  have hother : ∀ {j c b}, j ≠ t.handle → n.TxAt j c b →
      ((t.tx.values.foldl (fun n b => n.modifySignal b.signal ({ · with active := true })) n).modifyTerminal
        t.handle fun t => { t with tx := t.tx.map fun _ (b : TxBinding) => { b with active := true } }
        ).signal b.signal = n.signal b.signal := by
    intro j c b hj hb
    rw [signal_modifyTerminal, signal_foldl_modifySignal _ hidem _ _ (h.signal_lt hb), if_neg]
    rintro ⟨b', hb', hbb⟩
    obtain ⟨c', hc'⟩ := TreeMap.mem_values.mp hb'
    exact hj (h.signal_owner hb ⟨t, ht, hc'⟩ hbb.symm).1
  refine h.replace ht (terminalAt?_modifyTerminal_self hnodes ht _) (by simp [hsize]) hother rfl
    ((h.terminal ht).switchOn fun {c b} hb => ?_) fun {c b} hb => ?_
  · rw [signal_modifyTerminal, signal_foldl_modifySignal _ hidem _ _ (h.signal_lt ⟨t, ht, hb⟩),
      if_pos ⟨b, TreeMap.mem_values.mpr ⟨c, hb⟩, rfl⟩]
  · change (t.tx.map fun _ (b : TxBinding) => { b with active := true }).get? c = some b at hb
    simp only [Std.TreeMap.get?_eq_getElem?, Std.TreeMap.getElem?_map,
      Option.map_eq_some_iff] at hb
    obtain ⟨b₀, hb₀, rfl⟩ := hb
    exact .inl ⟨b₀, by rw [Std.TreeMap.get?_eq_getElem?]; exact hb₀, rfl⟩

/-- Switching one transmit channel of the terminal at `th` off, with its signal. -/
theorem BindingsSound.switchOff (h : n.BindingsSound) {th : Nat} {ch : Int} {b : TxBinding}
    (hbind : (n.terminalAt? th).bind (·.tx.get? ch) = some b) :
    ((n.modifySignal b.signal fun s => { s.clearPath with active := false }).modifyTerminal th
      fun t => { t with tx := t.tx.insert ch { b with active := false } }).BindingsSound := by
  obtain ⟨t, ht, hb⟩ := Option.bind_eq_some_iff.mp hbind
  have hlt := h.signal_lt ⟨t, ht, hb⟩
  -- only the signal of this binding changes
  have hsig : ∀ {j c b'}, n.TxAt j c b' → (j, c) ≠ (th, ch) →
      ((n.modifySignal b.signal fun s => { s.clearPath with active := false }).modifyTerminal th
        fun t => { t with tx := t.tx.insert ch { b with active := false } }).signal b'.signal =
        n.signal b'.signal := by
    intro j c b' hb' hne
    rw [signal_modifyTerminal, signal_modifySignal_of_lt _ (h.signal_lt hb'), if_neg]
    intro hbb
    obtain ⟨rfl, rfl⟩ := h.signal_owner ⟨t, ht, hb⟩ hb' hbb
    exact hne rfl
  refine h.replace ht (terminalAt?_modifyTerminal_self rfl ht _) (by simp [modifySignal])
    (fun hj hb' => hsig hb' fun he => hj (Prod.mk.inj he).1) (show t.handle = th from h.handle ht)
    ((h.terminal ht).switchOff hb ?_ fun hb' hc => hsig ⟨t, ht, hb'⟩ fun he => hc (Prod.mk.inj he).2)
    fun {c b'} hb' => ?_
  · rw [signal_modifyTerminal, signal_modifySignal_of_lt _ hlt, if_pos rfl]
  · change (t.tx.insert ch { b with active := false }).get? c = some b' at hb'
    rw [get?_insert_eq] at hb'
    split at hb'
    · cases hb'
      exact .inl ⟨b, by rw [← ‹ch = c›]; exact hb, rfl⟩
    · exact .inl ⟨b', hb', rfl⟩

/-- Resetting a terminal switches its signals off and clears it. -/
theorem BindingsSound.resetTerminal (h : n.BindingsSound) {t : Terminal}
    (ht : n.terminalAt? t.handle = some t) : (n.resetTerminal t).BindingsSound := by
  have hidem : ∀ s : Signal, { ({ s.clearPath with active := false } : Signal).clearPath with
      active := false } = { s.clearPath with active := false } := fun _ => rfl
  obtain ⟨hnodes, hsize⟩ := foldl_modifySignal_frame TxBinding.signal
    (fun s : Signal => { s.clearPath with active := false }) t.tx.values n
  unfold Network.resetTerminal
  refine h.replace ht (terminalAt?_modifyTerminal_self hnodes ht _) (by simp [hsize])
    (fun {j c b} hj hb => ?_) rfl (Terminal.bindingsSound_clear _ _) fun hb => ?_
  · -- a binding of another terminal owns none of the signals switched off
    rw [signal_modifyTerminal, signal_foldl_modifySignal _ hidem _ _ (h.signal_lt hb), if_neg]
    rintro ⟨b', hb', hbb⟩
    obtain ⟨c', hc'⟩ := TreeMap.mem_values.mp hb'
    exact hj (h.signal_owner hb ⟨t, ht, hc'⟩ hbb.symm).1
  · simp [Terminal.clear, Std.TreeMap.get?_eq_getElem?] at hb

/-! ### Commands -/

/-- Resetting nodes one after another, each terminal found at its handle and no two terminals at
one handle: every reset finds its terminal as it was. -/
theorem BindingsSound.resetNodes (h : n.BindingsSound) (l : List Node)
    (hl : ∀ {t}, Node.terminal t ∈ l → n.terminalAt? t.handle = some t)
    (hd : l.Pairwise fun a b => ∀ t t', a = .terminal t → b = .terminal t' → t.handle ≠ t'.handle) :
    (l.foldl resetNode n).BindingsSound := by
  induction l generalizing n with
  | nil => exact h
  | cons nd l ih =>
    rw [List.foldl_cons]
    obtain ⟨hnd, hrest⟩ := List.pairwise_cons.mp hd
    cases nd with
    | terminal t =>
      have ht := hl List.mem_cons_self
      refine ih (h.resetTerminal ht) (fun {t'} ht' => ?_) hrest
      -- a later terminal sits at another handle, so this reset left it alone
      rw [Network.resetNode, Network.resetTerminal, terminalAt?_modifyTerminal,
        if_neg (hnd _ ht' t t' rfl rfl), terminalAt?_of_nodes (foldl_modifySignal_frame _ _ _ _).1]
      exact hl (List.mem_cons_of_mem _ ht')
    | roadm r =>
      refine ih (h.modifyRoadm _ _) (fun {t'} ht' => ?_) hrest
      rw [Network.resetNode, terminalAt?_modifyRoadm]
      exact hl (List.mem_cons_of_mem _ ht')

theorem BindingsSound.reset (h : n.BindingsSound) : n.reset.BindingsSound := by
  have hd : n.nodes.toList.Pairwise fun a b =>
      ∀ t t', a = .terminal t → b = .terminal t' → t.handle ≠ t'.handle := by
    refine List.pairwise_iff_getElem.mpr fun i j hi hj hij t t' ha hb => ?_
    -- the terminals sit at their positions, which differ
    have ht : n.terminalAt? i = some t := terminalAt?_eq_some.mpr (by
      rw [← ha, Array.getElem?_eq_getElem (by simpa using hi), Array.getElem_toList])
    have ht' : n.terminalAt? j = some t' := terminalAt?_eq_some.mpr (by
      rw [← hb, Array.getElem?_eq_getElem (by simpa using hj), Array.getElem_toList])
    rw [h.handle ht, h.handle ht']
    exact Nat.ne_of_lt hij
  exact (h.resetNodes n.nodes.toList (fun hm => h.terminalAt?_of_mem (Array.mem_toList_iff.mp hm))
    hd).of_frame rfl rfl

theorem BindingsSound.withRoadm (h : n.BindingsSound) {name : String}
    {f : Roadm → Except Failure Roadm} {n' : Network} (he : n.withRoadm name f = .ok n') :
    n'.BindingsSound := by
  unfold Network.withRoadm at he
  obtain ⟨r, -, he⟩ := Except.bind_eq_ok.mp he
  obtain ⟨r', -, he⟩ := Except.bind_eq_ok.mp he
  cases he
  exact h.of_terminals terminalAt?_of_setNode_roadm rfl

theorem BindingsSound.withAmplifier (h : n.BindingsSound) {name : String}
    {f : Amplifier → Except Failure Amplifier} {n' : Network} (he : n.withAmplifier name f = .ok n') :
    n'.BindingsSound := by
  unfold Network.withAmplifier at he
  obtain ⟨a, -, he⟩ := Except.bind_eq_ok.mp he
  obtain ⟨a', -, he⟩ := Except.bind_eq_ok.mp he
  cases he
  exact h.of_frame rfl rfl

theorem BindingsSound.resetLink (h : n.BindingsSound) {name : String} {n' : Network}
    (he : n.resetLink name = .ok n') : n'.BindingsSound := by
  unfold Network.resetLink at he
  obtain ⟨l, -, he⟩ := Except.bind_eq_ok.mp he
  cases he
  -- signals forget the link's locations, which no binding sees
  have hX := foldl_invariant h l.locations fun m loc hm =>
    foldl_invariant hm (m.componentSignals loc) fun _ c hm' =>
      hm'.modifySignal_alike c.sig fun s => Signal.alike_forget s loc
  refine foldl_invariant ?_ l.hops fun m hop hm => ?_
  · split
    · exact hX.of_frame rfl rfl
    · exact hX
  · dsimp only
    split <;> exact hm.of_frame rfl rfl

/-! ### Passes -/

/-- Every step of a pass keeps the bindings sound: visits are not seen by a binding, and a pass
writes to a terminal only port state and reports. -/
theorem bindingsSound_closed : Flow.Closed fun f g => f.net.BindingsSound → g.net.BindingsSound where
  refl _ h := h
  trans h₁ h₂ h := h₂ (h₁ h)
  record _ _ hn _ _ h := hn ▸ h
  fail _ _ _ _ h := h
  visit _ _ _ _ h := h.modifySignal_alike _ fun s => Signal.alike_record s _ _ _ _ _
  amp _ _ _ h := h.of_frame rfl rfl
  span _ _ _ h := h.of_frame rfl rfl
  terminal _ th _ hw h := h.passWrite th hw
  roadmPorts _ rh g _ h := h.modifyRoadm rh g
  output _ rh _ _ _ _ _ _ h := h.modifyRoadm rh _

theorem BindingsSound.launch (h : n.BindingsSound) (t : Terminal) (ports : List Int) (safe : Bool)
    (kind : String) : (n.launch t ports safe kind).net.BindingsSound := by
  obtain ⟨g, hg, hnet, -⟩ := bindingsSound_closed.launch n t ports safe kind
  rw [hnet]
  exact hg (h.of_frame rfl rfl)

theorem BindingsSound.turnOn (h : n.BindingsSound) (name : String) (safe : Bool) :
    (n.turnOn name safe).net.BindingsSound := by
  unfold Network.turnOn
  split
  · exact h
  · rename_i t ht
    split
    · exact h
    · dsimp only
      split
      · exact h
      · -- the transmitters are switched on, then a pass runs
        have hon := h.switchOn (h.terminalAt?_of_terminal ht)
        split
        · exact hon.launch _ _ _ _
        · exact hon

theorem BindingsSound.turnOff (h : n.BindingsSound) (name : String) (channels : List Int) :
    (n.turnOff name channels).net.BindingsSound := by
  unfold Network.turnOff
  split
  · exact h
  · rename_i t _
    dsimp only
    generalize (if channels.isEmpty then t.tx.keys else channels) = cs
    split
    · exact h
    · generalize hN : List.foldl _ n cs = N
      -- the channels are switched off one by one, each at the terminal as it is then
      have hNs : N.BindingsSound := by
        rw [← hN]
        refine foldl_invariant h cs fun m ch hm => ?_
        split
        · exact hm.switchOff ‹_›
        · exact hm
      split
      · exact hNs
      · split
        · exact hNs.launch _ _ _ _
        · exact hNs

/-- Every command keeps the bindings sound. -/
theorem BindingsSound.execute (h : n.BindingsSound) (c : Command) : (n.execute c).net.BindingsSound := by
  cases c with
  | installRule => exact ofExcept_invariant h fun _ he => h.withRoadm he
  | deleteRule => exact ofExcept_invariant h fun _ he => h.withRoadm he
  | updateRule => exact ofExcept_invariant h fun _ he => h.withRoadm he
  | configureVoa => exact ofExcept_invariant h fun _ he => h.withRoadm he
  | assocTx =>
    refine ofExcept_invariant h fun _ he => ?_
    obtain ⟨t, ht, he⟩ := Except.bind_eq_ok.mp he
    exact h.assocTx ht he
  | assocRx =>
    refine ofExcept_invariant h fun _ he => ?_
    obtain ⟨t, ht, he⟩ := Except.bind_eq_ok.mp he
    obtain ⟨t', hr, he⟩ := Except.bind_eq_ok.mp he
    cases he
    have hh : t'.handle = t.handle := by
      rcases Terminal.assocRx_eq_ok hr with rfl | ⟨-, -, rfl⟩ <;> rfl
    rw [hh]
    exact h.assocRx ht hr
  | turnOn => exact h.turnOn _ _
  | turnOff => exact h.turnOff _ _
  | resetNode =>
    refine ofExcept_invariant h fun _ he => ?_
    obtain ⟨nd, hnd, he⟩ := Except.bind_eq_ok.mp he
    cases he
    cases nd with
    | terminal t => exact h.resetTerminal (h.terminalAt?_of_mem (mem_of_node hnd))
    | roadm r => exact h.modifyRoadm _ _
  | setGain => exact ofExcept_invariant h fun _ he => h.withAmplifier he
  | resetAmplifier => exact ofExcept_invariant h fun _ he => h.withAmplifier he
  | resetLink => exact ofExcept_invariant h fun _ he => h.resetLink he
  | resetNetwork => exact h.reset

/-! ### Runs -/

theorem BindingsSound.addTerminal (h : n.BindingsSound) {name : String} {trxs : List Transceiver}
    {n' : Network} {k : Nat} (he : n.addTerminal name trxs = .ok (n', k)) : n'.BindingsSound := by
  obtain ⟨-, t, ht, hn', -⟩ := addTerminal_eq_ok he
  obtain ⟨hhandle, htx, hrx, hrep⟩ := Terminal.create_unbound ht
  have hpush : ∀ j, n'.terminalAt? j = if j = n.nodes.size then some t else n.terminalAt? j :=
    terminalAt?_push_terminal (by rw [hn'])
  have hsig : n'.signal = n.signal := by
    rw [hn']
    rfl
  have hsize : n'.signals.size = n.signals.size := by
    rw [hn']
  -- the new terminal has no bindings, so every binding is an old one
  have hold : ∀ {j ch b}, n'.TxAt j ch b → n.TxAt j ch b := by
    rintro j ch b ⟨t₁, ht₁, hb⟩
    rw [hpush] at ht₁
    split at ht₁
    · cases ht₁
      simp [htx, Std.TreeMap.get?_eq_getElem?] at hb
    · exact ⟨t₁, ht₁, hb⟩
  refine ⟨fun {j t₁} ht₁ => ?_, fun {j t₁} ht₁ => ?_, fun hb => hsize ▸ h.signal_lt (hold hb),
    fun hb hb' hbb => h.signal_owner (hold hb) (hold hb') hbb⟩
  · rw [hpush] at ht₁
    split at ht₁
    · cases ht₁
      exact hhandle.trans (‹j = n.nodes.size›).symm
    · exact h.handle ht₁
  · rw [hpush] at ht₁
    rw [hsig]
    split at ht₁
    · cases ht₁
      exact Terminal.bindingsSound_of_empty htx hrx hrep _
    · exact h.terminal ht₁

/-- Every addition keeps the bindings sound: a new terminal has none, and no other addition
touches a terminal or a signal. -/
theorem BindingsSound.step {n' : Network} (h : n.BindingsSound) (hs : Step n n') :
    n'.BindingsSound := by
  cases hs with
  | addTerminal he => exact h.addTerminal he
  | addRoadm he =>
    obtain ⟨-, pre, boo, c₁, claimed, -, -, rfl, -⟩ := addRoadm_eq_ok he
    exact h.of_terminals (fun hj => by rwa [terminalAt?_push_roadm rfl] at hj) rfl
  | addAmplifier he =>
    obtain ⟨-, a, -, rfl, -⟩ := addAmplifier_eq_ok he
    exact h.of_frame rfl rfl
  | addLink he =>
    obtain ⟨src, dst, name, boost, c₀, claimed, spans, hops, length, raman, -, -, -, -, -, -, -, -,
      rfl, -⟩ := addLink_eq_ok he
    exact h.of_frame rfl rfl
  | execute c => exact h.execute c

/-- A channel unbound at a terminal found by name, as an operator's view of a twin unbinds it:
the terminal is put back without the transmit or the receive binding. -/
inductive Unbind : Network → Network → Prop where
  | tx {n : Network} {name : String} {t t' : Terminal} {ch : Int} :
      n.terminal name = .ok t → t.disassocTx ch = .ok t' →
      Unbind n (n.setNode t.handle (.terminal t'))
  | rx {n : Network} {name : String} {t t' : Terminal} {ch : Int} :
      n.terminal name = .ok t → t.disassocRx ch = .ok t' →
      Unbind n (n.setNode t.handle (.terminal t'))

theorem BindingsSound.unbind {n' : Network} (h : n.BindingsSound) (hu : Unbind n n') :
    n'.BindingsSound := by
  cases hu with
  | @tx _ t t' ch ht he =>
    obtain ⟨-, -, -, rfl⟩ := Terminal.disassocTx_eq_ok he
    refine h.setTerminal ht rfl (fun hb => ?_) (·.disassocTx he)
    change (t.tx.erase ch).get? _ = some _ at hb
    rw [get?_erase_eq] at hb
    split at hb
    · cases hb
    · exact hb
  | rx ht he =>
    obtain ⟨-, rfl⟩ := Terminal.disassocRx_eq_ok he
    exact h.setTerminal ht rfl id (·.disassocRx he)

/-- A run of additions, commands and unbindings from an empty network keeps the bindings
sound. -/
theorem bindingsSound_of_run {m : Nat} {n : Network}
    (hn : Relation.ReflTransGen (fun a b => Step a b ∨ Unbind a b) (empty m) n) :
    n.BindingsSound := by
  induction hn with
  | refl => exact bindingsSound_empty m
  | tail _ hstep ih =>
    rcases hstep with hstep | hstep
    · exact ih.step hstep
    · exact ih.unbind hstep

/-- The bindings of a terminal stay sound. Through any run of additions, commands (binding,
switching on and off, resetting a terminal or the network, passes in between, refused or not)
and channels unbound at a terminal, from an empty network: a transceiver of a terminal
transmits at most one channel and receives at most one; the signal of a transmit binding is
on its channel at the transceiver's symbol rate and is on exactly when the binding is; every
report is filed under a received channel with the port and transceiver of its binding; and the
failed channels are the channels of the failed reports, in increasing order. -/
theorem terminal_bindings_stay_sound {m : Nat} {n : Network}
    (hn : Relation.ReflTransGen (fun a b => Step a b ∨ Unbind a b) (empty m) n) {h : Nat}
    {t : Terminal} (ht : n.terminalAt? h = some t) :
    t.BindingsSound n.signal ∧ t.failedChannels.Pairwise (· < ·) ∧
      ∀ ch, ch ∈ t.failedChannels ↔ ∃ r, t.reports.get? ch = some r ∧ r.ok = false :=
  ⟨(bindingsSound_of_run hn).terminal ht, Terminal.failedChannels_spec t⟩

/-- A terminal with one transceiver added to an empty network, then bound to receive channel 1
on port 1. -/
theorem bindings_sound_after_receive_binding :
    let t : Terminal := ⟨0, "t", [⟨1, "t-trx1", 0, "QPSK", 0⟩], {},
      (∅ : Std.TreeMap Int RxBinding).insert 1 ⟨1, 1⟩, {}, {}, {}, {}, {}, false⟩
    let n : Network := { empty 0 with
      nodes := #[.terminal t], nodeByName := (∅ : Std.TreeMap String Nat).insert "t" 0 }
    Relation.ReflTransGen (fun a b => Step a b ∨ Unbind a b) (empty 0) n ∧
      n.terminalAt? 0 = some t ∧ t.BindingsSound n.signal ∧
      t.failedChannels.Pairwise (· < ·) ∧
      ∀ ch, ch ∈ t.failedChannels ↔ ∃ r, t.reports.get? ch = some r ∧ r.ok = false := by
  intro t n
  have hadd : (empty 0).addTerminal "t" [⟨1, "", 0, "", 0⟩] =
      .ok ({ empty 0 with
        nodes := #[.terminal ⟨0, "t", [⟨1, "t-trx1", 0, "QPSK", 0⟩], {}, {}, {}, {}, {}, {}, {}, false⟩]
        nodeByName := (∅ : Std.TreeMap String Nat).insert "t" 0 }, 0) := by
    have hv : validName "t" = true := by decide
    simp only [addTerminal, hv]
    rfl
  have hbind : ({ empty 0 with
        nodes := #[.terminal ⟨0, "t", [⟨1, "t-trx1", 0, "QPSK", 0⟩], {}, {}, {}, {}, {}, {}, {}, false⟩]
        nodeByName := (∅ : Std.TreeMap String Nat).insert "t" 0 } : Network).execute
        (.assocRx "t" 1 1 1) = ⟨n, [], none⟩ := rfl
  have hstep := Step.execute ({ empty 0 with
        nodes := #[.terminal ⟨0, "t", [⟨1, "t-trx1", 0, "QPSK", 0⟩], {}, {}, {}, {}, {}, {}, {}, false⟩]
        nodeByName := (∅ : Std.TreeMap String Nat).insert "t" 0 } : Network) (.assocRx "t" 1 1 1)
  rw [hbind] at hstep
  have hrun : Relation.ReflTransGen (fun a b => Step a b ∨ Unbind a b) (empty 0) n :=
    (Relation.ReflTransGen.single (.inl (.addTerminal hadd))).tail (.inl hstep)
  have hterm : n.terminalAt? 0 = some t := rfl
  exact ⟨hrun, hterm, terminal_bindings_stay_sound hrun hterm⟩

end Network

end WdmNet

import WdmNet.Twin
import WdmNet.Proofs.Except
import WdmNet.Proofs.Roadm.Table
import WdmNet.Proofs.Terminal.Bindings
/-!
Invariants of networks, command by command.

A command changes a network by a few kinds of writes: it switches a signal on, switches it off
(forgetting its path) or makes it forget a location; it pushes a new signal; it changes or
replaces a terminal, keeping or clearing the marks its ports carry of the passes that reached
them; it replaces a ROADM found by name after a call on its switch table, or
resets a ROADM; it changes amplifiers and spans; or it runs a pass. A refused command changes
nothing. `Network.Invariant P` says that `P` survives each kind of write, and
`Network.Invariant.execute` carries it through every command, each command proved once for
every such `P`.

Main statement: `Network.Invariant.execute`.
-/

namespace WdmNet

/-- What a command may do to the pass marks of a terminal's ports: keep them, or clear them
with the rest of its port state. -/
def Terminal.KeepsMarks (t t' : Terminal) : Prop := t'.portPass = t.portPass ∨ t'.portPass = {}

namespace Network

/-- A property of networks that every kind of write of a command keeps. -/
structure Invariant (P : Network → Prop) : Prop where
  /-- A write to amplifiers, spans or the name tables, which leaves nodes and signals alone. -/
  frame : ∀ {n m : Network}, P n → m.nodes = n.nodes → m.signals = n.signals →
    m.passSeq = n.passSeq → P m
  setActive : ∀ {n : Network} (j : Nat) (b : Bool), P n → P (n.modifySignal j ({ · with active := b }))
  switchOff : ∀ {n : Network} (j : Nat), P n →
    P (n.modifySignal j fun s => { s.clearPath with active := false })
  forget : ∀ {n : Network} (j : Nat) (loc : Location), P n → P (n.modifySignal j (·.forget loc))
  /-- A new signal, as a new binding launches it. -/
  pushSignal : ∀ {n : Network} {s : Signal} {index : Int} {rate : Float}, P n →
    Signal.create index rate = .ok s → P { n with signals := n.signals.push s }
  modifyTerminal : ∀ {n : Network} (i : Nat) (g : Terminal → Terminal), (∀ t : Terminal, t.KeepsMarks (g t)) →
    P n → P (n.modifyTerminal i g)
  /-- A terminal found by name, put back changed at its handle. -/
  setTerminal : ∀ {n : Network} {name : String} {t₀ : Terminal} (t : Terminal),
    n.terminal name = .ok t₀ → t₀.KeepsMarks t → P n → P (n.setNode t₀.handle (.terminal t))
  /-- A ROADM found by name, replaced after a call on its switch table. -/
  editRoadm : ∀ {n : Network} {name : String} {r r' : Roadm}, P n → n.roadm name = .ok r →
    Roadm.Edit r r' → P (n.setNode r'.handle (.roadm r'))
  resetRoadm : ∀ {n : Network} (i : Nat), P n → P (n.modifyRoadm i Roadm.reset)
  launch : ∀ {n : Network} (t : Terminal) (ports : List Int) (safe : Bool) (kind : String), P n →
    P (n.launch t ports safe kind).net

theorem foldl_invariant {P : Network → Prop} {α : Type} {n : Network} (h : P n) (l : List α)
    {op : Network → α → Network} (hop : ∀ m a, P m → P (op m a)) : P (l.foldl op n) :=
  List.foldlRecOn l op h fun m hm a _ => hop m a hm

theorem ofExcept_invariant {P : Network → Prop} {n : Network} (h : P n) {e : Except Failure Network}
    (he : ∀ n', e = .ok n' → P n') : P (Outcome.ofExcept n e).net := by
  cases e with
  | error => exact h
  | ok n' => exact he n' rfl

section Commands

variable {P : Network → Prop} (hP : Invariant P) {n : Network}
include hP

theorem Invariant.turnOn (h : P n) (name : String) (safe : Bool) : P (n.turnOn name safe).net := by
  unfold Network.turnOn
  split
  · exact h
  · rename_i t _
    split
    · exact h
    · dsimp only
      split
      · exact h
      · -- the transmitters are switched on, then a pass runs
        have hon : P (t.tx.values.foldl (fun n b => n.modifySignal b.signal ({ · with active := true }))
            n) := foldl_invariant h _ fun m b hm => hP.setActive b.signal true hm
        split
        · exact hP.launch _ _ _ _ (hP.modifyTerminal _ _ (fun _ => .inl rfl) hon)
        · exact hP.modifyTerminal _ _ (fun _ => .inl rfl) hon

theorem Invariant.turnOff (h : P n) (name : String) (channels : List Int) :
    P (n.turnOff name channels).net := by
  unfold Network.turnOff
  split
  · exact h
  · rename_i t _
    dsimp only
    generalize (if channels.isEmpty then t.tx.keys else channels) = cs
    split
    · exact h
    · generalize hN : List.foldl _ n cs = N
      -- the channels are switched off and forget their paths
      have hNs : P N := by
        rw [← hN]
        refine foldl_invariant h cs fun m ch hm => ?_
        split
        · exact hP.modifyTerminal _ _ (fun _ => .inl rfl) (hP.switchOff _ hm)
        · exact hm
      -- then a pass runs on the ports they used
      split
      · exact hNs
      · split
        · exact hP.launch _ _ _ _ hNs
        · exact hNs

theorem Invariant.resetNode (h : P n) (nd : Node) : P (n.resetNode nd) := by
  cases nd with
  | terminal t =>
    exact hP.modifyTerminal _ _ (fun _ => .inr rfl) (foldl_invariant h _ fun _ b hm => hP.switchOff b.signal hm)
  | roadm r => exact hP.resetRoadm _ h

theorem Invariant.reset (h : P n) : P n.reset :=
  hP.frame (foldl_invariant h _ fun _ nd hm => hP.resetNode hm nd) rfl rfl rfl

theorem Invariant.withRoadm (h : P n) {name : String} {f : Roadm → Except Failure Roadm}
    (hf : ∀ r r', f r = .ok r' → Roadm.Edit r r') {n' : Network} (he : n.withRoadm name f = .ok n') :
    P n' := by
  unfold Network.withRoadm at he
  obtain ⟨r, hr, he⟩ := Except.bind_eq_ok.mp he
  obtain ⟨r', hr', he⟩ := Except.bind_eq_ok.mp he
  cases he
  exact hP.editRoadm h hr (hf r r' hr')

theorem Invariant.withAmplifier (h : P n) {name : String} {f : Amplifier → Except Failure Amplifier}
    {n' : Network} (he : n.withAmplifier name f = .ok n') : P n' := by
  unfold Network.withAmplifier at he
  obtain ⟨a, _, he⟩ := Except.bind_eq_ok.mp he
  obtain ⟨a', _, he⟩ := Except.bind_eq_ok.mp he
  cases he
  exact hP.frame h rfl rfl rfl

theorem Invariant.assocTx (h : P n) {t : Terminal} {trx ch port : Int} {n' : Network}
    (he : n.assocTx t trx ch port = .ok n') : P n' := by
  unfold Network.assocTx at he
  split at he
  · dsimp only at he
    split at he
    · cases he
    · split at he
      · cases he
      · split at he
        · -- rebinding the same channel to the same transceiver and port changes nothing
          split at he
          · cases he
            exact h
          · cases he
        · split at he
          · cases he
          · -- a new binding pushes a new signal and files it at the terminal
            obtain ⟨s, hs, he⟩ := Except.bind_eq_ok.mp he
            cases he
            exact hP.modifyTerminal _ _ (fun _ => .inl rfl) (hP.pushSignal h hs)
  · cases he

theorem Invariant.resetLink (h : P n) {name : String} {n' : Network} (he : n.resetLink name = .ok n') :
    P n' := by
  unfold Network.resetLink at he
  obtain ⟨l, _, he⟩ := Except.bind_eq_ok.mp he
  cases he
  -- signals forget the link's locations
  have hX := foldl_invariant h l.locations fun m loc hm =>
    foldl_invariant hm (m.componentSignals loc) fun _ c hm' => hP.forget c.sig loc hm'
  -- the link's amplifiers and spans are reset, which changes no node and no signal
  refine foldl_invariant ?_ l.hops fun m hop hm => ?_
  · split
    · exact hP.frame hX rfl rfl rfl
    · exact hX
  · dsimp only
    split <;> exact hP.frame hm rfl rfl rfl

/-- Every command keeps an invariant. -/
theorem Invariant.execute (h : P n) (c : Command) : P (n.execute c).net := by
  cases c with
  | installRule => exact ofExcept_invariant h fun _ he => hP.withRoadm h (fun _ _ hr => .install hr) he
  | deleteRule roadm id =>
    refine ofExcept_invariant h fun _ he => hP.withRoadm h (fun r r' hr => ?_) he
    -- the empty id deletes every rule
    split at hr
    · cases hr
      exact .deleteAll r
    · exact .delete hr
  | updateRule => exact ofExcept_invariant h fun _ he => hP.withRoadm h (fun _ _ hr => .update hr) he
  | configureVoa => exact ofExcept_invariant h fun _ he => hP.withRoadm h (fun _ _ hr => .configureVoa hr) he
  | assocTx =>
    refine ofExcept_invariant h fun _ he => ?_
    obtain ⟨t, _, he⟩ := Except.bind_eq_ok.mp he
    exact hP.assocTx h he
  | assocRx =>
    refine ofExcept_invariant h fun _ he => ?_
    obtain ⟨t, ht, he⟩ := Except.bind_eq_ok.mp he
    obtain ⟨t', hr, he⟩ := Except.bind_eq_ok.mp he
    cases he
    -- a receive binding is added to the terminal, or nothing changes
    obtain ⟨hh, hmarks⟩ : t'.handle = t.handle ∧ t.KeepsMarks t' := by
      rcases Terminal.assocRx_eq_ok hr with rfl | ⟨-, -, rfl⟩ <;> exact ⟨rfl, .inl rfl⟩
    rw [hh]
    exact hP.setTerminal _ ht hmarks h
  | turnOn => exact hP.turnOn h _ _
  | turnOff => exact hP.turnOff h _ _
  | resetNode =>
    refine ofExcept_invariant h fun _ he => ?_
    obtain ⟨nd, _, he⟩ := Except.bind_eq_ok.mp he
    cases he
    exact hP.resetNode h nd
  | setGain => exact ofExcept_invariant h fun _ he => hP.withAmplifier h he
  | resetAmplifier => exact ofExcept_invariant h fun _ he => hP.withAmplifier h he
  | resetLink => exact ofExcept_invariant h fun _ he => hP.resetLink h he
  | resetNetwork => exact hP.reset h

end Commands

end Network

end WdmNet

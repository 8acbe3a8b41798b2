import WdmNet.Proofs.Pass.Frame
import WdmNet.Proofs.Network.Arena
import WdmNet.Proofs.Network.Invariant
/-!
Recorded paths stay sound under every command.

`Network.PathsSound n` says that every signal's path is sound up to the network's pass
counter (`Signal.PathSound`): its index points only at visits of the location it is kept for,
and the passes along it never decrease and never run ahead of the counter. A fresh network has
no recorded visits. A pass raises the counter and then changes signals only by visits of its
own number (`Flow.Keeps`); resets cut paths back or clear them; a new binding adds a signal
that has not been anywhere. So every command keeps the paths sound, and so does every run of
commands.

The locations of a path need not be distinct: one amplifier can be on a link and be the
preamp of the ROADM the link enters, and a signal then visits it twice in one traversal.

Main statement: `Network.recorded_paths_stay_sound`.
-/

namespace WdmNet

namespace Network

/-- Every signal's path is sound up to the pass counter. -/
def PathsSound (n : Network) : Prop := ∀ i, (n.signal i).PathSound n.passSeq

variable {n : Network}

/-- Soundness of the paths depends on the signals and the pass counter only. -/
theorem PathsSound.of_signals {m : Network} (h : n.PathsSound) (hs : m.signals = n.signals)
    (hq : m.passSeq = n.passSeq) : m.PathsSound := by
  intro i
  have hi : m.signal i = n.signal i := by simp only [signal, hs]
  rw [hi, hq]
  exact h i

theorem PathsSound.modifySignal (h : n.PathsSound) (j : Nat) {g : Signal → Signal}
    (hg : ∀ s, s.PathSound n.passSeq → (g s).PathSound n.passSeq) :
    (n.modifySignal j g).PathsSound := by
  intro i
  rcases signal_modifySignal n j g i with hi | hi
  · rw [hi]
    exact h i
  · rw [hi]
    exact hg _ (h i)

theorem PathsSound.push (h : n.PathsSound) {s : Signal} (hs : s.PathSound n.passSeq) :
    ({ n with signals := n.signals.push s } : Network).PathsSound := by
  intro i
  unfold signal
  rw [Array.getElem?_push]
  split
  · exact hs
  · exact h i

/-- A pass keeps the paths sound: its flow starts with the counter at the pass's number, and
changes signals only by visits of that number. -/
theorem pathsSound_of_keeps {f g : Flow} (hk : f.Keeps g) (hid : f.pass.id = f.net.passSeq)
    (h : f.net.PathsSound) : g.net.PathsSound := by
  intro i
  rw [hk.passSeq]
  exact (h i).of_recordedIn (hid ▸ hk.signals i)

theorem PathsSound.foldl {α : Type} (h : n.PathsSound) (l : List α) {op : Network → α → Network}
    (hop : ∀ m a, m.PathsSound → (op m a).PathsSound) : (l.foldl op n).PathsSound :=
  List.foldlRecOn l op h fun m hm a _ => hop m a hm

theorem PathsSound.modifyTerminal (h : n.PathsSound) (th : Nat) (g : Terminal → Terminal) :
    (n.modifyTerminal th g).PathsSound :=
  h.of_signals rfl rfl

theorem PathsSound.modifyRoadm (h : n.PathsSound) (rh : Nat) (g : Roadm → Roadm) :
    (n.modifyRoadm rh g).PathsSound :=
  h.of_signals rfl rfl

theorem PathsSound.setActive (h : n.PathsSound) (j : Nat) (b : Bool) :
    (n.modifySignal j ({ · with active := b })).PathsSound :=
  h.modifySignal j fun _ hs => hs.of_path rfl rfl

theorem PathsSound.switchOff (h : n.PathsSound) (j : Nat) :
    (n.modifySignal j fun s => { s.clearPath with active := false }).PathsSound :=
  h.modifySignal j fun s _ => (s.pathSound_clearPath _).of_path rfl rfl

theorem PathsSound.launch (h : n.PathsSound) (t : Terminal) (ports : List Int) (safe : Bool)
    (kind : String) : (n.launch t ports safe kind).net.PathsSound := by
  obtain ⟨g, hk, hnet⟩ := launch_keeps n t ports safe kind
  rw [hnet]
  -- the pass starts with the counter raised to its own number
  have h₀ : PathsSound { n with passSeq := n.passSeq + 1 } := fun i => (h i).mono (Nat.le_succ _)
  exact pathsSound_of_keeps hk rfl h₀

/-- Every kind of write of a command keeps the recorded paths sound. -/
theorem pathsSound_invariant : Invariant PathsSound where
  frame h _ hs hq := h.of_signals hs hq
  setActive j b h := h.setActive j b
  switchOff j h := h.switchOff j
  forget j loc h := h.modifySignal j fun _ hs => hs.forget loc
  -- a new binding launches a signal that has not been anywhere
  pushSignal h hs := h.push (Signal.PathSound.of_create hs _)
  modifyTerminal i g _ h := h.modifyTerminal i g
  setTerminal _ _ _ h := h.of_signals rfl rfl
  editRoadm h _ _ := h.of_signals rfl rfl
  resetRoadm i h := h.modifyRoadm i _
  launch t ports safe kind h := h.launch t ports safe kind

theorem PathsSound.execute (h : n.PathsSound) (c : Command) : (n.execute c).net.PathsSound :=
  pathsSound_invariant.execute h c

theorem pathsSound_empty (maxSwitches : Nat) : (Network.empty maxSwitches).PathsSound :=
  fun _ => Signal.pathSound_default _

/-- Recorded paths stay sound. From a network whose paths are sound, such as a fresh one, every
run of commands leaves each signal with an index that points only at visits of the location
it is kept for, and with passes that never decrease along the path and never run ahead of
the network's pass counter. -/
theorem recorded_paths_stay_sound (n : Network) (cs : List Command) (h : n.PathsSound) :
    (cs.foldl (fun n c => (n.execute c).net) n).PathsSound :=
  h.foldl cs fun _ c hm => hm.execute c

/-- A terminal with one transceiver whose output port 1 is linked back to its input port 1:
binding channel 1 there, switching the terminal on, which launches the signal around the link,
and resetting the network keep the paths sound. -/
theorem recorded_paths_sound_through_a_launch :
    let n := ((empty 0).add (.terminal "t" [⟨1, "t-trx1", 0, "QPSK", 0⟩])).add
      (.link ⟨"", "t", "t", 1, 1, "", [], ""⟩)
    n.PathsSound ∧
      ([.assocTx "t" 1 1 1, .turnOn "t" false, .resetNetwork].foldl
        (fun n c => (n.execute c).net) n).PathsSound := by
  intro n
  -- additions push no signal and run no pass
  have h : n.PathsSound := (pathsSound_empty 0).of_signals rfl rfl
  exact ⟨h, recorded_paths_stay_sound n _ h⟩

end Network

end WdmNet

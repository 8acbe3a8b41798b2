import WdmNet.Proofs.Network.ChannelOrder
import WdmNet.Proofs.Network.Fresh
import WdmNet.Proofs.Pass.Reports
import WdmNet.Proofs.Topology.Replay
/-!
Reception reports along every run.

A pass marks each terminal port it delivers to with its own number, the pass counter raised
by one. A command keeps those marks or clears them with the rest of a terminal's port state,
and an addition starts a terminal with none. So no port of a network that a run reaches
carries a number beyond the pass counter (`Network.portMarks_of_run`): each port a pass reaches
was not yet marked by it, and the report the pass files for that port is current.

Main statements: `Network.portMarks_of_run`, `Network.reports_current_after_launch`.
-/

namespace WdmNet

theorem Terminal.create_portPass {h : Nat} {name : String} {trxs : List Transceiver} {t : Terminal}
    (he : Terminal.create h name trxs = .ok t) : t.portPass = {} := by
  unfold Terminal.create at he
  obtain ⟨_, -, he⟩ := Except.bind_eq_ok.mp he
  cases he
  rfl

/-- A terminal that keeps its marks or drops them all has no mark it did not have. -/
theorem Terminal.KeepsMarks.get?_eq_some {t t' : Terminal} (hk : t.KeepsMarks t') {p : Int}
    {k : Nat} (h : t'.portPass.get? p = some k) : t.portPass.get? p = some k := by
  rcases hk with hpp | hpp <;> rw [hpp] at h
  · exact h
  · simp at h

namespace Flow

/-- Every port of every terminal is marked by a pass numbered at most the flow's own. -/
def MarksUpTo (f : Flow) : Prop :=
  ∀ th t, f.net.terminalAt? th = some t → ∀ p k, t.portPass.get? p = some k → k ≤ f.pass.id

/-- A step that leaves every terminal and the pass's number. -/
theorem MarksUpTo.of_terminalAt {f g : Flow} (h : f.MarksUpTo)
    (ht : ∀ j, g.net.terminalAt? j = f.net.terminalAt? j) (hid : g.pass.id = f.pass.id) :
    g.MarksUpTo := by
  intro th t hth p k hk
  rw [ht] at hth
  rw [hid]
  exact h th t hth p k hk

/-- A write of a pass to a terminal marks its ports with the pass's own number only. -/
theorem MarksUpTo.modifyTerminal {f : Flow} (h : f.MarksUpTo) {th : Nat} {g : Terminal → Terminal}
    (hw : ∀ t, f.net.terminalAt? th = some t → t.PassWrite f.pass.id (g t)) :
    (f.update (·.modifyTerminal th g)).MarksUpTo := by
  intro j t ht p k hk
  change (f.net.modifyTerminal th g).terminalAt? j = some t at ht
  rw [Network.terminalAt?_modifyTerminal] at ht
  split at ht
  · subst th
    obtain ⟨t₀, ht₀, rfl⟩ := Option.map_eq_some_iff.mp ht
    rcases (hw t₀ ht₀).marks p k hk with hk | rfl
    · exact h j t₀ ht₀ p k hk
    · exact Nat.le_refl _
  · exact h j t ht p k hk

/-- No step of a pass marks a port with a number beyond the pass's own, and none changes it. -/
theorem marksUpTo_closed : Closed fun f g => g.pass.id = f.pass.id ∧ (f.MarksUpTo → g.MarksUpTo) where
  refl _ := ⟨rfl, id⟩
  trans h₁ h₂ := ⟨h₂.1.trans h₁.1, h₂.2 ∘ h₁.2⟩
  record _ _ hn hid _ := ⟨hid, fun h => h.of_terminalAt (fun _ => by rw [hn]) hid⟩
  fail _ _ _ _ := ⟨rfl, id⟩
  visit _ _ _ _ := ⟨rfl, id⟩
  amp _ _ _ := ⟨rfl, id⟩
  span _ _ _ := ⟨rfl, id⟩
  terminal _ _ _ hw := ⟨rfl, fun h => h.modifyTerminal hw⟩
  roadmPorts _ rh g _ := ⟨rfl, fun h => h.of_terminalAt (Network.terminalAt?_modifyRoadm rh g) rfl⟩
  output _ rh _ _ _ _ _ _ := ⟨rfl, fun h => h.of_terminalAt (Network.terminalAt?_modifyRoadm rh _) rfl⟩

end Flow

namespace Network

variable {n : Network}

/-- No port of a terminal is marked with a pass the network has not run yet. -/
def PortMarks (n : Network) : Prop :=
  ∀ th t, n.terminalAt? th = some t → ∀ p k, t.portPass.get? p = some k → k ≤ n.passSeq

theorem PortMarks.of_terminalAt {m : Network} (h : n.PortMarks)
    (ht : ∀ j, m.terminalAt? j = n.terminalAt? j) (hq : m.passSeq = n.passSeq) : m.PortMarks := by
  intro th t hth p k hk
  rw [ht] at hth
  rw [hq]
  exact h th t hth p k hk

theorem launch_passSeq (n : Network) (t : Terminal) (ports : List Int) (safe : Bool) (kind : String) :
    (n.launch t ports safe kind).net.passSeq = n.passSeq + 1 := by
  obtain ⟨g, hk, hnet⟩ := launch_keeps n t ports safe kind
  rw [hnet, hk.passSeq]

theorem PortMarks.launch (h : n.PortMarks) (t : Terminal) (ports : List Int) (safe : Bool)
    (kind : String) : (n.launch t ports safe kind).net.PortMarks := by
  obtain ⟨g, ⟨hid, hg⟩, hnet, -⟩ := Flow.marksUpTo_closed.launch n t ports safe kind
  -- the pass starts with every mark at most the counter, below the pass's own number
  have h₀ : Flow.MarksUpTo ⟨{ n with passSeq := n.passSeq + 1 },
      ⟨n.passSeq + 1, kind, t.name, safe, #[], {}, #[]⟩⟩ :=
    fun th t ht p k hk => Nat.le_succ_of_le (h th t ht p k hk)
  intro th t' ht p k hk
  rw [hnet] at ht
  rw [launch_passSeq]
  have hk := hg h₀ th t' ht p k hk
  rwa [hid] at hk

theorem PortMarks.modifyTerminal (h : n.PortMarks) (i : Nat) {g : Terminal → Terminal}
    (hg : ∀ t : Terminal, t.KeepsMarks (g t)) : (n.modifyTerminal i g).PortMarks := by
  intro j t ht p k hk
  rw [terminalAt?_modifyTerminal] at ht
  split at ht
  · obtain ⟨t₀, ht₀, rfl⟩ := Option.map_eq_some_iff.mp ht
    exact h j t₀ ht₀ p k ((hg t₀).get?_eq_some hk)
  · exact h j t ht p k hk

/-- Putting a terminal in place of a node leaves every other terminal where it was. -/
theorem terminalAt?_of_setNode_terminal {i h : Nat} {t t' : Terminal}
    (ht : (n.setNode i (.terminal t)).terminalAt? h = some t') : t' = t ∨ n.terminalAt? h = some t' := by
  rw [terminalAt?_eq_some, setNode, Array.set!_eq_setIfInBounds, Array.getElem?_setIfInBounds] at ht
  split at ht
  · split at ht
    · cases ht
      exact .inl rfl
    · cases ht
  · exact .inr (terminalAt?_eq_some.mpr ht)

/-- A terminal found by name and put back: its marks are those it had, or none. -/
theorem PortMarks.setTerminal (h : n.PortMarks) {name : String} {t₀ t : Terminal}
    (he : n.terminal name = .ok t₀) (hk : t₀.KeepsMarks t) :
    (n.setNode t₀.handle (.terminal t)).PortMarks := by
  intro j t' ht p k hpk
  rcases terminalAt?_of_setNode_terminal ht with rfl | ht
  · obtain ⟨j₀, hj₀⟩ := Array.getElem?_of_mem (mem_of_terminal he)
    exact h j₀ t₀ (terminalAt?_eq_some.mpr hj₀) p k (hk.get?_eq_some hpk)
  · exact h j t' ht p k hpk

/-- Every kind of write of a command keeps the marks within the pass counter: only a pass
marks ports, with the counter it raises. -/
theorem portMarks_invariant : Invariant PortMarks where
  frame h hs _ hq := h.of_terminalAt (terminalAt?_of_nodes hs) hq
  setActive _ _ h := h
  switchOff _ h := h
  forget _ _ h := h
  pushSignal h _ := h
  modifyTerminal i _ hg h := h.modifyTerminal i hg
  setTerminal _ he hk h := h.setTerminal he hk
  editRoadm h _ _ := fun th t ht p k hk => h th t (terminalAt?_of_setNode_roadm ht) p k hk
  resetRoadm i h := h.of_terminalAt (terminalAt?_modifyRoadm i _) rfl
  launch t ports safe kind h := h.launch t ports safe kind

theorem portMarks_empty (m : Nat) : (empty m).PortMarks := fun _ _ h => nomatch h

/-- A new terminal has no port marks, and no other addition touches a terminal. -/
theorem PortMarks.step {n' : Network} (h : n.PortMarks) (hs : Step n n') : n'.PortMarks := by
  cases hs with
  | addTerminal he =>
    obtain ⟨-, t, ht, rfl, -⟩ := addTerminal_eq_ok he
    intro j t' ht' p k hk
    rw [terminalAt?_push_terminal rfl] at ht'
    split at ht'
    · cases ht'
      rw [Terminal.create_portPass ht] at hk
      simp at hk
    · exact h j t' ht' p k hk
  | addRoadm he =>
    obtain ⟨-, pre, boo, c₁, claimed, -, -, rfl, -⟩ := addRoadm_eq_ok he
    exact h.of_terminalAt (terminalAt?_push_roadm rfl) rfl
  | addAmplifier he =>
    obtain ⟨-, a, -, rfl, -⟩ := addAmplifier_eq_ok he
    exact portMarks_invariant.frame h rfl rfl rfl
  | addLink he =>
    obtain ⟨src, dst, name, boost, c₀, claimed, spans, hops, length, raman, -, -, -, -, -, -, -, -,
      rfl, -⟩ := addLink_eq_ok he
    exact portMarks_invariant.frame h rfl rfl rfl
  | execute c => exact portMarks_invariant.execute h c

/-- Unbinding a channel keeps the terminal's marks. -/
theorem PortMarks.unbind {n' : Network} (h : n.PortMarks) (hu : Unbind n n') : n'.PortMarks := by
  cases hu with
  | @tx _ t t' ch ht he =>
    obtain ⟨-, -, -, rfl⟩ := Terminal.disassocTx_eq_ok he
    exact h.setTerminal ht (.inl rfl)
  | @rx _ t t' ch ht he =>
    obtain ⟨-, rfl⟩ := Terminal.disassocRx_eq_ok he
    exact h.setTerminal ht (.inl rfl)

/-- Along every run of additions, commands and unbindings from an empty network, every port
mark names a pass that has run. -/
theorem portMarks_of_run {m : Nat}
    (hn : Relation.ReflTransGen (fun a b => Step a b ∨ Unbind a b) (empty m) n) : n.PortMarks := by
  induction hn with
  | refl => exact portMarks_empty m
  | tail _ hstep ih =>
    rcases hstep with hstep | hstep
    · exact ih.step hstep
    · exact ih.unbind hstep

/-- Reception reports are never stale, on every network that a run of additions, commands and
unbindings reaches. After a pass, every port of a terminal that a delivery of the pass reached
is no longer pending, each receive binding on it has the report of the port's final arrivals
filed (`Terminal.report`: missing, or the carrier's readings and verdict), and a listening
terminal has handed that report on. -/
theorem reports_current_after_launch {m : Nat}
    (hrun : Relation.ReflTransGen (fun a b => Step a b ∨ Unbind a b) (empty m) n)
    (src : Terminal) (ports : List Int) (safe : Bool) (kind : String)
    {th : Nat} {t : Terminal} {p : Int}
    (ht : (n.launch src ports safe kind).net.terminalAt? th = some t)
    (hreached : t.portPass.get? p = some (n.passSeq + 1)) :
    t.pending.contains p = false ∧
      ∀ ch b, t.rx.get? ch = some b → b.port = p →
        t.reports.get? ch = some (t.report (n.launch src ports safe kind).net.symbolRate ch b) ∧
        (t.listening = true → ∃ reps, Event.delivered t.name reps ∈ (n.launch src ports safe kind).events ∧
          t.report (n.launch src ports safe kind).net.symbolRate ch b ∈ reps) := by
  obtain ⟨t₀, h₀, -⟩ := (KeepsTerminals.launch n src ports safe kind).back ht
  -- no port carries the number of the pass to come before it runs
  have hfresh : t₀.portPass.get? p ≠ some (n.passSeq + 1) := fun hp =>
    Nat.not_succ_le_self _ (portMarks_of_run hrun th t₀ h₀ p _ hp)
  exact launch_reports_current (setsSound_of_run hrun) (bindingsSound_of_run hrun) src ports safe
    kind h₀ hfresh ht hreached

/-- A terminal whose output port 1 is linked back to its own input port 1: a launch from port 1
reaches that input port, and leaves nothing pending there. -/
theorem launch_settles_self_link :
    let n := ((empty 0).add (.terminal "t" [])).add (.link ⟨"", "t", "t", 1, 1, "", [], ""⟩)
    let o := n.launch ⟨0, "t", [], {}, {}, {}, {}, {}, {}, {}, false⟩ [1] false "turn_on"
    (o.net.terminalAt? 0).map (·.pending.contains 1) = some false := by
  intro n o
  obtain ⟨m, hrun⟩ := ((reachable_empty 0).add _).add _
  have hrun' : Relation.ReflTransGen (fun a b => Step a b ∨ Unbind a b) (empty m) n :=
    Relation.ReflTransGen.mono (fun _ _ => Or.inl) _ _ hrun
  have hr : (o.net.terminalAt? 0).map (·.portPass.get? 1) = some (some (n.passSeq + 1)) := by
    decide +kernel
  obtain ⟨t, ht, hreached⟩ := Option.map_eq_some_iff.mp hr
  have hpen := (reports_current_after_launch hrun' _ [1] false "turn_on" ht hreached).1
  rw [ht, Option.map_some, hpen]

end Network

end WdmNet

import WdmNet.Topology.Build
import WdmNet.Proofs.Network.Arena
import WdmNet.Proofs.Topology.Duplicates
import WdmNet.Proofs.Network.Bindings
/-!
Replaying a snapshot.

`Network.describe` reads a network's configuration back as a description: its control section
binds again every transmit binding of every terminal and turns on every terminal with an active
channel. Building the description and applying the control section is meant to reproduce the
network. It does not always: binding a channel checks neither that its port is linked nor that
the terminal is off, while turning a terminal on refuses one that transmits on a port no link
leaves. A binding made on an unlinked port after the terminal was switched on is kept by the
snapshot, and the replay stops at it.

Building a description is a run of additions, so the rebuilt network has every invariant of a
reachable network; applying a control section that binds a terminal on a port without a link
and turns the terminal on fails, whatever else the section holds.

Main statements: `Control.apply_refused_of_unlinked_port`,
`Network.snapshot_replay_fails_on_unlinked_port`.
-/

namespace WdmNet

/-! ### Building runs additions -/

/-- Adding the items of a list one after the other, each by an addition, is a run of
additions. -/
theorem addAll_run {α : Type} {label : α → String}
    {add : Network → α → Except Failure (Network × Nat)}
    (hadd : ∀ n x n' h, add n x = .ok (n', h) → Network.Step n n') {n n' : Network}
    {items : List α} (he : addAll n items label add = .ok n') :
    Relation.ReflTransGen Network.Step n n' := by
  unfold addAll at he
  induction items generalizing n with
  | nil =>
    rw [List.foldlM_nil] at he
    cases he
    exact .refl
  | cons x items ih =>
    rw [List.foldlM_cons] at he
    obtain ⟨k, hk, he⟩ := Except.bind_eq_ok.mp he
    split at hk
    · rename_i k' _ hx
      cases hk
      exact .head (hadd _ _ _ _ hx) (ih he)
    · cases hk

/-- Building a description runs its additions from an empty network: amplifiers, terminals,
ROADMs, then links; so the network it builds is reachable. -/
theorem Description.build_reachable {d : Description} {k : Nat} {m : Network}
    (he : d.build k = .ok m) : Relation.ReflTransGen Network.Step (Network.empty k) m := by
  unfold Description.build at he
  obtain ⟨-, -, he⟩ := Except.bind_eq_ok.mp he
  obtain ⟨n₁, h₁, he⟩ := Except.bind_eq_ok.mp he
  obtain ⟨n₂, h₂, he⟩ := Except.bind_eq_ok.mp he
  obtain ⟨n₃, h₃, h₄⟩ := Except.bind_eq_ok.mp he
  exact (((addAll_run (fun _ _ _ _ hx => .addAmplifier hx) h₁).trans
    (addAll_run (fun _ _ _ _ hx => .addTerminal hx) h₂)).trans
    (addAll_run (fun _ _ _ _ hx => .addRoadm hx) h₃)).trans
    (addAll_run (fun _ _ _ _ hx => .addLink hx) h₄)

theorem Description.build_run {d : Description} {k : Nat} {m : Network}
    (he : d.build k = .ok m) :
    Relation.ReflTransGen (fun a b => Network.Step a b ∨ Network.Unbind a b) (Network.empty k) m :=
  Relation.ReflTransGen.mono (fun _ _ => Or.inl) _ _ (Description.build_reachable he)

/-! ### Outcomes that stop at the first failure -/

namespace Outcome

/-- The outcome failed, or its network has `P`. -/
def FailsOr (P : Network → Prop) (o : Outcome) : Prop := o.error.isSome ∨ P o.net

variable {P Q : Network → Prop}

/-- A failure is kept; a success hands its network on. -/
theorem FailsOr.andThen {o : Outcome} {next : Network → Outcome} (h : o.FailsOr P)
    (hnext : ∀ n, P n → (next n).FailsOr Q) : (o.andThen next).FailsOr Q := by
  unfold Outcome.andThen
  split
  · rename_i e he
    exact .inl (by rw [he]; rfl)
  · rename_i he
    rcases h with h | h
    · rw [he] at h
      cases h
    · exact hnext _ h

theorem FailsOr.ofStep {n : Network} {e : Except Failure Network}
    (he : ∀ n', e = .ok n' → P n') : (Outcome.ofStep n e).FailsOr P := by
  cases e with
  | error => exact .inl rfl
  | ok n' => exact .inr (he n' rfl)

theorem FailsOr.foldl {α : Type} {step : Network → α → Outcome} {l : List α} {o : Outcome}
    (h : o.FailsOr P) (hstep : ∀ n x, x ∈ l → P n → (step n x).FailsOr P) :
    (l.foldl (fun o x => o.andThen (step · x)) o).FailsOr P :=
  List.foldlRecOn (motive := FailsOr P) l _ h fun _ ho x hx =>
    ho.andThen fun n hn => hstep n x hx hn

/-- One item turns `P` into `Q`; the items keep `P` before it and `Q` after it. -/
theorem FailsOr.foldl_of_mem {α : Type} {step : Network → α → Outcome} {l : List α} {x : α}
    (hx : x ∈ l) {o : Outcome} (h : o.FailsOr P) (hP : ∀ n y, y ∈ l → P n → (step n y).FailsOr P)
    (hPQ : ∀ n, P n → (step n x).FailsOr Q) (hQ : ∀ n y, y ∈ l → Q n → (step n y).FailsOr Q) :
    (l.foldl (fun o x => o.andThen (step · x)) o).FailsOr Q := by
  obtain ⟨l₁, l₂, rfl⟩ := List.append_of_mem hx
  rw [List.foldl_append, List.foldl_cons]
  have h₁ := h.foldl (l := l₁) fun n y hy => hP n y (List.mem_append_left _ hy)
  exact (h₁.andThen hPQ).foldl fun n y hy =>
    hQ n y (List.mem_append_right _ (List.mem_cons_of_mem _ hy))

end Outcome

/-! ### Ports of a terminal -/

theorem Terminal.mem_tx_of_get? {t : Terminal} {ch : Int} {b : TxBinding}
    (hb : t.tx.get? ch = some b) : ch ∈ t.tx := by
  rw [Std.TreeMap.mem_iff_isSome_getElem?, ← Std.TreeMap.get?_eq_getElem?, hb]
  rfl

/-- The ports a terminal transmits on are the ports of its bindings. -/
theorem Terminal.mem_txPorts {t : Terminal} {p : Int} :
    p ∈ t.txPorts t.tx.keys ↔ ∃ ch b, t.tx.get? ch = some b ∧ b.port = p := by
  unfold Terminal.txPorts
  rw [mem_sortDedup, List.mem_filterMap]
  constructor
  · rintro ⟨ch, -, hmap⟩
    obtain ⟨b, hb, hp⟩ := Option.map_eq_some_iff.mp hmap
    exact ⟨ch, b, hb, hp⟩
  · rintro ⟨ch, b, hb, rfl⟩
    exact ⟨ch, Std.TreeMap.mem_keys.mpr (Terminal.mem_tx_of_get? hb), by rw [hb]; rfl⟩

namespace Network

variable {n m : Network} {name : String} {p : Int}

/-- A terminal found by name is the terminal at the handle the name table gives. -/
theorem terminal_eq_ok {t : Terminal} :
    n.terminal name = .ok t ↔ ∃ h, n.nodeByName.get? name = some h ∧ n.terminalAt? h = some t := by
  simp only [terminalAt?_eq_some]
  unfold Network.terminal Network.node
  rw [Except.bind_eq_ok]
  cases hh : n.nodeByName.get? name with
  | none => simp
  | some h =>
    simp only [Option.bind_eq_bind, Option.bind_some]
    cases hnd : n.nodes[h]? with
    | none => simp [hnd]
    | some nd => cases nd <;> simp [hnd, pure, Except.pure]

/-! ### Ports without a link -/

/-- No link leaves port `p` of the terminal named `name`, if there is one. -/
def UnlinkedAt (n : Network) (name : String) (p : Int) : Prop :=
  ∀ t, n.terminal name = .ok t → n.outboundLink t.handle p = none

/-- A port stays unlinked while the names and the links stay, and every terminal comes from
one at its place with its handle. -/
theorem UnlinkedAt.of_back (h : n.UnlinkedAt name p) (hnames : m.nodeByName = n.nodeByName)
    (hout : m.outLinks = n.outLinks) (hlinks : m.links = n.links)
    (hback : ∀ {j t'}, m.terminalAt? j = some t' → ∃ t, n.terminalAt? j = some t ∧ t'.handle = t.handle) :
    m.UnlinkedAt name p := by
  intro t' ht'
  obtain ⟨j, hj, htj⟩ := terminal_eq_ok.mp ht'
  obtain ⟨t, ht, hh⟩ := hback htj
  have hu := h t (terminal_eq_ok.mpr ⟨j, hnames ▸ hj, ht⟩)
  unfold outboundLink at hu ⊢
  rw [hout, hlinks, hh]
  exact hu

/-- `m` has the name table and the links of `n`, and its terminals are those of `n`, each at its
place with its handle and with a binding on the same port for every channel it transmitted. -/
structure KeepsTerminals (n m : Network) : Prop where
  names : m.nodeByName = n.nodeByName
  outLinks : m.outLinks = n.outLinks
  links : m.links = n.links
  kept : ∀ {j t}, n.terminalAt? j = some t → ∃ t', m.terminalAt? j = some t' ∧
    t'.handle = t.handle ∧ ∀ {ch b}, t.tx.get? ch = some b → ∃ b', t'.tx.get? ch = some b' ∧
      b'.port = b.port
  back : ∀ {j t'}, m.terminalAt? j = some t' → ∃ t, n.terminalAt? j = some t ∧ t'.handle = t.handle

namespace KeepsTerminals

theorem refl (n : Network) : KeepsTerminals n n :=
  ⟨rfl, rfl, rfl, fun {_ t} ht => ⟨t, ht, rfl, fun {_ b} hb => ⟨b, hb, rfl⟩⟩,
    fun {_ t} ht => ⟨t, ht, rfl⟩⟩

theorem trans {k : Network} (h₁ : KeepsTerminals n m) (h₂ : KeepsTerminals m k) :
    KeepsTerminals n k where
  names := h₂.names.trans h₁.names
  outLinks := h₂.outLinks.trans h₁.outLinks
  links := h₂.links.trans h₁.links
  kept ht := by
    obtain ⟨t', ht', hh', hb'⟩ := h₁.kept ht
    obtain ⟨t'', ht'', hh'', hb''⟩ := h₂.kept ht'
    refine ⟨t'', ht'', hh''.trans hh', fun hb => ?_⟩
    obtain ⟨b', hb', hp'⟩ := hb' hb
    obtain ⟨b'', hb'', hp''⟩ := hb'' hb'
    exact ⟨b'', hb'', hp''.trans hp'⟩
  back ht := by
    obtain ⟨t', ht', hh'⟩ := h₂.back ht
    obtain ⟨t, ht, hh⟩ := h₁.back ht'
    exact ⟨t, ht, hh'.trans hh⟩

theorem of_terminalAt (hnames : m.nodeByName = n.nodeByName) (hout : m.outLinks = n.outLinks)
    (hlinks : m.links = n.links) (ht : ∀ j, m.terminalAt? j = n.terminalAt? j) :
    KeepsTerminals n m :=
  ⟨hnames, hout, hlinks, fun {j t} h => ⟨t, (ht j).trans h, rfl, fun {_ b} hb => ⟨b, hb, rfl⟩⟩,
    fun {j t} h => ⟨t, (ht j).symm.trans h, rfl⟩⟩

/-- A change of one terminal that keeps its handle and the ports of its bindings. -/
theorem modifyTerminal (i : Nat) {g : Terminal → Terminal}
    (hg : ∀ t, n.terminalAt? i = some t → (g t).handle = t.handle ∧
      ∀ {ch b}, t.tx.get? ch = some b → ∃ b', (g t).tx.get? ch = some b' ∧ b'.port = b.port) :
    KeepsTerminals n (n.modifyTerminal i g) := by
  refine ⟨rfl, rfl, rfl, fun {j t} ht => ?_, fun {j t'} ht' => ?_⟩
  · rw [terminalAt?_modifyTerminal]
    split
    · rename_i hij
      subst hij
      rw [ht]
      exact ⟨g t, rfl, hg t ht⟩
    · exact ⟨t, ht, rfl, fun {_ b} hb => ⟨b, hb, rfl⟩⟩
  · rw [terminalAt?_modifyTerminal] at ht'
    split at ht'
    · rename_i hij
      subst hij
      obtain ⟨t, ht, rfl⟩ := Option.map_eq_some_iff.mp ht'
      exact ⟨t, ht, (hg t ht).1⟩
    · exact ⟨t', ht', rfl⟩

/-- A pass keeps the names, the links and every terminal's bindings. -/
theorem closed : Flow.Closed fun f g => KeepsTerminals f.net g.net where
  refl f := .refl f.net
  trans h₁ h₂ := h₁.trans h₂
  record _ _ hn _ _ := hn ▸ .refl _
  fail _ _ _ _ := .refl _
  visit _ _ _ _ := .of_terminalAt rfl rfl rfl fun _ => rfl
  amp _ _ _ := .of_terminalAt rfl rfl rfl fun _ => rfl
  span _ _ _ := .of_terminalAt rfl rfl rfl fun _ => rfl
  terminal _ th _ hw := .modifyTerminal th fun t ht =>
    ⟨(hw t ht).handle, fun {_ b} hb => ⟨b, (hw t ht).tx ▸ hb, rfl⟩⟩
  roadmPorts _ rh g _ := .of_terminalAt rfl rfl rfl fun j => terminalAt?_modifyRoadm rh g j
  output _ rh _ _ _ _ _ _ := .of_terminalAt rfl rfl rfl fun j => terminalAt?_modifyRoadm rh _ j

theorem launch (n : Network) (t : Terminal) (ports : List Int) (safe : Bool) (kind : String) :
    KeepsTerminals n (n.launch t ports safe kind).net := by
  obtain ⟨g, hg, hnet, -⟩ := closed.launch n t ports safe kind
  rw [hnet]
  exact (KeepsTerminals.of_terminalAt (n := n) (m := { n with passSeq := n.passSeq + 1 }) rfl rfl rfl
    fun _ => rfl).trans hg

/-- Turning a terminal on marks its bindings active and runs a pass; refused, it changes
nothing. -/
theorem turnOn (n : Network) (name : String) (safe : Bool) :
    KeepsTerminals n (n.turnOn name safe).net := by
  unfold Network.turnOn
  split
  · exact .refl n
  · rename_i t _
    split
    · exact .refl n
    · dsimp only
      split
      · exact .refl n
      · have hon : KeepsTerminals n
            (t.tx.values.foldl (fun n b => n.modifySignal b.signal ({ · with active := true })) n) :=
          foldl_invariant (P := KeepsTerminals n) (.refl n) _ fun k _ hk =>
            hk.trans (.of_terminalAt rfl rfl rfl fun _ => rfl)
        -- marking a binding active keeps its port
        have hmark := hon.trans (KeepsTerminals.modifyTerminal t.handle
          (g := fun t => { t with tx := t.tx.map fun _ (b : TxBinding) => { b with active := true } })
          fun t' _ => ⟨rfl, fun {ch b} hb => ⟨{ b with active := true }, by
            simp only [Std.TreeMap.get?_eq_getElem?, Std.TreeMap.getElem?_map] at hb ⊢
            rw [hb]
            rfl, rfl⟩⟩)
        split
        · exact hmark.trans (.launch _ _ _ _ _)
        · exact hmark

/-- A transmit binding adds a channel to the terminal it is made on. -/
theorem assocTx (hs : n.BindingsSound) {t : Terminal} {trx ch port : Int} {n' : Network}
    (ht : n.terminal name = .ok t) (he : n.assocTx t trx ch port = .ok n') : KeepsTerminals n n' := by
  rcases assocTx_eq_ok he with ⟨rfl, -⟩ | ⟨-, s, -, hnone, -, -, rfl⟩
  · exact .refl _
  · have htt := hs.terminalAt?_of_terminal ht
    refine (KeepsTerminals.of_terminalAt (n := n) (m := { n with signals := n.signals.push s }) rfl rfl rfl
      fun _ => rfl).trans (.modifyTerminal t.handle
        (g := fun t => { t with tx := t.tx.insert ch ⟨trx, port, n.signals.size, false⟩ })
        fun t' ht' => ⟨rfl, fun {c b} hb => ⟨b, ?_, rfl⟩⟩)
    -- the terminal at the handle is `t`, whose channel `ch` was free
    have hteq : t' = t := Option.some.inj (ht'.symm.trans htt)
    subst hteq
    have hne : ch ≠ c := fun hc => by rw [hc, hb] at hnone; cases hnone
    dsimp only
    rw [get?_insert_eq, if_neg hne]
    exact hb

/-- A terminal put back at its handle with the same handle and transmit bindings. -/
theorem setTerminal (hs : n.BindingsSound) {t t' : Terminal} (ht : n.terminal name = .ok t)
    (hh : t'.handle = t.handle) (htx : t'.tx = t.tx) :
    KeepsTerminals n (n.setNode t.handle (.terminal t')) := by
  have htt := hs.terminalAt?_of_terminal ht
  refine ⟨rfl, rfl, rfl, fun {j t₀} ht₀ => ?_, fun {j t₀} ht₀ => ?_⟩
  · rw [terminalAt?_setNode_terminal htt]
    split
    · rename_i hj
      subst hj
      rw [htt] at ht₀
      cases ht₀
      exact ⟨t', rfl, hh, fun {_ b} hb => ⟨b, htx ▸ hb, rfl⟩⟩
    · exact ⟨t₀, ht₀, rfl, fun {_ b} hb => ⟨b, hb, rfl⟩⟩
  · rw [terminalAt?_setNode_terminal htt] at ht₀
    split at ht₀
    · rename_i hj
      subst hj
      cases ht₀
      exact ⟨t, htt, hh⟩
    · exact ⟨t₀, ht₀, rfl⟩

theorem unlinkedAt (hk : KeepsTerminals n m) (h : n.UnlinkedAt name p) : m.UnlinkedAt name p :=
  h.of_back hk.names hk.outLinks hk.links hk.back

end KeepsTerminals

/-! ### Stranded ports -/

/-- The terminal named `name` transmits on port `p`, which no link leaves; the terminals of the
network sit at their handles with sound bindings. -/
structure StrandedPort (n : Network) (name : String) (p : Int) : Prop where
  transmits : ∃ t, n.terminal name = .ok t ∧ ∃ ch b, t.tx.get? ch = some b ∧ b.port = p
  unlinked : n.UnlinkedAt name p
  sound : n.BindingsSound

theorem StrandedPort.of_keeps (h : n.StrandedPort name p) (hk : KeepsTerminals n m)
    (hs : m.BindingsSound) : m.StrandedPort name p := by
  obtain ⟨t, ht, ch, b, hb, hp⟩ := h.transmits
  obtain ⟨j, hj, htj⟩ := terminal_eq_ok.mp ht
  obtain ⟨t', ht', -, hb'⟩ := hk.kept htj
  obtain ⟨b', hb', hp'⟩ := hb' hb
  exact ⟨⟨t', terminal_eq_ok.mpr ⟨j, hk.names ▸ hj, ht'⟩, ch, b', hb', hp'.trans hp⟩,
    hk.unlinkedAt h.unlinked, hs⟩

/-- Binding a channel of the terminal to an unlinked port strands the port. -/
theorem strandedPort_of_assocTx (hu : n.UnlinkedAt name p) (hs : n.BindingsSound) {t : Terminal}
    {trx ch : Int} {n' : Network} (ht : n.terminal name = .ok t)
    (he : n.assocTx t trx ch p = .ok n') : n'.StrandedPort name p := by
  have hk := KeepsTerminals.assocTx hs ht he
  refine ⟨?_, hk.unlinkedAt hu, hs.assocTx ht he⟩
  obtain ⟨j, hj, htj⟩ := terminal_eq_ok.mp ht
  have hhandle : t.handle = j := hs.handle htj
  rcases assocTx_eq_ok he with ⟨rfl, b, hb, -, hp⟩ | ⟨-, s, -, -, -, -, rfl⟩
  · exact ⟨t, ht, ch, b, hb, hp⟩
  · -- the new binding is filed under the channel, at the terminal's own handle
    refine ⟨{ t with tx := t.tx.insert ch ⟨trx, p, n.signals.size, false⟩ }, ?_, ch,
      ⟨trx, p, n.signals.size, false⟩, ?_, rfl⟩
    · refine terminal_eq_ok.mpr ⟨j, hj, ?_⟩
      rw [terminalAt?_modifyTerminal_self (N := { n with signals := n.signals.push s }) rfl
        (hs.terminalAt?_of_terminal ht), if_pos hhandle]
    · rw [get?_insert_eq, if_pos rfl]

/-- Turning on a terminal with a stranded port is refused. -/
theorem StrandedPort.turnOn_refused (h : n.StrandedPort name p) (safe : Bool) :
    (n.turnOn name safe).error.isSome := by
  obtain ⟨t, ht, ch, b, hb, rfl⟩ := h.transmits
  have hport : b.port ∈ t.txPorts t.tx.keys := Terminal.mem_txPorts.mpr ⟨ch, b, hb, rfl⟩
  have hnone : (n.outboundLink t.handle b.port).isNone := by rw [h.unlinked t ht]; rfl
  have hne : t.tx.isEmpty = false :=
    Std.TreeMap.isEmpty_eq_false_iff_exists_mem.mpr ⟨ch, Terminal.mem_tx_of_get? hb⟩
  obtain ⟨q, hq⟩ : ∃ q, (t.txPorts t.tx.keys).find? (fun p => (n.outboundLink t.handle p).isNone) =
      some q := Option.isSome_iff_exists.mp (List.find?_isSome.mpr ⟨b.port, hport, hnone⟩)
  unfold Network.turnOn
  simp only [ht, hne, Bool.false_eq_true, if_false, hq]
  rfl

end Network

/-! ### Replaying a control section -/

open Outcome Network in
/-- Applying a control section that binds a terminal to transmit on a port no link leaves, and
turns the terminal on, fails. The ROADM settings and the bindings before it leave the port
unlinked; the binding itself is accepted and strands the port; the receive bindings and the
terminals turned on before it keep it stranded; and turning the terminal on is refused. -/
theorem Control.apply_refused_of_unlinked_port {c : Control} {m : Network} (hm : m.BindingsSound)
    {b : BindingDesc} (hb : b ∈ c.tx) (hon : b.terminal ∈ c.turnOn)
    (hu : m.UnlinkedAt b.terminal b.port) : (c.apply m).error.isSome := by
  let P₀ : Network → Prop := fun k => k.UnlinkedAt b.terminal b.port ∧ k.BindingsSound
  let P₁ : Network → Prop := fun k => k.StrandedPort b.terminal b.port
  -- a ROADM replaced after a call on its switch table keeps the port unlinked
  have hroadm : ∀ k (x : Roadm), P₀ k → P₀ (k.setNode x.handle (.roadm x)) := fun k x hk =>
    ⟨hk.1.of_back rfl rfl rfl fun ht => ⟨_, terminalAt?_of_setNode_roadm ht, rfl⟩,
      hk.2.of_terminals terminalAt?_of_setNode_roadm rfl⟩
  have hfail : (c.apply m).FailsOr fun _ => False := by
    unfold Control.apply
    dsimp only
    apply FailsOr.andThen (P := P₁)
    · apply FailsOr.andThen (P := P₁)
      · apply FailsOr.andThen (P := P₁)
        · apply FailsOr.andThen (P := P₀)
          · apply FailsOr.andThen (P := P₀)
            · -- switch rules
              refine FailsOr.foldl (.inr ⟨hu, hm⟩) fun k r _ hk => FailsOr.ofStep fun k' he => ?_
              obtain ⟨x, -, he⟩ := Except.bind_eq_ok.mp he
              split at he
              · cases he
                exact hroadm k _ hk
              · cases he
            · -- VOA targets
              refine fun k hk => FailsOr.foldl (.inr hk) fun k v _ hk => FailsOr.ofStep fun k' he => ?_
              obtain ⟨x, -, he⟩ := Except.bind_eq_ok.mp he
              split at he
              · cases he
                exact hroadm k _ hk
              · cases he
          · -- transmit bindings: the one on the port strands it
            refine fun k hk => FailsOr.foldl_of_mem hb (.inr hk)
              (fun k x _ hk => FailsOr.ofStep fun k' he => ?_)
              (fun k hk => FailsOr.ofStep fun k' he => ?_)
              (fun k x _ hk => FailsOr.ofStep fun k' he => ?_) <;>
            obtain ⟨t, ht, he⟩ := Except.bind_eq_ok.mp he <;>
            split at he <;> rename_i hx <;> cases he
            · exact ⟨(KeepsTerminals.assocTx hk.2 ht hx).unlinkedAt hk.1, hk.2.assocTx ht hx⟩
            · exact strandedPort_of_assocTx hk.1 hk.2 ht hx
            · exact hk.of_keeps (.assocTx hk.sound ht hx) (hk.sound.assocTx ht hx)
        · -- receive bindings
          refine fun k hk => FailsOr.foldl (.inr hk) fun k x _ hk => FailsOr.ofStep fun k' he => ?_
          obtain ⟨t, ht, he⟩ := Except.bind_eq_ok.mp he
          split at he
          · rename_i t' hr
            cases he
            have hshape : t'.handle = t.handle ∧ t'.tx = t.tx := by
              rcases Terminal.assocRx_eq_ok hr with rfl | ⟨-, -, rfl⟩ <;> exact ⟨rfl, rfl⟩
            rw [hshape.1]
            exact hk.of_keeps (.setTerminal hk.sound ht hshape.1 hshape.2) (hk.sound.assocRx ht hr)
          · cases he
      · -- the record of the section
        exact fun k hk => .inr hk
    · -- turning terminals on: the others keep the port stranded, this one is refused
      refine fun k hk => FailsOr.foldl_of_mem hon (.inr hk) (fun k x _ hk => ?_) (fun k hk => ?_)
        fun _ _ _ h => h.elim
      · split
        · exact .inl rfl
        · split
          · exact .inl rfl
          · exact .inr (hk.of_keeps (.turnOn k x _) (hk.sound.turnOn x _))
      · split
        · exact .inl rfl
        · split
          · exact .inl rfl
          · rename_i hnone
            have href := hk.turnOn_refused c.safe
            rw [hnone] at href
            cases href
  rcases hfail with h | h
  · exact h
  · exact h.elim

/-! ### Snapshots -/

/-- A fold that never drops `y` from `view` and brings it in at `x` ends with `y`, if it meets
`x`. -/
theorem mem_foldl_of_step {α β γ : Type} {step : β → α → β} (view : β → List γ) {y : γ}
    (hkeep : ∀ acc a, y ∈ view acc → y ∈ view (step acc a)) {x : α}
    (hx : ∀ acc, y ∈ view (step acc x)) {l : List α} (acc : β) (hl : x ∈ l) :
    y ∈ view (l.foldl step acc) := by
  induction l generalizing acc with
  | nil => cases hl
  | cons a l ih =>
    rw [List.foldl_cons]
    rcases List.mem_cons.mp hl with rfl | hl
    · exact List.foldlRecOn (motive := fun acc => y ∈ view acc) l step (hx acc)
        fun acc' h' b _ => hkeep acc' b h'
    · exact ih _ hl

namespace Network

variable {n : Network}

/-- The control section of a snapshot binds again every transmit binding of a terminal, and
turns the terminal on if one of its channels is active. -/
theorem describe_binds {t : Terminal} (ht : Node.terminal t ∈ n.nodes) {ch : Int} {b : TxBinding}
    (hb : t.tx.get? ch = some b) :
    ∃ c, n.describe.control = some c ∧ ⟨t.name, b.transceiver, ch, b.port⟩ ∈ c.tx ∧
      ((∃ ch' b', t.tx.get? ch' = some b' ∧ b'.active = true) → t.name ∈ c.turnOn) := by
  have hnode : Node.terminal t ∈ n.nodes.toList := Array.mem_toList_iff.mpr ht
  unfold Network.describe
  dsimp only
  generalize hF : List.foldl _ _ n.nodes.toList = F
  -- the fold over the nodes only appends, and appends the terminal's bindings at the terminal
  have htx : BindingDesc.mk t.name b.transceiver ch b.port ∈ F.2.2.tx := by
    rw [← hF]
    refine mem_foldl_of_step (fun acc : List TerminalDesc × List RoadmDesc × Control => acc.2.2.tx)
      (fun acc nd h => ?_) (fun acc => ?_) _ hnode
    · cases nd <;> simp [h]
    · have hmem : (ch, b) ∈ t.tx.toList := Std.TreeMap.mem_toList_iff_getElem?_eq_some.mpr hb
      simp only [List.map_map, List.mem_append, List.mem_map]
      exact .inr ⟨(ch, b), hmem, rfl⟩
  have hturn : (∃ ch' b', t.tx.get? ch' = some b' ∧ b'.active = true) → t.name ∈ F.2.2.turnOn := by
    rintro ⟨ch', b', hb', hact⟩
    have hmem : (ch', b') ∈ t.tx.toList := Std.TreeMap.mem_toList_iff_getElem?_eq_some.mpr hb'
    rw [← hF]
    refine mem_foldl_of_step (fun acc : List TerminalDesc × List RoadmDesc × Control => acc.2.2.turnOn)
      (fun acc nd h => ?_) (fun acc => ?_) _ hnode
    · cases nd
      · dsimp only
        split <;> simp [h]
      · exact h
    · have hany : (t.tx.toList.map fun (x : Int × TxBinding) =>
          (BindingDesc.mk t.name x.2.transceiver x.1 x.2.port, x.2.active)).any (·.2) = true :=
        List.any_eq_true.mpr ⟨_, List.mem_map_of_mem hmem, hact⟩
      dsimp only
      rw [if_pos hany]
      exact List.mem_append_right _ (List.mem_singleton_self _)
  refine ⟨F.2.2, ?_, htx, hturn⟩
  have hpos : 0 < F.2.2.tx.length := List.length_pos_of_mem htx
  -- the section is kept because it has a transmit binding
  rw [if_pos (Nat.lt_of_lt_of_le hpos (Nat.le_add_right_of_le (Nat.le_add_left _ _)))]

/-- A snapshot of a terminal with an active channel and a binding on a port that no link leaves
in the rebuilt network cannot be replayed: applying its control section to the network its
description builds fails. -/
theorem snapshot_replay_fails_on_unlinked_port {m : Network} {k : Nat} {t : Terminal} {ch : Int}
    {b : TxBinding} (ht : Node.terminal t ∈ n.nodes) (hb : t.tx.get? ch = some b)
    (hon : ∃ ch' b', t.tx.get? ch' = some b' ∧ b'.active = true)
    (hbuild : n.describe.build k = .ok m) (hu : m.UnlinkedAt t.name b.port) :
    (applyControl n.describe.control m).error.isSome := by
  obtain ⟨c, hc, hbc, hturn⟩ := describe_binds ht hb
  rw [hc]
  exact Control.apply_refused_of_unlinked_port (bindingsSound_of_run (Description.build_run hbuild)) hbc
    (hturn hon) hu

/-- Terminals `t1`, with two transceivers, and `t2`, linked from port 1 of `t1`; channel 1 bound
at `t1` on port 1 and `t1` switched on; then channel 2 bound on port 2, which no link leaves.
The snapshot of the network builds, and replaying its control section on the rebuilt network
fails. -/
theorem snapshot_replay_fails_after_late_binding :
    let n := ((((((empty 0).add (.terminal "t1" [⟨1, "t1-trx1", 0, "QPSK", 0⟩,
        ⟨2, "t1-trx2", 0, "QPSK", 0⟩])).add (.terminal "t2" [⟨1, "t2-trx1", 0, "QPSK", 0⟩])).add
        (.link ⟨"t1-t2", "t1", "t2", 1, 1, "", [], "zirngibl"⟩)).execute (.assocTx "t1" 1 1 1)).net.execute
        (.turnOn "t1" false)).net.execute (.assocTx "t1" 2 2 2) |>.net
    ∃ (m : Network) (t : Terminal) (b : TxBinding), Node.terminal t ∈ n.nodes ∧ t.tx.get? 2 = some b ∧
      (∃ ch' b', t.tx.get? ch' = some b' ∧ b'.active = true) ∧ n.describe.build 0 = .ok m ∧
      m.UnlinkedAt t.name b.port ∧ (applyControl n.describe.control m).error.isSome := by
  intro n
  -- validation sorts the node names, which the kernel does not evaluate: the names are given
  -- once each, so no duplicate is reported
  have hnodup : (namesGiven (n.describe.terminals.map (·.name)) ++
      namesGiven (n.describe.roadms.map (·.name))).Nodup := by decide +kernel
  have hproblems : n.describe.problems = [] := by
    rw [Description.problems, duplicates_eq_nil_of_nodup "node" hnodup]
    decide +kernel
  have hvalid : n.describe.validate = .ok () :=
    Description.validate_eq_ok_iff.mpr hproblems
  have hbuild : n.describe.build 0 = .ok ((n.describe.build 0).toOption.getD (empty 0)) :=
    Except.eq_ok_getD (empty 0) (by rw [Description.build, hvalid]; decide +kernel)
  -- terminal t1 has channel 2 bound on port 2 and channel 1 on, and port 2 of the rebuilt t1
  -- has no link
  have hterm : (n.terminalAt? 0).map (fun t => ((t.tx.get? 2).map (·.port),
      (t.tx.get? 1).map (·.active), t.name)) = some (some 2, some true, "t1") := by decide +kernel
  obtain ⟨t, ht, heq⟩ := Option.map_eq_some_iff.mp hterm
  simp only [Prod.mk.injEq] at heq
  obtain ⟨h2, h1, hname⟩ := heq
  obtain ⟨b, hb, hport⟩ := Option.map_eq_some_iff.mp h2
  obtain ⟨b', hb', hon⟩ := Option.map_eq_some_iff.mp h1
  have hfree : (((n.describe.build 0).toOption.getD (empty 0)).terminal "t1").toOption.map
      (fun t => (((n.describe.build 0).toOption.getD (empty 0)).outboundLink t.handle 2).isNone) =
        some true := by
    rw [Description.build, hvalid]
    decide +kernel
  have hu : ((n.describe.build 0).toOption.getD (empty 0)).UnlinkedAt t.name b.port := by
    intro t' ht'
    rw [hname] at ht'
    rw [ht'] at hfree
    rw [hport]
    simpa [Except.toOption] using hfree
  have hmem : Node.terminal t ∈ n.nodes := Array.mem_of_getElem? (terminalAt?_eq_some.mp ht)
  exact ⟨_, t, b, hmem, hb, ⟨1, b', hb', hon⟩, hbuild, hu,
    snapshot_replay_fails_on_unlinked_port hmem hb ⟨1, b', hb', hon⟩ hbuild hu⟩


end Network

end WdmNet

import WdmNet.Proofs.Network.FailureKinds
import WdmNet.Proofs.Network.Additions
import WdmNet.Proofs.Network.Fresh
import WdmNet.Proofs.Topology.Replay
/-!
A validated description refers only to what it declares.

Validation reads a description as lists of names: the amplifiers, the terminals and the ROADMs
it declares, and the names its ROADMs, links and control section refer to. What it guarantees
is `Description.Resolved`: every name referred to is declared, as an amplifier, as a node, as a
ROADM or as a terminal, as the place requires.

Building adds the amplifiers, then the terminals, the ROADMs and the links, and each addition
keeps every name and node that was there (`Network.Grows`); so when a ROADM or a link is
added, every amplifier and node it names is already there, and the additions fail only by
their own checks (`Kind.additionChecks`), never for a missing node or amplifier. A network a
description builds has every declared ROADM under its name as a ROADM and every declared
terminal as a terminal. Applying a control section keeps the frame of the network (its nodes
as their additions built them, and its name tables), so the ROADMs and terminals the section
names are found at each step, and it fails only by the checks of its steps
(`Kind.controlChecks`), never for a missing node.

Main statement: `validated_description_resolves`.
-/

namespace WdmNet

/-! ### What validation guarantees -/

/-- Every name a description refers to is declared in it: the amplifiers of the ROADMs' ports
and of the links, the two ends of each link, and the ROADMs and terminals that the control
section names. -/
structure Description.Resolved (d : Description) : Prop where
  ports : ∀ r ∈ d.roadms, ∀ p ∈ r.config.preamps ++ r.config.boosts,
    p.2 ∈ d.amplifiers.map (·.name)
  ends : ∀ l ∈ d.links, l.src ∈ d.terminals.map (·.name) ++ d.roadms.map (·.name) ∧
    l.dst ∈ d.terminals.map (·.name) ++ d.roadms.map (·.name)
  boost : ∀ l ∈ d.links, l.boost.isEmpty = false → l.boost ∈ d.amplifiers.map (·.name)
  spans : ∀ l ∈ d.links, ∀ s ∈ l.spans.getD [], s.amplifier.isEmpty = false →
    s.amplifier ∈ d.amplifiers.map (·.name)
  rules : ∀ c ∈ d.control, ∀ r ∈ c.switchRules, r.roadm ∈ d.roadms.map (·.name)
  voa : ∀ c ∈ d.control, ∀ v ∈ c.voa, v.roadm ∈ d.roadms.map (·.name)
  bindings : ∀ c ∈ d.control, ∀ b ∈ c.tx ++ c.rx, b.terminal ∈ d.terminals.map (·.name)
  turnOn : ∀ c ∈ d.control, ∀ x ∈ c.turnOn, x ∈ d.terminals.map (·.name)

section Checks

variable {α β : Type}

theorem mem_of_contains_namesGiven {names : List String} {x : String}
    (h : (namesGiven names).contains x = true) : x ∈ names :=
  List.mem_of_mem_filter (List.contains_iff_mem.mp h)

theorem flatMap_zipIdx_eq_nil {l : List α} {f : α × Nat → List β} (h : l.zipIdx.flatMap f = [])
    {x : α} (hx : x ∈ l) : ∃ i, f (x, i) = [] := by
  obtain ⟨i, hi⟩ := List.mem_iff_getElem?.mp hx
  exact ⟨i, List.flatMap_eq_nil_iff.mp h _ (List.mk_mem_zipIdx_iff_getElem?.mpr hi)⟩

theorem of_ite_none {c : Prop} [Decidable c] {a : α} (h : (if c then none else some a) = none) :
    c := by
  by_contra hc
  rw [if_neg hc] at h
  cases h

theorem not_of_ite_some {c : Prop} [Decidable c] {a : α} (h : (if c then some a else none) = none) :
    ¬c := by
  intro hc
  rw [if_pos hc] at h
  cases h

end Checks

/-- A ROADM that validation passes names declared amplifiers on its ports. -/
theorem RoadmDesc.amps_of_problems {amps : List String} {r : RoadmDesc} {i : Nat}
    (h : r.problems amps i = []) : ∀ p ∈ r.config.preamps ++ r.config.boosts, amps.contains p.2 := by
  unfold RoadmDesc.problems at h
  split at h
  · cases h
  · obtain ⟨hpre, hboo⟩ := List.append_eq_nil_iff.mp h
    intro p hp
    obtain ⟨port, name⟩ := p
    rcases List.mem_append.mp hp with hp | hp
    · exact of_ite_none (List.filterMap_eq_nil_iff.mp hpre _ hp)
    · exact of_ite_none (List.filterMap_eq_nil_iff.mp hboo _ hp)

/-- A link that validation passes joins declared nodes and names declared amplifiers. -/
theorem LinkDesc.refs_of_problems {nodes amps : List String} {l : LinkDesc} {i : Nat}
    (h : l.problems nodes amps i = []) :
    (nodes.contains l.src && nodes.contains l.dst) = true ∧
      (l.boost.isEmpty = false → amps.contains l.boost) ∧
      ∀ s ∈ l.spans.getD [], s.amplifier.isEmpty = false → amps.contains s.amplifier := by
  unfold LinkDesc.problems at h
  obtain ⟨⟨hends, hboost⟩, hspans⟩ := List.append_eq_nil_iff.mp h |>.imp_left List.append_eq_nil_iff.mp
  refine ⟨?_, fun hb => ?_, fun s hs hb => ?_⟩
  · by_contra hc
    rw [if_neg hc] at hends
    cases hends
  · have hc : ¬(!l.boost.isEmpty && !amps.contains l.boost) = true := by
      intro hc
      rw [if_pos hc] at hboost
      cases hboost
    simpa [hb] using hc
  · obtain ⟨j, hj⟩ := List.mem_iff_getElem?.mp hs
    have hc := not_of_ite_some
      (List.filterMap_eq_nil_iff.mp hspans _ (List.mk_mem_zipIdx_iff_getElem?.mpr hj))
    simpa [hb] using hc

/-- A control section that validation passes names declared ROADMs and terminals. -/
theorem Control.refs_of_problems {roadms terminals : List String} {c : Control}
    (h : c.problems roadms terminals = []) :
    (∀ r ∈ c.switchRules, roadms.contains r.roadm) ∧ (∀ v ∈ c.voa, roadms.contains v.roadm) ∧
      (∀ b ∈ c.tx ++ c.rx, terminals.contains b.terminal) ∧
      ∀ x ∈ c.turnOn, terminals.contains x := by
  unfold Control.problems at h
  simp only [List.append_eq_nil_iff] at h
  obtain ⟨⟨⟨hr, hv⟩, hb⟩, ht⟩ := h
  exact ⟨fun r hr' => of_ite_none (List.filterMap_eq_nil_iff.mp hr r hr'),
    fun v hv' => of_ite_none (List.filterMap_eq_nil_iff.mp hv v hv'),
    fun b hb' => of_ite_none (List.filterMap_eq_nil_iff.mp hb b hb'),
    fun x hx => of_ite_none (List.filterMap_eq_nil_iff.mp ht x hx)⟩

/-- Validation accepts a description only when every name it refers to is declared. -/
theorem Description.resolved_of_validate {d : Description} (hv : d.validate = .ok ()) :
    d.Resolved := by
  have hp := Description.validate_eq_ok_iff.mp hv
  simp only [Description.problems, List.append_eq_nil_iff] at hp
  obtain ⟨⟨⟨⟨⟨-, -⟩, hroadms⟩, -⟩, hlinks⟩, hcontrol⟩ := hp
  -- a node name given for a link is a terminal's or a ROADM's
  have hnode : ∀ {x : String}, (namesGiven (d.terminals.map (·.name)) ++
      namesGiven (d.roadms.map (·.name))).contains x = true →
      x ∈ d.terminals.map (·.name) ++ d.roadms.map (·.name) := by
    intro x hx
    rcases List.mem_append.mp (List.contains_iff_mem.mp hx) with hx | hx
    · exact List.mem_append_left _ (List.mem_of_mem_filter hx)
    · exact List.mem_append_right _ (List.mem_of_mem_filter hx)
  have hlink : ∀ l ∈ d.links, _ := fun l hl =>
    (flatMap_zipIdx_eq_nil hlinks hl).elim fun _ h => LinkDesc.refs_of_problems h
  have hctl : ∀ c ∈ d.control, _ := fun c hc => by
    rw [Option.mem_def.mp hc] at hcontrol
    exact Control.refs_of_problems hcontrol
  refine ⟨fun r hr p hp => ?_, fun l hl => ?_, fun l hl hb => ?_, fun l hl s hs hb => ?_,
    fun c hc r hr => ?_, fun c hc v hv => ?_, fun c hc b hb => ?_, fun c hc x hx => ?_⟩
  · obtain ⟨i, hi⟩ := flatMap_zipIdx_eq_nil hroadms hr
    exact mem_of_contains_namesGiven (RoadmDesc.amps_of_problems hi p hp)
  · obtain ⟨hs, hd⟩ := Bool.and_eq_true_iff.mp (hlink l hl).1
    exact ⟨hnode hs, hnode hd⟩
  · exact mem_of_contains_namesGiven ((hlink l hl).2.1 hb)
  · exact mem_of_contains_namesGiven ((hlink l hl).2.2 s hs hb)
  · exact mem_of_contains_namesGiven ((hctl c hc).1 r hr)
  · exact mem_of_contains_namesGiven ((hctl c hc).2.1 v hv)
  · exact mem_of_contains_namesGiven ((hctl c hc).2.2.1 b hb)
  · exact mem_of_contains_namesGiven ((hctl c hc).2.2.2 x hx)

/-! ### Building keeps what it has added -/

namespace Network

variable {n m k : Network}

/-- `m` keeps every node of `n` at its place and under its name, and every amplifier name. -/
structure Grows (n m : Network) : Prop where
  names : ∀ {x : String} {h : Nat}, n.nodeByName.get? x = some h → m.nodeByName.get? x = some h
  nodes : ∀ {h : Nat} {nd : Node}, n.nodes[h]? = some nd → m.nodes[h]? = some nd
  amps : ∀ {x : String}, n.ampByName.contains x → m.ampByName.contains x

/-- A node is found by name when the name table gives its place. -/
theorem node_eq_ok {x : String} {nd : Node} :
    n.node x = .ok nd ↔ ∃ h, n.nodeByName.get? x = some h ∧ n.nodes[h]? = some nd := by
  unfold Network.node
  rw [← Option.bind_eq_some_iff]
  constructor
  · intro he
    split at he
    · rename_i hnd
      cases he
      exact hnd
    · cases he
  · intro hnd
    rw [Option.bind_eq_bind, hnd]

theorem node_of_get? {x : String} {h : Nat} {nd : Node} (hx : n.nodeByName.get? x = some h)
    (hnd : n.nodes[h]? = some nd) : n.node x = .ok nd :=
  node_eq_ok.mpr ⟨h, hx, hnd⟩

theorem contains_of_node {x : String} {nd : Node} (he : n.node x = .ok nd) :
    n.nodeByName.contains x := by
  obtain ⟨h, hh, -⟩ := node_eq_ok.mp he
  rw [Std.TreeMap.contains_eq_isSome_getElem?, ← Std.TreeMap.get?_eq_getElem?, hh]
  rfl

theorem contains_of_roadm {x : String} {r : Roadm} (he : n.roadm x = .ok r) :
    n.nodeByName.contains x :=
  contains_of_node (Except.bind_eq_ok.mp he).choose_spec.1

theorem contains_of_terminal {x : String} {t : Terminal} (he : n.terminal x = .ok t) :
    n.nodeByName.contains x :=
  contains_of_node (Except.bind_eq_ok.mp he).choose_spec.1

theorem terminal_of_node {x : String} {t : Terminal} (he : n.node x = .ok (.terminal t)) :
    n.terminal x = .ok t := by
  unfold Network.terminal
  rw [he]
  rfl

theorem node_push {name : String} {nd : Node} (hnodes : m.nodes = n.nodes.push nd)
    (hnames : m.nodeByName = n.nodeByName.insert name n.nodes.size) : m.node name = .ok nd :=
  node_of_get? (by rw [hnames, get?_insert_eq, if_pos rfl]) (by rw [hnodes, Array.getElem?_push_size])

theorem roadm_of_node {x : String} {r : Roadm} (he : n.node x = .ok (.roadm r)) :
    n.roadm x = .ok r := by
  unfold Network.roadm
  rw [he]
  rfl

namespace Grows

theorem refl (n : Network) : n.Grows n := ⟨id, id, id⟩

theorem trans (h₁ : n.Grows m) (h₂ : m.Grows k) : n.Grows k :=
  ⟨h₂.names ∘ h₁.names, h₂.nodes ∘ h₁.nodes, h₂.amps ∘ h₁.amps⟩

theorem node (hg : n.Grows m) {x : String} {nd : Node} (he : n.node x = .ok nd) :
    m.node x = .ok nd := by
  obtain ⟨h, hh, hnode⟩ := node_eq_ok.mp he
  exact node_of_get? (hg.names hh) (hg.nodes hnode)

theorem roadm (hg : n.Grows m) {x : String} {r : Roadm} (he : n.roadm x = .ok r) :
    m.roadm x = .ok r := by
  unfold Network.roadm at he ⊢
  obtain ⟨nd, hnd, he⟩ := Except.bind_eq_ok.mp he
  rw [hg.node hnd]
  exact he

theorem terminal (hg : n.Grows m) {x : String} {t : Terminal} (he : n.terminal x = .ok t) :
    m.terminal x = .ok t := by
  unfold Network.terminal at he ⊢
  obtain ⟨nd, hnd, he⟩ := Except.bind_eq_ok.mp he
  rw [hg.node hnd]
  exact he

theorem of_eq (hnodes : m.nodes = n.nodes) (hnames : m.nodeByName = n.nodeByName)
    (hamps : m.ampByName = n.ampByName) : n.Grows m :=
  ⟨fun hx => hnames ▸ hx, fun hnd => hnodes ▸ hnd, fun hx => hamps ▸ hx⟩

/-- A node pushed under a name that was not there keeps the rest. -/
theorem push {name : String} {nd : Node} (hnew : n.nodeByName.get? name = none)
    (hnodes : m.nodes = n.nodes.push nd)
    (hnames : m.nodeByName = n.nodeByName.insert name n.nodes.size)
    (hamps : m.ampByName = n.ampByName) : n.Grows m := by
  refine ⟨fun {x h} hx => ?_, fun {h nd'} hnd => ?_, fun hx => hamps ▸ hx⟩
  · -- the new name is not one the table had
    have hne : name ≠ x := by
      rintro rfl
      rw [hnew] at hx
      cases hx
    rw [hnames, get?_insert_eq, if_neg hne]
    exact hx
  · rw [hnodes, Array.getElem?_push, if_neg (Nat.ne_of_lt (Array.getElem?_eq_some_iff.mp hnd).1)]
    exact hnd

end Grows

theorem grows_addAmplifier {name : String} {cfg : AmplifierConfig} {n' : Network} {h : Nat}
    (he : n.addAmplifier name cfg = .ok (n', h)) : n.Grows n' ∧ n'.ampByName.contains name := by
  obtain ⟨-, a, -, rfl, -⟩ := addAmplifier_eq_ok he
  exact ⟨⟨id, id, fun hx => by simp [hx]⟩, by simp⟩

theorem grows_addTerminal {name : String} {trxs : List Transceiver} {n' : Network} {h : Nat}
    (he : n.addTerminal name trxs = .ok (n', h)) : n.Grows n' ∧ ∃ t, n'.terminal name = .ok t := by
  obtain ⟨hnew, t, ht, rfl, -⟩ := addTerminal_eq_ok he
  rw [(Terminal.create_eq_ok ht).1]
  exact ⟨.push hnew rfl rfl rfl, t, terminal_of_node (node_push rfl rfl)⟩

theorem grows_addRoadm {name : String} {cfg : RoadmConfig} {n' : Network} {h : Nat}
    (he : n.addRoadm name cfg = .ok (n', h)) : n.Grows n' ∧ ∃ r, n'.roadm name = .ok r := by
  obtain ⟨hnew, -, -, -, -, -, -, rfl, -⟩ := addRoadm_eq_ok he
  exact ⟨.push hnew rfl rfl rfl, _, roadm_of_node (node_push rfl rfl)⟩

theorem grows_addLink {cfg : LinkConfig} {n' : Network} {h : Nat}
    (he : n.addLink cfg = .ok (n', h)) : n.Grows n' := by
  obtain ⟨-, -, -, -, -, -, -, -, -, -, -, -, -, -, -, -, -, -, rfl, -⟩ := addLink_eq_ok he
  exact .of_eq rfl rfl rfl

end Network

section AddAll

variable {α : Type} {label : α → String} {add : Network → α → Except Failure (Network × Nat)}
  {items : List α} {n m : Network}

/-- Adding the items of a list by an addition that grows the network and gives its item `Q`
grows the network and gives every item `Q`, as long as growing keeps `Q`. -/
theorem addAll_grows {Q : α → Network → Prop}
    (hadd : ∀ n x n' h, add n x = .ok (n', h) → n.Grows n' ∧ Q x n')
    (hQ : ∀ x n n', Q x n → n.Grows n' → Q x n') (he : addAll n items label add = .ok m) :
    n.Grows m ∧ ∀ x ∈ items, Q x m := by
  unfold addAll at he
  induction items generalizing n with
  | nil =>
    rw [List.foldlM_nil] at he
    cases he
    exact ⟨.refl _, fun _ h => nomatch h⟩
  | cons x items ih =>
    rw [List.foldlM_cons] at he
    obtain ⟨k, hk, he⟩ := Except.bind_eq_ok.mp he
    split at hk
    · rename_i _ _ hx
      cases hk
      obtain ⟨hg, hq⟩ := hadd _ _ _ _ hx
      obtain ⟨hg', hall⟩ := ih he
      refine ⟨hg.trans hg', fun y hy => ?_⟩
      rcases List.mem_cons.mp hy with rfl | hy
      · exact hQ _ _ _ hq hg'
      · exact hall y hy
    · cases hk

/-- Adding the items of a list by an addition that grows the network fails with the kinds that
the addition fails with on any network grown from the first. -/
theorem addAll_failsWithin {ok : Kind → Prop} (hgrow : ∀ n x n' h, add n x = .ok (n', h) → n.Grows n')
    (hadd : ∀ m x, x ∈ items → n.Grows m → FailsWithin ok (add m x)) :
    FailsWithin ok (addAll n items label add) := by
  unfold addAll
  induction items generalizing n with
  | nil => exact .pure n
  | cons x items ih =>
    rw [List.foldlM_cons]
    refine .bind ?_ fun k hk => ?_
    · split
      · exact .of_ok _
      · rename_i e he
        exact .error_wrap (hadd n x List.mem_cons_self (.refl n) e he) _
    · split at hk
      · rename_i _ _ hx
        cases hk
        have hg := hgrow _ _ _ _ hx
        exact ih fun m y hy hm => hadd m y (List.mem_cons_of_mem _ hy) (hg.trans hm)
      · cases hk

end AddAll

/-! ### Building a validated description -/

section Build

variable {n m : Network}

theorem addAll_amplifiers {l : List AmplifierDesc} {label : AmplifierDesc → String}
    (he : addAll n l label (fun n a => n.addAmplifier a.name a.config) = .ok m) :
    n.Grows m ∧ ∀ a ∈ l, m.ampByName.contains a.name := by
  -- the addition stated applied, so that matching it against the list's addition does not
  -- unfold `addAmplifier`
  have hadd : ∀ (n : Network) (a : AmplifierDesc) n' h, n.addAmplifier a.name a.config = .ok (n', h) →
      n.Grows n' ∧ n'.ampByName.contains a.name :=
    fun _ _ _ _ hx => Network.grows_addAmplifier hx
  exact addAll_grows hadd (fun _ _ _ hq hg => hg.amps hq) he

theorem addAll_terminals {l : List TerminalDesc} {label : TerminalDesc → String}
    (he : addAll n l label (fun n t => n.addTerminal t.name t.transceivers) = .ok m) :
    n.Grows m ∧ ∀ t ∈ l, ∃ x, m.terminal t.name = .ok x :=
  addAll_grows (Q := fun t m => ∃ x, m.terminal t.name = .ok x)
    (fun _ _ _ _ hx => Network.grows_addTerminal hx)
    (fun _ _ _ hq hg => by exact hq.imp fun _ hx => hg.terminal hx) he

theorem addAll_roadms {l : List RoadmDesc} {label : RoadmDesc → String}
    (he : addAll n l label (fun n r => n.addRoadm r.name r.config) = .ok m) :
    n.Grows m ∧ ∀ r ∈ l, ∃ x, m.roadm r.name = .ok x :=
  addAll_grows (Q := fun r m => ∃ x, m.roadm r.name = .ok x)
    (fun _ _ _ _ hx => Network.grows_addRoadm hx)
    (fun _ _ _ hq hg => by exact hq.imp fun _ hx => hg.roadm hx) he

theorem addAll_links {l : List LinkDesc} {label : LinkDesc → String}
    (he : addAll n l label (fun n l => n.addLink l.toConfig) = .ok m) : n.Grows m :=
  (addAll_grows (Q := fun _ _ => True) (fun _ _ _ _ hx => ⟨Network.grows_addLink hx, trivial⟩)
    (fun _ _ _ _ _ => trivial) he).1

end Build

namespace Description

variable {d : Description}

/-- Building a validated description fails only by a check of one of its additions: each ROADM
and each link is added after the amplifiers and nodes it names. -/
theorem build_failsWithin (hv : d.validate = .ok ()) (k : Nat) :
    FailsWithin (· ∈ Kind.additionChecks) (d.build k) := by
  have hres := resolved_of_validate hv
  unfold Description.build
  rw [hv]
  refine .bind (.of_ok ()) fun _ _ => ?_
  refine .bind (addAll_failsWithin (fun _ _ _ _ hx => (Network.grows_addAmplifier hx).1)
    fun m a _ _ => Network.addAmplifier_failsWithin m a.name a.config) fun n₁ h₁ => ?_
  refine .bind (addAll_failsWithin (fun _ _ _ _ hx => (Network.grows_addTerminal hx).1)
    fun m t _ _ => Network.addTerminal_failsWithin m t.name t.transceivers) fun n₂ h₂ => ?_
  obtain ⟨-, hamps⟩ := addAll_amplifiers h₁
  obtain ⟨hg₂, hterms⟩ := addAll_terminals h₂
  -- every declared amplifier is there from the amplifiers on
  have hamp : ∀ m, n₂.Grows m → ∀ x ∈ d.amplifiers.map (·.name), m.ampByName.contains x := by
    intro m hm x hx
    obtain ⟨a, ha, rfl⟩ := List.mem_map.mp hx
    exact (hg₂.trans hm).amps (hamps a ha)
  refine .bind (addAll_failsWithin (fun _ _ _ _ hx => (Network.grows_addRoadm hx).1)
    fun m r hr hm => Network.addRoadm_failsWithin fun p hp => hamp m hm _ (hres.ports r hr p hp))
    fun n₃ h₃ => ?_
  obtain ⟨hg₃, hroadms⟩ := addAll_roadms h₃
  -- every declared node is there from the ROADMs on
  have hnode : ∀ m, n₃.Grows m →
      ∀ x ∈ d.terminals.map (·.name) ++ d.roadms.map (·.name), m.nodeByName.contains x := by
    intro m hm x hx
    rcases List.mem_append.mp hx with hx | hx
    · obtain ⟨t, ht, rfl⟩ := List.mem_map.mp hx
      obtain ⟨_, hfound⟩ := hterms t ht
      exact Network.contains_of_terminal ((hg₃.trans hm).terminal hfound)
    · obtain ⟨r, hr, rfl⟩ := List.mem_map.mp hx
      obtain ⟨_, hfound⟩ := hroadms r hr
      exact Network.contains_of_roadm (hm.roadm hfound)
  refine addAll_failsWithin (fun _ _ _ _ hx => Network.grows_addLink hx) fun m l hl hm => ?_
  refine Network.addLink_failsWithin (hnode m hm _ (hres.ends l hl).1) (hnode m hm _ (hres.ends l hl).2)
    (fun hb => hamp m (hg₃.trans hm) _ (hres.boost l hl hb)) fun s hs hb => ?_
  obtain ⟨s', hs', rfl⟩ := List.mem_map.mp hs
  exact hamp m (hg₃.trans hm) _ (hres.spans l hl s' hs' hb)

/-- A network a description builds finds every declared ROADM by its name as a ROADM and every
declared terminal as a terminal. -/
theorem build_finds {k : Nat} {m : Network} (he : d.build k = .ok m) :
    (∀ r ∈ d.roadms, ∃ x, m.roadm r.name = .ok x) ∧ (∀ t ∈ d.terminals, ∃ x, m.terminal t.name = .ok x) := by
  have hbuild := he
  unfold Description.build at hbuild
  obtain ⟨-, -, hbuild⟩ := Except.bind_eq_ok.mp hbuild
  obtain ⟨n₁, -, hbuild⟩ := Except.bind_eq_ok.mp hbuild
  obtain ⟨n₂, h₂, hbuild⟩ := Except.bind_eq_ok.mp hbuild
  obtain ⟨n₃, h₃, h₄⟩ := Except.bind_eq_ok.mp hbuild
  obtain ⟨-, hterms⟩ := addAll_terminals h₂
  obtain ⟨hg₃, hroadms⟩ := addAll_roadms h₃
  have hg₄ := addAll_links h₄
  exact ⟨fun r hr => (hroadms r hr).imp fun _ hx => hg₄.roadm hx,
    fun t ht => (hterms t ht).imp fun _ hx => (hg₃.trans hg₄).terminal hx⟩

end Description

/-! ### Applying a control section -/

namespace Outcome

/-- The outcome fails only by kinds that `ok` allows, and when it succeeds its network has
`P`. -/
def Within (ok : Kind → Prop) (P : Network → Prop) (o : Outcome) : Prop :=
  (∀ e, o.error = some e → ∀ k ∈ e.kinds, ok k) ∧ (o.error = none → P o.net)

variable {ok : Kind → Prop} {P Q : Network → Prop}

/-- A failure is kept; a success hands its network on. -/
theorem Within.andThen {o : Outcome} {next : Network → Outcome} (h : o.Within ok P)
    (hnext : ∀ n, P n → (next n).Within ok Q) : (o.andThen next).Within ok Q := by
  unfold Outcome.andThen
  split
  · rename_i e he
    exact ⟨h.1, fun hn => by rw [he] at hn; cases hn⟩
  · rename_i he
    exact hnext _ (h.2 he)

theorem Within.ofStep {n : Network} {x : Except Failure Network} (hx : FailsWithin ok x)
    (hP : ∀ n', x = .ok n' → P n') : (Outcome.ofStep n x).Within ok P := by
  cases x with
  | error e => exact ⟨fun e' he' => hx e' (by cases he'; rfl), fun hn => nomatch hn⟩
  | ok n' => exact ⟨(fun _ he' => nomatch he'), fun _ => hP n' rfl⟩

theorem Within.foldl {α : Type} {step : Network → α → Outcome} {l : List α} {o : Outcome}
    (h : o.Within ok P) (hstep : ∀ n x, x ∈ l → P n → (step n x).Within ok P) :
    (l.foldl (fun o x => o.andThen (step · x)) o).Within ok P :=
  List.foldlRecOn (motive := Within ok P) l _ h fun _ ho x hx =>
    ho.andThen fun n hn => hstep n x hx hn

end Outcome

namespace Network

variable {n m : Network}

/-- The nodes and amplifiers of the frame sit where those of the network do. -/
theorem InPlace.frame (h : n.InPlace) : n.frame.InPlace where
  node i nd hnd := by
    rw [frame_nodes, Array.getElem?_map] at hnd
    obtain ⟨nd₀, h₀, rfl⟩ := Option.map_eq_some_iff.mp hnd
    rw [Node.handle_fresh]
    exact h.node i nd₀ h₀
  amp i a ha := by
    rw [frame_amps, Array.getElem?_map] at ha
    obtain ⟨a₀, h₀, rfl⟩ := Option.map_eq_some_iff.mp ha
    exact h.amp i a₀ h₀

/-- A network with the frame of another finds a node under each name the other does, one of the
same kind. -/
theorem node_of_frame_eq (hf : n.frame = m.frame) {x : String} {nd : Node} (he : m.node x = .ok nd) :
    ∃ nd', n.node x = .ok nd' ∧ nd'.fresh = nd.fresh := by
  obtain ⟨h, hh, hnd⟩ := node_eq_ok.mp he
  have hnames : n.nodeByName = m.nodeByName := by
    simpa only [frame_nodeByName] using congrArg Network.nodeByName hf
  have hnodes : n.nodes.map Node.fresh = m.nodes.map Node.fresh := by
    simpa only [frame_nodes] using congrArg Network.nodes hf
  have hget : (n.nodes[h]?).map Node.fresh = some nd.fresh := by
    rw [← Array.getElem?_map, hnodes, Array.getElem?_map, hnd, Option.map_some]
  obtain ⟨nd', hnd', hfresh⟩ := Option.map_eq_some_iff.mp hget
  exact ⟨nd', node_eq_ok.mpr ⟨h, hnames ▸ hh, hnd'⟩, hfresh⟩

theorem roadm_of_frame_eq (hf : n.frame = m.frame) {x : String} {r : Roadm}
    (he : m.roadm x = .ok r) : ∃ r', n.roadm x = .ok r' := by
  unfold Network.roadm at he
  obtain ⟨nd, hnd, he⟩ := Except.bind_eq_ok.mp he
  obtain ⟨nd', hnd', hfresh⟩ := node_of_frame_eq hf hnd
  cases nd with
  | terminal => cases he
  | roadm =>
    cases nd' with
    | terminal => cases hfresh
    | roadm r' => exact ⟨r', roadm_of_node hnd'⟩

theorem terminal_of_frame_eq (hf : n.frame = m.frame) {x : String} {t : Terminal}
    (he : m.terminal x = .ok t) : ∃ t', n.terminal x = .ok t' := by
  unfold Network.terminal at he
  obtain ⟨nd, hnd, he⟩ := Except.bind_eq_ok.mp he
  obtain ⟨nd', hnd', hfresh⟩ := node_of_frame_eq hf hnd
  cases nd with
  | roadm => cases he
  | terminal =>
    cases nd' with
    | roadm => cases hfresh
    | terminal t' => exact ⟨t', terminal_of_node hnd'⟩

theorem withRoadm_eq_ok {name : String} {f : Roadm → Except Failure Roadm} {r r' : Roadm}
    (hr : n.roadm name = .ok r) (hf : f r = .ok r') :
    n.withRoadm name f = .ok (n.setNode r'.handle (.roadm r')) :=
  Except.bind_eq_ok.mpr ⟨r, hr, Except.bind_eq_ok.mpr ⟨r', hf, rfl⟩⟩

theorem frame_of_execute (hin : n.InPlace) {c : Command} {n' : Network}
    (h : (n.execute c).net = n') : n'.frame = n.frame :=
  h ▸ frame_execute hin c

end Network

open Network Outcome in
/-- Applying a control section on a network with its nodes in place, where every ROADM and
terminal the section names is found, fails only by the checks of its steps. Every step keeps
the frame of the network, so the names stay found from step to step. -/
theorem Control.apply_within {c : Control} {n : Network} (hin : n.InPlace)
    (hrules : ∀ r ∈ c.switchRules, ∃ x, n.roadm r.roadm = .ok x)
    (hvoa : ∀ v ∈ c.voa, ∃ x, n.roadm v.roadm = .ok x)
    (hbind : ∀ b ∈ c.tx ++ c.rx, ∃ t, n.terminal b.terminal = .ok t)
    (hon : ∀ x ∈ c.turnOn, ∃ t, n.terminal x = .ok t) :
    (c.apply n).Within (· ∈ Kind.controlChecks) fun m => m.frame = n.frame := by
  have hinP : ∀ k : Network, k.frame = n.frame → k.InPlace := fun k hk =>
    InPlace.of_frame (hk ▸ hin.frame)
  unfold Control.apply
  dsimp only
  apply Within.andThen (P := fun m => m.frame = n.frame)
  · apply Within.andThen (P := fun m => m.frame = n.frame)
    · apply Within.andThen (P := fun m => m.frame = n.frame)
      · apply Within.andThen (P := fun m => m.frame = n.frame)
        · apply Within.andThen (P := fun m => m.frame = n.frame)
          · -- switch rules
            refine Within.foldl ⟨(fun _ h => nomatch h), fun _ => rfl⟩ fun k r hr hk => .ofStep ?_ ?_
            · obtain ⟨x, hx⟩ := roadm_of_frame_eq hk (hrules r hr).choose_spec
              refine .bind (by rw [hx]; exact .of_ok x) fun roadm _ => ?_
              split
              · exact .pure _
              · rename_i e he
                exact .error_wrap (Roadm.installRule_failsWithin _ _ _ _ _ e he) _
            · intro k' he
              obtain ⟨roadm, hroadm, he⟩ := Except.bind_eq_ok.mp he
              split at he
              · rename_i x hx
                cases he
                exact (frame_of_execute (hinP k hk)
                  (c := .installRule r.roadm r.id r.inPort r.outPort (r.channels.getD []))
                  (congrArg (fun y => (Outcome.ofExcept k y).net) (withRoadm_eq_ok hroadm hx))).trans hk
              · cases he
          · -- VOA targets
            refine fun k hk => Within.foldl ⟨(fun _ h => nomatch h), fun _ => hk⟩ fun k v hv hk => .ofStep ?_ ?_
            · obtain ⟨x, hx⟩ := roadm_of_frame_eq hk (hvoa v hv).choose_spec
              refine .bind (by rw [hx]; exact .of_ok x) fun roadm _ => ?_
              split
              · exact .pure _
              · rename_i e he
                exact .error_wrap (Roadm.configureVoa_failsWithin _ _ _ _ e he) _
            · intro k' he
              obtain ⟨roadm, hroadm, he⟩ := Except.bind_eq_ok.mp he
              split at he
              · rename_i x hx
                cases he
                exact (frame_of_execute (hinP k hk)
                  (c := .configureVoa v.roadm v.channel v.outPort v.powerDbm)
                  (congrArg (fun y => (Outcome.ofExcept k y).net) (withRoadm_eq_ok hroadm hx))).trans hk
              · cases he
        · -- transmit bindings
          refine fun k hk => Within.foldl ⟨(fun _ h => nomatch h), fun _ => hk⟩ fun k b hb hk => .ofStep ?_ ?_
          · obtain ⟨t, ht⟩ := terminal_of_frame_eq hk (hbind b (List.mem_append_left _ hb)).choose_spec
            refine .bind (by rw [ht]; exact .of_ok t) fun t _ => ?_
            split
            · exact .pure _
            · rename_i e he
              exact .error_wrap (Network.assocTx_failsWithin _ _ _ _ _ e he) _
          · intro k' he
            obtain ⟨t, -, he⟩ := Except.bind_eq_ok.mp he
            split at he
            · rename_i x hx
              cases he
              exact (frame_assocTx hx).trans hk
            · cases he
      · -- receive bindings
        refine fun k hk => Within.foldl ⟨(fun _ h => nomatch h), fun _ => hk⟩ fun k b hb hk => .ofStep ?_ ?_
        · obtain ⟨t, ht⟩ := terminal_of_frame_eq hk (hbind b (List.mem_append_right _ hb)).choose_spec
          refine .bind (by rw [ht]; exact .of_ok t) fun t _ => ?_
          split
          · exact .pure _
          · rename_i e he
            exact .error_wrap (Terminal.assocRx_failsWithin _ _ _ _ e he) _
        · intro k' he
          obtain ⟨t, ht, he⟩ := Except.bind_eq_ok.mp he
          split at he
          · rename_i x hx
            cases he
            exact (frame_of_execute (hinP k hk)
              (c := .assocRx b.terminal b.transceiver b.channel b.port)
              (congrArg (fun y => (Outcome.ofExcept k y).net)
                (Except.bind_eq_ok.mpr ⟨t, ht, Except.bind_eq_ok.mpr ⟨x, hx, rfl⟩⟩))).trans hk
          · cases he
    · -- the record of the section
      exact fun k hk => ⟨(fun _ h => nomatch h), fun _ => hk⟩
  · -- turning terminals on: each is found, and its pass keeps the frame
    refine fun k hk => Within.foldl ⟨(fun _ h => nomatch h), fun _ => hk⟩ fun k x hx hk => ?_
    obtain ⟨t, ht⟩ := terminal_of_frame_eq hk (hon x hx).choose_spec
    rw [ht]
    dsimp only
    split
    · rename_i e he
      exact ⟨fun e' he' => by cases he'; exact Network.turnOn_failsWithin ht c.safe e he,
        fun hn => nomatch hn⟩
    · rename_i hnone
      exact ⟨fun e' he' => absurd (he'.symm.trans hnone) (Option.some_ne_none e'),
        fun _ => (frame_turnOn x c.safe).trans hk⟩

/-! ### No dangling reference -/

/-- A description that validation passes refers only to what it declares. Building it fails
only by a check that an addition makes on its own component (its physical parameters and
channels, its name, its ports, the amplifiers it claims), never for a missing node or
amplifier; and applying its control section to the network it builds fails only by a check of
a step on a node it has found, never for a missing node. -/
theorem validated_description_resolves {d : Description} (hv : d.validate = .ok ()) (k : Nat) :
    (∀ e, d.build k = .error e → Kind.nodeNotFound ∉ e.kinds ∧
      Kind.amplifierNotFound ∉ e.kinds ∧ ∀ x ∈ e.kinds, x ∈ Kind.additionChecks) ∧
    ∀ m, d.build k = .ok m → ∀ e, (applyControl d.control m).error = some e →
      Kind.nodeNotFound ∉ e.kinds ∧ ∀ x ∈ e.kinds, x ∈ Kind.controlChecks := by
  have hres := Description.resolved_of_validate hv
  refine ⟨fun e he => ?_, fun m hm e he => ?_⟩
  · have hkinds := Description.build_failsWithin hv k e he
    exact ⟨fun hn => absurd (hkinds _ hn) (by decide), fun ha => absurd (hkinds _ ha) (by decide),
      hkinds⟩
  · obtain ⟨hroadms, hterms⟩ := Description.build_finds hm
    have hin : m.InPlace := Network.InPlace.of_reachable ⟨k, Description.build_reachable hm⟩
    -- every name declared is found in the built network, as a ROADM or as a terminal
    have hroadm : ∀ x ∈ d.roadms.map (·.name), ∃ r, m.roadm x = .ok r := by
      intro x hx
      obtain ⟨r, hr, rfl⟩ := List.mem_map.mp hx
      exact hroadms r hr
    have hterm : ∀ x ∈ d.terminals.map (·.name), ∃ t, m.terminal x = .ok t := by
      intro x hx
      obtain ⟨t, ht, rfl⟩ := List.mem_map.mp hx
      exact hterms t ht
    cases hc : d.control with
    | none =>
      rw [hc] at he
      cases he
    | some c =>
      rw [hc] at he
      have hcm : c ∈ d.control := hc
      have hkinds := (Control.apply_within hin (fun r hr => hroadm _ (hres.rules c hcm r hr))
        (fun v hv => hroadm _ (hres.voa c hcm v hv)) (fun b hb => hterm _ (hres.bindings c hcm b hb))
        (fun x hx => hterm _ (hres.turnOn c hcm x hx))).1 e he
      exact ⟨fun hn => absurd (hkinds _ hn) (by decide), hkinds⟩

/-- Two terminals joined through a ROADM whose input has a preamp, with a rule, a binding at
each end and the first terminal turned on: the description validates, so its build and the
application of its control section fail, if at all, only by the checks of their steps. -/
theorem roadm_description_resolves :
    let d : Description := ⟨"line", [⟨"pre", default⟩],
      [⟨"t1", [⟨1, "", 0, "", 0⟩]⟩, ⟨"t2", [⟨1, "", 0, "", 0⟩]⟩],
      [⟨"r", ⟨0, none, [(1, "pre")], []⟩⟩],
      [⟨"", "t1", "r", 1, 1, "", none, ""⟩, ⟨"", "r", "t2", 1, 1, "", none, ""⟩],
      some ⟨[⟨"r", "x", 1, 1, some [1]⟩], [], [⟨"t1", 1, 1, 1⟩], [⟨"t2", 1, 1, 1⟩], ["t1"], false⟩⟩
    d.validate = .ok () ∧
      (∀ e, d.build 0 = .error e → Kind.nodeNotFound ∉ e.kinds ∧
        Kind.amplifierNotFound ∉ e.kinds ∧ ∀ x ∈ e.kinds, x ∈ Kind.additionChecks) ∧
      ∀ m, d.build 0 = .ok m → ∀ e, (applyControl d.control m).error = some e →
        Kind.nodeNotFound ∉ e.kinds ∧ ∀ x ∈ e.kinds, x ∈ Kind.controlChecks := by
  intro d
  -- the names are distinct, and every other check passes by evaluation
  have hprob : d.problems = [] := by
    simp only [Description.problems, List.append_eq_nil_iff]
    refine ⟨⟨⟨⟨⟨⟨?_, duplicates_eq_nil_of_nodup _ ?_⟩, ?_⟩, ?_⟩, duplicates_eq_nil_of_nodup _ ?_⟩, ?_⟩, ?_⟩ <;>
      decide +kernel
  have hv := Description.validate_eq_ok_iff.mpr hprob
  exact ⟨hv, validated_description_resolves hv 0⟩

end WdmNet

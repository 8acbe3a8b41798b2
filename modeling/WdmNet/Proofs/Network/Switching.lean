import WdmNet.Proofs.Network.Invariant
import WdmNet.Proofs.Network.Reachable
import WdmNet.Proofs.Pass.Closed
import WdmNet.Proofs.Roadm.Outputs
/-!
Every output of every ROADM is backed by its rules, in every reachable network.

`Roadm.Sound` joins the two invariants of a ROADM: its switch table is consistent
(`Roadm.TableInv`) and every carrier on an output came there by an installed rule from the
input recorded as its source (`Roadm.Backed`). `Network.RoadmsSound` asks it of every ROADM of
a network.

A new ROADM is sound and every call on its switch table keeps it sound. A pass changes the port
state of ROADMs without touching their tables, and writes an output only with carriers that a
rule sends there from their recorded input; that is a `Flow.Closed` relation, so it holds across
the whole pass. Every other step leaves the ROADMs alone. So every ROADM of every reachable
network is sound, and deleting its rules removes exactly what they sent.

Main statement: `Network.outputs_stay_backed_by_rules`.
-/

namespace WdmNet

namespace Roadm

/-- A ROADM whose switch table is consistent and whose outputs are backed by its rules. -/
structure Sound (r : Roadm) : Prop where
  table : r.TableInv
  backed : r.Backed

variable {r r' : Roadm}

theorem Sound.of_eq (h : r.Sound) (hr : r'.rules = r.rules) (hq : r'.route = r.route)
    (hs : r'.outSets = r.outSets) (hsrc : r'.outSrc = r.outSrc) : r'.Sound :=
  ⟨h.table.of_tables hr hq, h.backed.of_eq hr hq hs hsrc⟩

theorem sound_create (h : Nat) (name : String) (cfg : RoadmConfig) : (create h name cfg).Sound :=
  ⟨tableInv_create h name cfg, backed_create h name cfg⟩

/-- Every call on the switch table keeps a ROADM sound. -/
theorem Sound.edit (h : r.Sound) (he : Edit r r') : r'.Sound := by
  refine ⟨h.table.edit he, ?_⟩
  cases he with
  | install he => exact h.backed.installRule he
  | delete he => exact h.backed.deleteRule h.table he
  | deleteAll => exact h.backed.deleteAllRules h.table
  | update he => exact h.backed.updateRule h.table he
  | configureVoa he => exact h.backed.configureVoa he
  | reset => exact backed_reset r

theorem Sound.setOutput (h : r.Sound) {out : Int} {set : ChannelSet} {src : Std.TreeMap Int Int}
    (hset : ∀ c ∈ set, ∃ i rule, src.get? c.channel = some i ∧ r.ruleFor i c.channel = some rule ∧
      rule.outPort = out) :
    ({ r with outSets := r.outSets.insert out set
              outSrc := if src.isEmpty then r.outSrc.erase out else r.outSrc.insert out src } :
      Roadm).Sound :=
  ⟨h.table.of_tables rfl rfl, h.backed.setOutput hset⟩

end Roadm

namespace Network

/-- Every ROADM of the network is sound. -/
def RoadmsSound (n : Network) : Prop := ∀ h r, n.roadmAt? h = some r → r.Sound

variable {n : Network}

theorem roadmsSound_empty (m : Nat) : (empty m).RoadmsSound := fun _ _ hr => nomatch hr

/-! ### Changes of the node array -/

theorem RoadmsSound.of_nodes {m : Network} (h : n.RoadmsSound) (hs : m.nodes = n.nodes) :
    m.RoadmsSound := fun i r hr => h i r (by rwa [roadmAt?_of_nodes hs] at hr)

theorem RoadmsSound.push {m : Network} {nd : Node} (h : n.RoadmsSound)
    (hs : m.nodes = n.nodes.push nd) (hnd : ∀ r, nd = .roadm r → r.Sound) : m.RoadmsSound :=
  fun i r hr => (roadmAt?_of_push hs hr).elim (h i r) (hnd r)

theorem RoadmsSound.setNode (h : n.RoadmsSound) (i : Nat) {nd : Node}
    (hnd : ∀ r, nd = .roadm r → r.Sound) : (n.setNode i nd).RoadmsSound :=
  fun j r hr => (roadmAt?_of_setNode hr).elim (h j r) (hnd r)

theorem RoadmsSound.modifyTerminal (h : n.RoadmsSound) (i : Nat) (g : Terminal → Terminal) :
    (n.modifyTerminal i g).RoadmsSound :=
  fun j r hr => h j r (by rwa [roadmAt?_modifyTerminal] at hr)

theorem RoadmsSound.modifySignal (h : n.RoadmsSound) (j : Nat) (g : Signal → Signal) :
    (n.modifySignal j g).RoadmsSound :=
  h.of_nodes rfl

/-- A change of one ROADM keeps the network sound when it keeps that ROADM sound. -/
theorem RoadmsSound.modifyRoadm (h : n.RoadmsSound) (i : Nat) {g : Roadm → Roadm}
    (hg : ∀ r, n.roadmAt? i = some r → (g r).Sound) : (n.modifyRoadm i g).RoadmsSound := by
  intro j r hr
  rw [roadmAt?_modifyRoadm] at hr
  split at hr
  · subst_vars
    obtain ⟨r₀, h₀, rfl⟩ := Option.map_eq_some_iff.mp hr
    exact hg r₀ h₀
  · exact h j r hr

/-! ### Passes -/

/-- Every step of a pass keeps the ROADMs sound. Ports change with the tables left alone, and
an output is written only with carriers backed by the ROADM's rules. -/
theorem roadmsSound_closed : Flow.Closed fun f g => f.net.RoadmsSound → g.net.RoadmsSound where
  refl _ h := h
  trans h₁ h₂ h := h₂ (h₁ h)
  record _ _ hn _ _ h := h.of_nodes (congrArg Network.nodes hn)
  fail _ _ _ _ h := h
  visit _ _ _ _ h := h.of_nodes rfl
  amp _ _ _ h := h.of_nodes rfl
  span _ _ _ h := h.of_nodes rfl
  terminal _ _ _ _ h := h.modifyTerminal _ _
  roadmPorts f rh g hg h := h.modifyRoadm rh fun r hr =>
    (h rh r hr).of_eq (hg r).1 (hg r).2.1 (hg r).2.2.1 (hg r).2.2.2
  output f rh r out set src hr hset h := h.modifyRoadm rh fun r' hr' => by
    rw [hr] at hr'
    cases hr'
    exact (h rh r hr).setOutput hset

theorem RoadmsSound.launch (h : n.RoadmsSound) (t : Terminal) (ports : List Int) (safe : Bool)
    (kind : String) : (n.launch t ports safe kind).net.RoadmsSound := by
  obtain ⟨g, hg, hnet, -⟩ := roadmsSound_closed.launch n t ports safe kind
  rw [hnet]
  exact hg (h.of_nodes rfl)

/-! ### Commands -/

/-- Every kind of write of a command keeps every ROADM sound: signals, terminals, amplifiers
and spans are not ROADMs, a call on a switch table keeps its ROADM sound, and so does a reset. -/
theorem roadmsSound_invariant : Invariant RoadmsSound where
  frame h hs _ _ := h.of_nodes hs
  setActive _ _ h := h.modifySignal _ _
  switchOff _ h := h.modifySignal _ _
  forget _ _ h := h.modifySignal _ _
  pushSignal h _ := h.of_nodes rfl
  modifyTerminal _ _ _ h := h.modifyTerminal _ _
  setTerminal _ _ _ h := h.setNode _ nofun
  editRoadm h hr he := by
    obtain ⟨i, hi⟩ := roadmAt?_of_roadm hr
    refine h.setNode _ fun r₀ h₀ => ?_
    cases h₀
    exact (h i _ hi).edit he
  resetRoadm _ h := h.modifyRoadm _ fun r₀ h₀ => (h _ r₀ h₀).edit (.reset r₀)
  launch _ _ _ _ h := h.launch _ _ _ _

/-- Every step keeps every ROADM sound: a new ROADM starts with empty tables and no outputs. -/
theorem RoadmsSound.step {n' : Network} (h : n.RoadmsSound) (hs : Step n n') : n'.RoadmsSound := by
  cases hs with
  | addTerminal he =>
    obtain ⟨t, hnodes⟩ := addTerminal_nodes he
    exact h.push hnodes nofun
  | @addRoadm _ name cfg _ he =>
    obtain ⟨pre, boo, hnodes⟩ := addRoadm_nodes he
    refine h.push hnodes fun r hr => ?_
    cases hr
    exact (Roadm.sound_create n.nodes.size name cfg).of_eq rfl rfl rfl rfl
  | addAmplifier he => exact h.of_nodes (addAmplifier_nodes he)
  | addLink he => exact h.of_nodes (addLink_nodes he)
  | execute c => exact roadmsSound_invariant.execute h c

/-- Outputs stay backed by rules. In every reachable network, every carrier on an output `o` of
a ROADM has a recorded source input `i` for its channel, and the index routes `(i, channel)` to
an installed rule whose output is `o`. So deleting every rule of the ROADM empties all of its
outputs, and deleting one rule removes from its output exactly the carriers of its channels
whose recorded source is its input, leaving every other output and every other carrier (a
collision's winner from another input) as it was. -/
theorem outputs_stay_backed_by_rules {n : Network} (hn : n.Reachable) {h : Nat} {r : Roadm}
    (hr : n.roadmAt? h = some r) :
    (∀ o c, c ∈ r.portSet o false → ∃ i id rule, r.sourceOf o c.channel = some i ∧
      r.route.get? ⟨i, c.channel⟩ = some id ∧ r.rules.get? id = some rule ∧ rule.outPort = o) ∧
    (∀ o, r.deleteAllRules.portSet o false = []) ∧
    (∀ id rule, r.rules.get? id = some rule → ∃ r', r.deleteRule id = .ok r' ∧ ∀ o,
      r'.portSet o false = if o = rule.outPort then (r.portSet o false).filter fun c =>
        !(rule.channels.contains c.channel && r.sourceOf o c.channel == some rule.inPort)
      else r.portSet o false) := by
  have hs : r.Sound := hn.induction roadmsSound_empty (fun _ _ hm hstep => hm.step hstep) h r hr
  refine ⟨fun o c hc => ?_, Roadm.deleteAllRules_outputs hs.backed hs.table,
    fun _ _ hrule => Roadm.deleteRule_outputs hs.backed hrule⟩
  obtain ⟨i, rule, hi, hrule, ho⟩ := hs.backed o c hc
  obtain ⟨id, hid, hget⟩ := Roadm.ruleFor_eq_some.mp hrule
  exact ⟨i, id, rule, hi, hid, hget, ho⟩

/-- A network with one ROADM, built from an empty one, after one rule is installed. -/
theorem outputs_backed_after_install :
    ({ Network.empty 0 with
        nodes := #[.roadm { Roadm.create 0 "r" ⟨0, none, [], []⟩ with
          rules := (∅ : Std.TreeMap String SwitchRule).insert "a" ⟨"a", 1, 2, [1]⟩
          route := (∅ : Std.TreeMap PortChannel String).insert ⟨1, 1⟩ "a" }]
        nodeByName := (∅ : Std.TreeMap String Nat).insert "r" 0 } : Network).Reachable ∧
    ({ Network.empty 0 with
        nodes := #[.roadm { Roadm.create 0 "r" ⟨0, none, [], []⟩ with
          rules := (∅ : Std.TreeMap String SwitchRule).insert "a" ⟨"a", 1, 2, [1]⟩
          route := (∅ : Std.TreeMap PortChannel String).insert ⟨1, 1⟩ "a" }]
        nodeByName := (∅ : Std.TreeMap String Nat).insert "r" 0 } : Network).roadmAt? 0 =
      some { Roadm.create 0 "r" ⟨0, none, [], []⟩ with
          rules := (∅ : Std.TreeMap String SwitchRule).insert "a" ⟨"a", 1, 2, [1]⟩
          route := (∅ : Std.TreeMap PortChannel String).insert ⟨1, 1⟩ "a" } ∧
    ∀ o, ({ Roadm.create 0 "r" ⟨0, none, [], []⟩ with
          rules := (∅ : Std.TreeMap String SwitchRule).insert "a" ⟨"a", 1, 2, [1]⟩
          route := (∅ : Std.TreeMap PortChannel String).insert ⟨1, 1⟩ "a" } : Roadm).deleteAllRules.portSet
        o false = [] := by
  have hadd : (Network.empty 0).addRoadm "r" ⟨0, none, [], []⟩ =
      .ok ({ Network.empty 0 with
        nodes := #[.roadm (Roadm.create 0 "r" ⟨0, none, [], []⟩)]
        nodeByName := (∅ : Std.TreeMap String Nat).insert "r" 0 }, 0) := by
    have hv : validName "r" = true := by decide
    have hl : ((0 : Float) < 0 || (0 : Float).isNaN) = false := by decide
    simp only [addRoadm, hv, hl]
    rfl
  have hinstall : ({ Network.empty 0 with
        nodes := #[.roadm (Roadm.create 0 "r" ⟨0, none, [], []⟩)]
        nodeByName := (∅ : Std.TreeMap String Nat).insert "r" 0 } : Network).execute
        (.installRule "r" "a" 1 2 [1]) =
      ⟨{ Network.empty 0 with
        nodes := #[.roadm { Roadm.create 0 "r" ⟨0, none, [], []⟩ with
          rules := (∅ : Std.TreeMap String SwitchRule).insert "a" ⟨"a", 1, 2, [1]⟩
          route := (∅ : Std.TreeMap PortChannel String).insert ⟨1, 1⟩ "a" }]
        nodeByName := (∅ : Std.TreeMap String Nat).insert "r" 0 }, [], none⟩ := by
    have htrim : Text.trimSpace "a" = "a" := by decide
    have hsort : sortDedup [1] = [1] := by decide
    simp only [execute, withRoadm, Roadm.installRule, htrim, hsort]
    rfl
  have hreach := ((reachable_empty 0).step (.addRoadm hadd)).step (.execute _ (.installRule "r" "a" 1 2 [1]))
  rw [hinstall] at hreach
  exact ⟨hreach, rfl, (outputs_stay_backed_by_rules (h := 0) hreach rfl).2.1⟩

end Network

end WdmNet

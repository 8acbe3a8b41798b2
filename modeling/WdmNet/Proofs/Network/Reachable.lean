import Mathlib.Logic.Relation
import WdmNet.Proofs.Network.Additions
import WdmNet.Twin
/-!
Reachable networks.

A program builds a network by adding terminals, ROADMs, amplifiers and links to an empty one,
and changes it by control commands, in any order. `Network.Reachable` holds of every network
reached that way, and an invariant of reachable networks is proved once for the empty
networks and once for each step (`Network.Reachable.induction`).

Most invariants read the nodes through `roadmAt?`. The additions are stated here by what they
do to the node array: a terminal or a ROADM is pushed, with the ROADM's tables empty, and an
amplifier or a link leaves the nodes alone, whichever of their checks passes.
-/

namespace WdmNet

namespace Network

/-- One change of a network that a program can make: a successful addition, or a command. -/
inductive Step : Network → Network → Prop where
  | addTerminal {n n' : Network} {name : String} {trxs : List Transceiver} {h : Nat} :
      n.addTerminal name trxs = .ok (n', h) → Step n n'
  | addRoadm {n n' : Network} {name : String} {cfg : RoadmConfig} {h : Nat} :
      n.addRoadm name cfg = .ok (n', h) → Step n n'
  | addAmplifier {n n' : Network} {name : String} {cfg : AmplifierConfig} {h : Nat} :
      n.addAmplifier name cfg = .ok (n', h) → Step n n'
  | addLink {n n' : Network} {cfg : LinkConfig} {h : Nat} :
      n.addLink cfg = .ok (n', h) → Step n n'
  | execute (n : Network) (c : Command) : Step n (n.execute c).net

/-- A network that a run of steps reaches from an empty one. -/
def Reachable (n : Network) : Prop := ∃ m, Relation.ReflTransGen Step (empty m) n

theorem reachable_empty (m : Nat) : (empty m).Reachable := ⟨m, .refl⟩

theorem Reachable.step {n n' : Network} (hn : n.Reachable) (hs : Step n n') : n'.Reachable := by
  obtain ⟨m, h⟩ := hn
  exact ⟨m, h.tail hs⟩

/-- An invariant that every empty network has and every step keeps holds of every reachable
network. -/
theorem Reachable.induction {P : Network → Prop} (h₀ : ∀ m, P (empty m))
    (hstep : ∀ n n', P n → Step n n' → P n') {n : Network} (hn : n.Reachable) : P n := by
  obtain ⟨m, h⟩ := hn
  induction h with
  | refl => exact h₀ m
  | tail _ hs ih => exact hstep _ _ ih hs

/-! ### The additions, by what they do to the nodes -/

-- Each is read off what a successful addition did (`addTerminal_eq_ok` and the others).

theorem addTerminal_nodes {n n' : Network} {name : String} {trxs : List Transceiver} {h : Nat}
    (he : n.addTerminal name trxs = .ok (n', h)) : ∃ t, n'.nodes = n.nodes.push (.terminal t) := by
  obtain ⟨-, t, -, rfl, -⟩ := addTerminal_eq_ok he
  exact ⟨t, rfl⟩

/-- A new ROADM starts with the empty tables of `Roadm.create`; only its amplifiers are set. -/
theorem addRoadm_nodes {n n' : Network} {name : String} {cfg : RoadmConfig} {h : Nat}
    (he : n.addRoadm name cfg = .ok (n', h)) :
    ∃ pre boo, n'.nodes = n.nodes.push
      (.roadm { Roadm.create n.nodes.size name cfg with preamps := pre, boosts := boo }) := by
  obtain ⟨-, pre, boo, -, -, -, -, rfl, -⟩ := addRoadm_eq_ok he
  exact ⟨_, _, rfl⟩

theorem addAmplifier_nodes {n n' : Network} {name : String} {cfg : AmplifierConfig} {h : Nat}
    (he : n.addAmplifier name cfg = .ok (n', h)) : n'.nodes = n.nodes := by
  obtain ⟨-, a, -, rfl, -⟩ := addAmplifier_eq_ok he
  rfl

theorem addLink_nodes {n n' : Network} {cfg : LinkConfig} {h : Nat}
    (he : n.addLink cfg = .ok (n', h)) : n'.nodes = n.nodes := by
  obtain ⟨-, -, -, -, -, -, -, -, -, -, -, -, -, -, -, -, -, -, rfl, -⟩ := addLink_eq_ok he
  rfl

/-! ### ROADMs found by handle -/

variable {n : Network}

theorem roadmAt?_of_nodes {m : Network} (hs : m.nodes = n.nodes) (h : Nat) :
    m.roadmAt? h = n.roadmAt? h := by
  unfold roadmAt?
  rw [hs]

theorem roadmAt?_eq_some {h : Nat} {r : Roadm} :
    n.roadmAt? h = some r ↔ n.nodes[h]? = some (.roadm r) := by
  unfold roadmAt?
  rcases n.nodes[h]? with _ | _ | r' <;> simp

/-- A ROADM after a push was there before, or is the pushed node. -/
theorem roadmAt?_of_push {m : Network} {nd : Node} (hs : m.nodes = n.nodes.push nd) {h : Nat}
    {r : Roadm} (hr : m.roadmAt? h = some r) : n.roadmAt? h = some r ∨ nd = .roadm r := by
  rw [roadmAt?_eq_some, hs, Array.getElem?_push] at hr
  rw [roadmAt?_eq_some]
  split at hr
  · exact .inr (Option.some.inj hr)
  · exact .inl hr

/-- A ROADM after a node is replaced was there before, or is the new node. -/
theorem roadmAt?_of_setNode {i : Nat} {nd : Node} {h : Nat} {r : Roadm}
    (hr : (n.setNode i nd).roadmAt? h = some r) : n.roadmAt? h = some r ∨ nd = .roadm r := by
  rw [roadmAt?_eq_some, setNode, Array.set!_eq_setIfInBounds, Array.getElem?_setIfInBounds] at hr
  rw [roadmAt?_eq_some]
  split at hr
  · split at hr
    · exact .inr (Option.some.inj hr)
    · cases hr
  · exact .inl hr

@[simp] theorem roadmAt?_modifyTerminal (i : Nat) (g : Terminal → Terminal) (h : Nat) :
    (n.modifyTerminal i g).roadmAt? h = n.roadmAt? h := by
  unfold roadmAt? modifyTerminal
  rw [Array.getElem?_modify]
  by_cases hih : i = h
  · rw [if_pos hih]
    rcases n.nodes[h]? with _ | _ | _ <;> rfl
  · rw [if_neg hih]

theorem roadmAt?_modifyRoadm (i : Nat) (g : Roadm → Roadm) (h : Nat) :
    (n.modifyRoadm i g).roadmAt? h = if i = h then (n.roadmAt? h).map g else n.roadmAt? h := by
  unfold roadmAt? modifyRoadm
  rw [Array.getElem?_modify]
  by_cases hih : i = h
  · rw [if_pos hih, if_pos hih]
    rcases n.nodes[h]? with _ | _ | _ <;> rfl
  · rw [if_neg hih, if_neg hih]

/-- A ROADM found by name is a node of the network. -/
theorem roadmAt?_of_roadm {name : String} {r : Roadm} (he : n.roadm name = .ok r) :
    ∃ h, n.roadmAt? h = some r := by
  unfold roadm node at he
  split at he
  · rename_i nd hnd
    obtain ⟨h, -, hh⟩ := Option.bind_eq_some_iff.mp hnd
    refine ⟨h, ?_⟩
    unfold roadmAt?
    rw [hh]
    cases nd with
    | roadm r' => cases he; rfl
    | terminal => cases he
  · cases he

end Network

end WdmNet

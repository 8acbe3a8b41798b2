import Mathlib.Data.List.Nodup
import WdmNet.Proofs.Network.Additions
import WdmNet.Proofs.Network.Invariant
import WdmNet.Proofs.Network.Reachable
import WdmNet.Proofs.Roadm.Table
/-!
The arena of a network.

A network keeps its nodes, amplifiers, spans and links in arrays, addressed by handle, and
tables beside them: names to handles, node ports to links, amplifiers to the link and to the
ROADM they serve. `Network.Arena` says that all of them agree: every component carries its own
handle; each name table is a bijection between the names and the handles of its kind; the
spans are exactly those of the links' hops, in handle order, so each is in one hop of one
link; a node port is left (entered) by the link its table names and by no other; no amplifier
is claimed twice by the links, nor twice by ROADM ports, and the tables name the link or the
ROADM that holds it; and each link's length is the sum of its spans' lengths in hop order.

Each addition keeps the arena, whether it succeeds or is refused, so every network built by
a sequence of additions has it.

Main statement: `Network.arena_of_additions`.
-/

namespace WdmNet

/-! ### Keys of the port tables -/

/-- Node ports compare by node, then by port. -/
theorem NodePort.compare_eq_compareLex :
    (compare : NodePort → NodePort → Ordering) =
      compareLex (compareOn (·.node)) (compareOn (·.port)) := by
  funext a b
  obtain ⟨h, p⟩ := a
  obtain ⟨h', p'⟩ := b
  show (compare h h').then ((compare p p').then .eq) = (compare h h').then (compare p p')
  cases compare p p' <;> rfl

instance : Std.TransCmp (compare : NodePort → NodePort → Ordering) :=
  NodePort.compare_eq_compareLex ▸ inferInstance

instance : Std.LawfulEqCmp (compare : NodePort → NodePort → Ordering) where
  eq_of_compare {a b} h := by
    rw [NodePort.compare_eq_compareLex, compareLex_eq_eq] at h
    obtain ⟨p, c⟩ := a
    obtain ⟨p', c'⟩ := b
    simp only [compareOn, Std.LawfulEqCmp.compare_eq_iff_eq] at h
    rw [h.1, h.2]

/-- The amplifiers a link claims: its boost, then the amplifier after each span. -/
def Link.amplifiers (l : Link) : List Nat := l.boost.toList ++ l.hops.filterMap (·.amplifier)

namespace Network

/-! ### Sequences of additions -/

/-- A call of one of the four additions. -/
inductive Addition where
  | terminal (name : String) (trxs : List Transceiver)
  | roadm (name : String) (cfg : RoadmConfig)
  | amplifier (name : String) (cfg : AmplifierConfig)
  | link (cfg : LinkConfig)

/-- The network after an addition that may be refused: a refused one leaves it as it was. -/
def orKeep (n : Network) : Except Failure (Network × Nat) → Network
  | .ok (n', _) => n'
  | .error _ => n

/-- Calls an addition, successful or not. -/
def add (n : Network) : Addition → Network
  | .terminal name trxs => n.orKeep (n.addTerminal name trxs)
  | .roadm name cfg => n.orKeep (n.addRoadm name cfg)
  | .amplifier name cfg => n.orKeep (n.addAmplifier name cfg)
  | .link cfg => n.orKeep (n.addLink cfg)

/-! ### The invariant -/

/-- Amplifier `a` serves port `port` of the ROADM with handle `h`, as the boost of an output
port or as the preamp of an input port. -/
def AttachedAt (n : Network) (a h : Nat) (port : Int) (boost : Bool) : Prop :=
  ∃ r, n.roadmAt? h = some r ∧ (if boost then r.boosts else r.preamps).get? port = some a

/-- The arrays of a network and the tables beside them agree. -/
structure Arena (n : Network) : Prop where
  node_handle : ∀ (h : Nat) (nd : Node), n.nodes[h]? = some nd → nd.handle = h
  amp_handle : ∀ (h : Nat) (a : Amplifier), n.amps[h]? = some a → a.handle = h
  span_handle : ∀ (h : Nat) (s : Span), n.spans[h]? = some s → s.handle = h
  link_handle : ∀ (h : Nat) (l : Link), n.links[h]? = some l → l.handle = h
  node_names : ∀ name h, n.nodeByName.get? name = some h ↔
    ∃ nd, n.nodes[h]? = some nd ∧ nd.name = name
  amp_names : ∀ name h, n.ampByName.get? name = some h ↔
    ∃ a, n.amps[h]? = some a ∧ a.name = name
  link_names : ∀ name h, n.linkByName.get? name = some h ↔
    ∃ l, n.links[h]? = some l ∧ l.name = name
  /-- The hops of the links, in link order, run through the spans in handle order. -/
  span_hops : (n.links.toList.flatMap fun l => l.hops.map (·.span)) = List.range n.spans.size
  /-- A node port is left by the link the table files under it, and by no other. -/
  out_links : ∀ k h, n.outLinks.get? k = some h ↔
    ∃ l, n.links[h]? = some l ∧ (⟨l.src, l.outPort⟩ : NodePort) = k
  /-- A node port is entered by the link the table files under it, and by no other. -/
  in_links : ∀ k h, n.inLinks.get? k = some h ↔
    ∃ l, n.links[h]? = some l ∧ (⟨l.dst, l.inPort⟩ : NodePort) = k
  link_amps_nodup : (n.links.toList.flatMap Link.amplifiers).Nodup
  amp_on_link : ∀ a name, n.ampOnLink.get? a = some name ↔
    ∃ l ∈ n.links, a ∈ l.amplifiers ∧ l.name = name
  attached_once : ∀ {a h h' p p' b b'}, n.AttachedAt a h p b → n.AttachedAt a h' p' b' →
    h = h' ∧ p = p' ∧ b = b'
  attached_owner : ∀ {a h p b}, n.AttachedAt a h p b →
    ∃ r, n.roadmAt? h = some r ∧ n.ampOnNode.get? a = some r.name
  link_length : ∀ l ∈ n.links, l.length =
    (l.hops.map fun hp => ((n.spans[hp.span]?).map (·.config.lengthKm)).getD 0).foldl (· + ·) 0

/-! ### Tables after a push -/

section Tables

variable {α : Type}

/-- A component pushed with its own handle keeps every handle in place. -/
theorem handles_push {arr : Array α} {hd : α → Nat} {x : α}
    (harr : ∀ i a, arr[i]? = some a → hd a = i) (hx : hd x = arr.size) (i : Nat) (a : α)
    (ha : (arr.push x)[i]? = some a) : hd a = i := by
  rw [Array.getElem?_push] at ha
  split at ha
  · cases ha
    rename_i hi
    rw [hx, hi]
  · exact harr i a ha

/-- A table stays a bijection between its keys and the handles of an array when a new key is
filed under the handle of a component pushed with that key. -/
theorem table_push {κ : Type} [DecidableEq κ] {cmp : κ → κ → Ordering} [Std.TransCmp cmp]
    [Std.LawfulEqCmp cmp] {m : Std.TreeMap κ Nat cmp} {arr : Array α} {key : α → κ} {x : α}
    {k₀ : κ} (hm : ∀ k h, m.get? k = some h ↔ ∃ a, arr[h]? = some a ∧ key a = k)
    (hnew : m.get? k₀ = none) (hx : key x = k₀) (k : κ) (h : Nat) :
    (m.insert k₀ arr.size).get? k = some h ↔ ∃ a, (arr.push x)[h]? = some a ∧ key a = k := by
  rw [get?_insert_eq, Array.getElem?_push]
  by_cases hk : k₀ = k
  · subst hk
    rw [if_pos rfl]
    constructor
    · intro hh
      cases hh
      exact ⟨x, by simp, hx⟩
    · rintro ⟨a, ha, hka⟩
      split at ha
      · rename_i hsz
        rw [hsz]
      · -- an old component with that key would have been in the table
        have hold := (hm _ h).mpr ⟨a, ha, hka⟩
        rw [hnew] at hold
        cases hold
  · rw [if_neg hk, hm]
    constructor
    · rintro ⟨a, ha, hka⟩
      refine ⟨a, ?_, hka⟩
      rw [if_neg]
      · exact ha
      · rintro rfl
        simp at ha
    · rintro ⟨a, ha, hka⟩
      split at ha
      · cases ha
        exact absurd (hx.symm.trans hka) hk
      · exact ⟨a, ha, hka⟩

theorem getElem?_handle {arr : Array α} {hd : α → Nat}
    (harr : ∀ i a, arr[i]? = some a → hd a = i) {a : α} (ha : a ∈ arr) : arr[hd a]? = some a := by
  obtain ⟨i, hi⟩ := Array.getElem?_of_mem ha
  rw [harr i a hi, hi]

/-- Filing a list of keys under one value. -/
theorem get?_foldl_insert_const {β : Type} (l : List Nat) (v : β) (m : Std.TreeMap Nat β)
    (a : Nat) : (l.foldl (fun m h => m.insert h v) m).get? a = if a ∈ l then some v else m.get? a := by
  induction l generalizing m with
  | nil => simp
  | cons x l ih =>
    rw [List.foldl_cons, ih, get?_insert_eq]
    by_cases hx : x = a
    · subst hx
      simp
    · have hax : a ≠ x := fun h => hx h.symm
      by_cases ha : a ∈ l <;> simp [ha, hx, hax]

/-- An entry of a table filled from a list of pairs comes from the list or was there before. -/
theorem mem_of_get?_foldl_insert (l : List (Int × Nat)) (m : Std.TreeMap Int Nat) {p : Int}
    {a : Nat} (h : (l.foldl (fun m q => m.insert q.1 q.2) m).get? p = some a) :
    (p, a) ∈ l ∨ m.get? p = some a := by
  induction l generalizing m with
  | nil => exact .inr h
  | cons q l ih =>
    rcases ih _ h with hl | hq
    · exact .inl (List.mem_cons_of_mem q hl)
    · rw [get?_insert_eq] at hq
      split at hq
      · cases hq
        rename_i hp
        exact .inl (hp ▸ List.mem_cons_self)
      · exact .inr hq

end Tables

variable {n n' : Network}

/-! ### ROADMs after a push -/

theorem roadmAt?_push_terminal {t : Terminal} (hs : n'.nodes = n.nodes.push (.terminal t))
    (h : Nat) : n'.roadmAt? h = n.roadmAt? h := by
  unfold roadmAt?
  rw [hs, Array.getElem?_push]
  by_cases hh : h = n.nodes.size
  · rw [if_pos hh, hh, Array.getElem?_eq_none (Nat.le_refl _)]
  · rw [if_neg hh]

theorem roadmAt?_push_roadm {r : Roadm} (hs : n'.nodes = n.nodes.push (.roadm r)) (h : Nat) :
    n'.roadmAt? h = if h = n.nodes.size then some r else n.roadmAt? h := by
  unfold roadmAt?
  rw [hs, Array.getElem?_push]
  by_cases hh : h = n.nodes.size
  · rw [if_pos hh, if_pos hh]
  · rw [if_neg hh, if_neg hh]

theorem attachedAt_congr (hr : ∀ h, n'.roadmAt? h = n.roadmAt? h) {a h : Nat} {p : Int}
    {b : Bool} : n'.AttachedAt a h p b ↔ n.AttachedAt a h p b := by
  unfold AttachedAt
  rw [hr]

theorem roadmAt?_size : n.roadmAt? n.nodes.size = none := by
  unfold roadmAt?
  rw [Array.getElem?_eq_none (Nat.le_refl _)]

/-- An attachment after a ROADM is pushed is one of the new ROADM's or an old one. -/
theorem attachedAt_push_roadm {r : Roadm} (hs : n'.nodes = n.nodes.push (.roadm r)) {a h : Nat}
    {p : Int} {b : Bool} : n'.AttachedAt a h p b ↔
      (h = n.nodes.size ∧ (if b then r.boosts else r.preamps).get? p = some a) ∨
        n.AttachedAt a h p b := by
  unfold AttachedAt
  rw [roadmAt?_push_roadm hs]
  by_cases hh : h = n.nodes.size
  · subst hh
    simp [roadmAt?_size]
  · simp [hh]

/-- An old attachment sits at a ROADM that was there before the push. -/
theorem AttachedAt.lt_size {a h : Nat} {p : Int} {b : Bool} (ha : n.AttachedAt a h p b) :
    h ≠ n.nodes.size := by
  rintro rfl
  obtain ⟨r, hr, -⟩ := ha
  rw [roadmAt?_size] at hr
  cases hr

/-! ### The empty network and the four additions -/

theorem arena_empty (m : Nat) : (empty m).Arena where
  node_handle _ _ h := nomatch h
  amp_handle _ _ h := nomatch h
  span_handle _ _ h := nomatch h
  link_handle _ _ h := nomatch h
  node_names _ _ := by simp [empty]
  amp_names _ _ := by simp [empty]
  link_names _ _ := by simp [empty]
  span_hops := rfl
  out_links _ _ := by simp [empty]
  in_links _ _ := by simp [empty]
  link_amps_nodup := List.nodup_nil
  amp_on_link _ _ := by simp [empty]
  attached_once h := by simp [AttachedAt, roadmAt?, empty] at h
  attached_owner h := by simp [AttachedAt, roadmAt?, empty] at h
  link_length _ h := by simp [empty] at h

theorem Arena.addAmplifier (hn : n.Arena) {name : String} {cfg : AmplifierConfig} {k : Nat}
    (he : n.addAmplifier name cfg = .ok (n', k)) : n'.Arena := by
  obtain ⟨hnew, a, ha, rfl, -⟩ := addAmplifier_eq_ok he
  obtain ⟨hah, han⟩ := Amplifier.create_eq_ok ha
  exact { hn with
    amp_handle := handles_push hn.amp_handle hah
    amp_names := by
      rw [hah]
      exact table_push hn.amp_names hnew han }

theorem Arena.addTerminal (hn : n.Arena) {name : String} {trxs : List Transceiver} {k : Nat}
    (he : n.addTerminal name trxs = .ok (n', k)) : n'.Arena := by
  obtain ⟨hnew, t, ht, hn', -⟩ := addTerminal_eq_ok he
  obtain ⟨hth, htn⟩ := Terminal.create_eq_ok ht
  have hr : ∀ h, n'.roadmAt? h = n.roadmAt? h := roadmAt?_push_terminal (by rw [hn'])
  subst hn'
  exact { hn with
    node_handle := handles_push hn.node_handle hth
    node_names := by
      rw [hth]
      exact table_push hn.node_names hnew htn
    attached_once := fun h₁ h₂ => hn.attached_once ((attachedAt_congr hr).mp h₁)
      ((attachedAt_congr hr).mp h₂)
    attached_owner := fun h₁ => by
      rw [hr]
      exact hn.attached_owner ((attachedAt_congr hr).mp h₁) }

/-- A new ROADM claims amplifiers that no ROADM holds, each for one of its ports. -/
theorem Arena.addRoadm (hn : n.Arena) {name : String} {cfg : RoadmConfig} {k : Nat}
    (he : n.addRoadm name cfg = .ok (n', k)) : n'.Arena := by
  obtain ⟨hnew, pre, boo, c₁, claimed, hpre, hboo, hn', -⟩ := addRoadm_eq_ok he
  have P₁ := claimPortAmps_eq_ok List.nodup_nil hpre
  have P₂ := claimPortAmps_eq_ok P₁.nodup hboo
  generalize hr : ({ Roadm.create n.nodes.size name cfg with
    preamps := pre.foldl (fun m p => m.insert p.1 p.2) {}
    boosts := boo.foldl (fun m p => m.insert p.1 p.2) {} } : Roadm) = r at hn'
  have hrh : r.handle = n.nodes.size := by rw [← hr]; rfl
  have hrn : r.name = name := by rw [← hr]; rfl
  -- the new ROADM's tables hold the claimed pairs
  have htab : ∀ {a : Nat} {p : Int} {b : Bool}, (if b then r.boosts else r.preamps).get? p = some a →
      (p, a) ∈ (if b then boo else pre) := by
    intro a p b hp
    rw [← hr] at hp
    cases b <;> simpa using mem_of_get?_foldl_insert _ _ hp
  -- the claims: the boosts' amplifiers, then the preamps', all distinct and all free
  have hcl : claimed = (boo.map (·.2)).reverse ++ (pre.map (·.2)).reverse := by
    rw [P₂.claimed_eq, P₁.claimed_eq, List.append_nil]
  have hnd : (boo.map (·.2)).Nodup ∧ (pre.map (·.2)).Nodup ∧
      ∀ a ∈ boo.map (·.2), a ∉ pre.map (·.2) := by
    have h := P₂.nodup
    rw [hcl, List.nodup_append, List.nodup_reverse, List.nodup_reverse] at h
    exact ⟨h.1, h.2.1, fun a ha hb => h.2.2 a (List.mem_reverse.mpr ha) a (List.mem_reverse.mpr hb) rfl⟩
  have hmem : ∀ {a : Nat} {p : Int} {b : Bool}, (p, a) ∈ (if b then boo else pre) → a ∈ claimed := by
    intro a p b hp
    rw [hcl, List.mem_append, List.mem_reverse, List.mem_reverse]
    cases b
    · exact .inr (List.mem_map.mpr ⟨_, hp, rfl⟩)
    · exact .inl (List.mem_map.mpr ⟨_, hp, rfl⟩)
  have hfree : ∀ a ∈ claimed, n.ampOnNode.get? a = none := by
    intro a ha
    rw [hcl, List.mem_append, List.mem_reverse, List.mem_reverse, List.mem_map, List.mem_map] at ha
    rcases ha with ⟨q, hq, rfl⟩ | ⟨q, hq, rfl⟩
    · exact P₂.free q hq
    · exact P₁.free q hq
  -- an amplifier an old ROADM holds is not claimed
  have hold : ∀ {a h p b}, n.AttachedAt a h p b → a ∉ claimed := by
    intro a h p b ha hc
    obtain ⟨r', -, ho⟩ := hn.attached_owner ha
    rw [hfree a hc] at ho
    cases ho
  have hs : n'.nodes = n.nodes.push (.roadm r) := by rw [hn']
  subst hn'
  refine { hn with
    node_handle := handles_push hn.node_handle hrh
    node_names := table_push hn.node_names hnew hrn
    attached_once := ?_
    attached_owner := ?_ }
  · intro a h h' p p' b b' h₁ h₂
    rcases (attachedAt_push_roadm hs).mp h₁ with ⟨rfl, t₁⟩ | o₁ <;>
      rcases (attachedAt_push_roadm hs).mp h₂ with ⟨rfl, t₂⟩ | o₂
    · -- two ports of the new ROADM: one pair, since the claims are distinct
      have m₁ := htab t₁
      have m₂ := htab t₂
      cases b <;> cases b'
      · simp only [Bool.false_eq_true, if_false] at m₁ m₂
        exact ⟨rfl, (Prod.mk.inj (List.inj_on_of_nodup_map hnd.2.1 m₁ m₂ rfl)).1, rfl⟩
      · exact absurd (List.mem_map.mpr ⟨_, m₁, rfl⟩) (hnd.2.2 a (List.mem_map.mpr ⟨_, m₂, rfl⟩))
      · exact absurd (List.mem_map.mpr ⟨_, m₂, rfl⟩) (hnd.2.2 a (List.mem_map.mpr ⟨_, m₁, rfl⟩))
      · simp only [if_true] at m₁ m₂
        exact ⟨rfl, (Prod.mk.inj (List.inj_on_of_nodup_map hnd.1 m₁ m₂ rfl)).1, rfl⟩
    · exact absurd (hmem (htab t₁)) (hold o₂)
    · exact absurd (hmem (htab t₂)) (hold o₁)
    · exact hn.attached_once o₁ o₂
  · intro a h p b h₁
    rw [get?_foldl_insert_const]
    rcases (attachedAt_push_roadm hs).mp h₁ with ⟨rfl, t₁⟩ | o₁
    · refine ⟨r, ?_, ?_⟩
      · rw [roadmAt?_push_roadm hs, if_pos rfl]
      · rw [if_pos (hmem (htab t₁)), hrn]
    · obtain ⟨r', hr', ho⟩ := hn.attached_owner o₁
      refine ⟨r', ?_, ?_⟩
      · rw [roadmAt?_push_roadm hs, if_neg o₁.lt_size, hr']
      · rw [if_neg (hold o₁), ho]

/-- A new link takes the next spans, two free ports and amplifiers that no link holds. -/
theorem Arena.addLink (hn : n.Arena) {cfg : LinkConfig} {k : Nat}
    (he : n.addLink cfg = .ok (n', k)) : n'.Arena := by
  obtain ⟨src, dst, name, boost, c₀, claimed, spans, hops, length, raman, -, -, -, hnew, hout, hin,
    hboost, hb, hn', -⟩ := addLink_eq_ok he
  generalize hL : (⟨n.links.size, name, src, dst, cfg.outPort, cfg.inPort, boost, hops, raman,
    length, cfg.src, cfg.dst⟩ : Link) = L at hn'
  -- the new spans are numbered after the old ones
  have hhandles : spans.toList.map (·.handle) = List.range' n.spans.size spans.size := by
    have hlen := congrArg List.length hb.handles
    simp only [List.length_map, Array.length_toList, List.length_zipIdx] at hlen
    have h := @List.map_add_range' n.spans.size 0 cfg.spans.length 1
    rw [Nat.add_zero, ← List.zipIdx_map_snd, List.map_map] at h
    rw [hb.handles, hlen]
    exact h
  have hspan : ∀ j s, spans[j]? = some s → s.handle = n.spans.size + j := by
    intro j s hs
    have hj : j < spans.size := (Array.getElem?_eq_some_iff.mp hs).1
    have := congrArg (·[j]?) hhandles
    simp only [List.getElem?_map, Array.getElem?_toList, hs, List.getElem?_range' hj] at this
    simpa using this
  -- the link claims exactly the amplifiers of the claimed list
  have hamps : L.amplifiers = claimed.reverse := by
    rw [← hL, Link.amplifiers, hb.claimed_eq, (claimLinkAmp_eq_ok hboost).1, List.reverse_append,
      List.reverse_reverse, List.append_nil]
    cases boost <;> rfl
  have hsh : ∀ (h : Nat) (s : Span), (n.spans ++ spans)[h]? = some s → s.handle = h := by
    intro h s hs
    rw [Array.getElem?_append] at hs
    split at hs
    · exact hn.span_handle h s hs
    · rw [hspan _ _ hs]
      omega
  subst hn'
  refine { hn with
    span_handle := hsh
    link_handle := handles_push hn.link_handle (by rw [← hL])
    link_names := table_push hn.link_names hnew (by rw [← hL])
    span_hops := ?_
    out_links := table_push hn.out_links hout (by rw [← hL])
    in_links := table_push hn.in_links hin (by rw [← hL])
    link_amps_nodup := ?_
    amp_on_link := ?_
    link_length := ?_ }
  · -- the new hops run through the new spans, after the old ones
    have hLh : L.hops = hops := by rw [← hL]
    rw [Array.toList_push, List.flatMap_append, hn.span_hops, List.flatMap_singleton, hLh,
      hb.hops_span, hhandles, Array.size_append, List.range_add, List.range'_eq_map_range]
  · rw [Array.toList_push, List.flatMap_append, List.flatMap_singleton, List.nodup_append, hamps,
      List.nodup_reverse]
    refine ⟨hn.link_amps_nodup, hb.nodup, ?_⟩
    -- an amplifier of an old link is filed under that link, a claimed one under none
    intro a ha b hb' hab
    subst hab
    obtain ⟨l, hl, hal⟩ := List.mem_flatMap.mp ha
    have hon := (hn.amp_on_link a l.name).mpr ⟨l, Array.mem_toList_iff.mp hl, hal, rfl⟩
    rw [hb.free a (List.mem_reverse.mp hb')] at hon
    cases hon
  · intro a nm
    rw [get?_foldl_insert_const]
    by_cases hc : a ∈ claimed
    · rw [if_pos hc]
      constructor
      · intro h
        cases h
        exact ⟨L, Array.mem_push_self, by rw [hamps, List.mem_reverse]; exact hc, by rw [← hL]⟩
      · rintro ⟨l, hl, hal, rfl⟩
        rcases Array.mem_push.mp hl with hl | rfl
        · have hon := (hn.amp_on_link a l.name).mpr ⟨l, hl, hal, rfl⟩
          rw [hb.free a hc] at hon
          cases hon
        · rw [← hL]
    · rw [if_neg hc, hn.amp_on_link]
      constructor
      · rintro ⟨l, hl, hal, hnm⟩
        exact ⟨l, Array.mem_push_of_mem _ hl, hal, hnm⟩
      · rintro ⟨l, hl, hal, hnm⟩
        rcases Array.mem_push.mp hl with hl | rfl
        · exact ⟨l, hl, hal, hnm⟩
        · rw [hamps, List.mem_reverse] at hal
          exact absurd hal hc
  · intro l hl
    rcases Array.mem_push.mp hl with hl | rfl
    · -- an old link's spans keep their places
      rw [hn.link_length l hl]
      congr 1
      refine List.map_congr_left fun hp hhp => ?_
      have hlt : hp.span < n.spans.size := by
        rw [← List.mem_range, ← hn.span_hops]
        exact List.mem_flatMap.mpr ⟨l, Array.mem_toList_iff.mpr hl, List.mem_map_of_mem hhp⟩
      rw [Array.getElem?_append_left hlt]
    · -- the new link's hops run through the new spans
      have hlen : l.length = length := by rw [← hL]
      have hLh : l.hops = hops := by rw [← hL]
      rw [hlen, hb.length_eq, hLh]
      congr 1
      have hG : ∀ s ∈ spans.toList,
          (((n.spans ++ spans)[s.handle]?).map (·.config.lengthKm)).getD 0 = s.config.lengthKm := by
        intro s hs
        rw [getElem?_handle hsh (Array.mem_append_right _ (Array.mem_toList_iff.mp hs))]
        rfl
      calc spans.toList.map (·.config.lengthKm)
          = (spans.toList.map (·.handle)).map
              fun i => (((n.spans ++ spans)[i]?).map (·.config.lengthKm)).getD 0 := by
            rw [List.map_map]
            exact List.map_congr_left fun s hs => (hG s hs).symm
        _ = (hops.map (·.span)).map
              fun i => (((n.spans ++ spans)[i]?).map (·.config.lengthKm)).getD 0 := by
            rw [hb.hops_span]
        _ = hops.map fun hp => (((n.spans ++ spans)[hp.span]?).map (·.config.lengthKm)).getD 0 := by
            rw [List.map_map]
            rfl

/-! ### Every sequence of additions -/

theorem Arena.orKeep (hn : n.Arena) {e : Except Failure (Network × Nat)}
    (he : ∀ n' k, e = .ok (n', k) → n'.Arena) : (n.orKeep e).Arena := by
  cases e with
  | error => exact hn
  | ok r => exact he r.1 r.2 rfl

theorem Arena.add (hn : n.Arena) (op : Addition) : (n.add op).Arena := by
  -- unfolded first: matching `add` against `orKeep` would unfold the additions themselves
  unfold Network.add
  cases op with
  | terminal => exact hn.orKeep fun _ _ he => hn.addTerminal he
  | roadm => exact hn.orKeep fun _ _ he => hn.addRoadm he
  | amplifier => exact hn.orKeep fun _ _ he => hn.addAmplifier he
  | link => exact hn.orKeep fun _ _ he => hn.addLink he

theorem Reachable.orKeep (hn : n.Reachable) {e : Except Failure (Network × Nat)}
    (he : ∀ n' k, e = .ok (n', k) → Step n n') : (n.orKeep e).Reachable := by
  cases e with
  | error => exact hn
  | ok r => exact hn.step (he r.1 r.2 rfl)

/-- An addition keeps a network reachable, whether it succeeds or is refused. -/
theorem Reachable.add (hn : n.Reachable) (op : Addition) : (n.add op).Reachable := by
  unfold Network.add
  cases op with
  | terminal => exact hn.orKeep fun _ _ he => .addTerminal he
  | roadm => exact hn.orKeep fun _ _ he => .addRoadm he
  | amplifier => exact hn.orKeep fun _ _ he => .addAmplifier he
  | link => exact hn.orKeep fun _ _ he => .addLink he

/-- Every network that a sequence of additions builds from an empty one, each addition
succeeding or refused, has a consistent arena. -/
theorem arena_of_additions (m : Nat) (ops : List Addition) : (ops.foldl add (empty m)).Arena :=
  foldl_invariant (arena_empty m) ops fun _ op hn => hn.add op

/-- In a consistent arena a node port carries at most one link each way. -/
theorem Arena.one_link_per_port (hn : n.Arena) {h h' : Nat} {l l' : Link}
    (hl : n.links[h]? = some l) (hl' : n.links[h']? = some l') :
    ((⟨l.src, l.outPort⟩ : NodePort) = ⟨l'.src, l'.outPort⟩ → h = h') ∧
      ((⟨l.dst, l.inPort⟩ : NodePort) = ⟨l'.dst, l'.inPort⟩ → h = h') := by
  refine ⟨fun hk => ?_, fun hk => ?_⟩
  · have h₁ := (hn.out_links _ h).mpr ⟨l, hl, rfl⟩
    have h₂ := (hn.out_links _ h').mpr ⟨l', hl', hk.symm⟩
    rw [h₁] at h₂
    exact Option.some.inj h₂
  · have h₁ := (hn.in_links _ h).mpr ⟨l, hl, rfl⟩
    have h₂ := (hn.in_links _ h').mpr ⟨l', hl', hk.symm⟩
    rw [h₁] at h₂
    exact Option.some.inj h₂

end Network

end WdmNet

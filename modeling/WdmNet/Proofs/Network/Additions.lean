import WdmNet.Network.Basic
import WdmNet.Proofs.Except
/-!
What the additions do.

Each addition checks its arguments, claims what it needs and then builds the new network in one
step. These lemmas read a successful addition back: the checks it passed and the network it
built. A new component gets the next handle of its kind and the name it was given; a new link
gets one span per configured span, with consecutive handles after the spans already there,
and claims each amplifier it names once, none that another link holds. A new ROADM claims the
amplifiers of its ports in the same way against the other ROADMs.

Main statements: `addTerminal_eq_ok`, `addAmplifier_eq_ok`, `addRoadm_eq_ok`, `addLink_eq_ok`.
-/

namespace WdmNet

/-- A new terminal has the handle and the name it was created with. -/
theorem Terminal.create_eq_ok {h : Nat} {name : String} {trxs : List Transceiver} {t : Terminal}
    (he : Terminal.create h name trxs = .ok t) : t.handle = h ∧ t.name = name := by
  unfold Terminal.create at he
  obtain ⟨_, -, he⟩ := Except.bind_eq_ok.mp he
  cases he
  exact ⟨rfl, rfl⟩

/-- A new amplifier has the handle and the name it was created with. -/
theorem Amplifier.create_eq_ok {h : Nat} {name : String} {cfg : AmplifierConfig} {a : Amplifier}
    (he : Amplifier.create h name cfg = .ok a) : a.handle = h ∧ a.name = name := by
  unfold Amplifier.create at he
  obtain ⟨-, he⟩ := Except.ite_throw_eq_ok he
  obtain ⟨_, -, he⟩ := Except.bind_eq_ok.mp he
  obtain ⟨_, -, he⟩ := Except.bind_eq_ok.mp he
  cases he
  exact ⟨rfl, rfl⟩

/-- A new span has the handle it was created with and no carriers yet. -/
theorem Span.create_eq_ok {h : Nat} {cfg : SpanConfig} {s : Span}
    (he : Span.create h cfg = .ok s) : s.handle = h ∧ s.signals = [] := by
  unfold Span.create at he
  obtain ⟨_, -, he⟩ := Except.bind_eq_ok.mp he
  cases he
  exact ⟨rfl, rfl⟩

namespace Network

variable {n : Network}

/-! ### Claiming amplifiers -/

/-- Claiming an amplifier for a link by name either claims nothing (the empty name) or puts in
front of the claimed list one amplifier that is not claimed yet and serves no link. -/
theorem claimLinkAmp_eq_ok {link amp : String} {claimed c : List Nat} {a : Option Nat}
    (he : n.claimLinkAmp link amp claimed = .ok (a, c)) :
    c = a.toList ++ claimed ∧ ∀ h, a = some h → h ∉ claimed ∧ n.ampOnLink.get? h = none := by
  unfold claimLinkAmp at he
  split at he
  · cases he
    exact ⟨rfl, fun _ h => nomatch h⟩
  · split at he
    · rename_i h _
      dsimp only at he
      split at he
      · cases he
      · rename_i hfree
        obtain ⟨hnew, he⟩ := Except.ite_throw_eq_ok he
        cases he
        refine ⟨rfl, fun h' hh => ?_⟩
        cases hh
        exact ⟨fun hm => hnew (List.contains_iff_mem.mpr hm),
          Option.eq_none_iff_forall_ne_some.mpr fun o ho => hfree o ho⟩
    · cases he

/-- What the loop over a ROADM's ports of one role has built after the ports `pre`: an
amplifier handle for each port, in order, claimed in front of the earlier claims, none of them
twice and none that another ROADM holds. -/
structure PortAmpsClaimed (n : Network) (c₀ : List Nat) (pre : List (Int × String))
    (out : List (Int × Nat)) (claimed : List Nat) : Prop where
  ports : out.map (·.1) = pre.map (·.1)
  claimed_eq : claimed = (out.map (·.2)).reverse ++ c₀
  nodup : claimed.Nodup
  free : ∀ p ∈ out, n.ampOnNode.get? p.2 = none

/-- Claiming the amplifiers of a ROADM's ports of one role: each port gets one amplifier that
no ROADM holds and that is not claimed yet, and the claims go in front of the earlier ones. -/
theorem claimPortAmps_eq_ok {name role : String} {ports : List (Int × String)} {c₀ claimed : List Nat}
    {out : List (Int × Nat)} (h₀ : c₀.Nodup)
    (he : n.claimPortAmps name role ports c₀ = .ok (out, claimed)) :
    PortAmpsClaimed n c₀ ports out claimed := by
  unfold claimPortAmps at he
  obtain ⟨⟨out', claimed'⟩, hloop, he⟩ := Except.bind_eq_ok.mp he
  cases he
  refine Except.forIn_invariant (fun pre s => PortAmpsClaimed n c₀ pre s.1 s.2) ?_ ports []
    ([], c₀) _ ⟨rfl, rfl, h₀, fun _ h => nomatch h⟩ hloop
  intro pre ⟨port, amp⟩ ⟨o, c⟩ r hI hr
  dsimp only at hI hr
  split at hr
  · cases hr
  · split at hr
    · rename_i h _
      split at hr
      · cases hr
      · rename_i hfree
        obtain ⟨hnew, hr⟩ := Except.ite_throw_eq_ok hr
        cases hr
        refine ⟨_, rfl, ⟨by simp [hI.ports], by simp [hI.claimed_eq], ?_, ?_⟩⟩
        · exact List.nodup_cons.mpr ⟨fun hm => hnew (List.contains_iff_mem.mpr hm), hI.nodup⟩
        · intro p hp
          rcases List.mem_append.mp hp with hp | hp
          · exact hI.free p hp
          · rw [List.mem_singleton] at hp
            subst hp
            exact hfree
    · cases hr

theorem get?_eq_none_of_not_contains {α β : Type} {cmp : α → α → Ordering} [Std.TransCmp cmp]
    {m : Std.TreeMap α β cmp} {k : α} (h : ¬m.contains k = true) : m.get? k = none := by
  rw [Std.TreeMap.get?_eq_getElem?]
  exact Std.TreeMap.getElem?_eq_none_of_contains_eq_false (Bool.eq_false_iff.mpr h)

/-! ### The four additions -/

theorem addTerminal_eq_ok {name : String} {trxs : List Transceiver} {n' : Network} {k : Nat}
    (he : n.addTerminal name trxs = .ok (n', k)) :
    n.nodeByName.get? name = none ∧ ∃ t, Terminal.create n.nodes.size name trxs = .ok t ∧
      n' = { n with nodes := n.nodes.push (.terminal t),
                    nodeByName := n.nodeByName.insert name t.handle } ∧ k = t.handle := by
  unfold addTerminal at he
  obtain ⟨-, he⟩ := Except.ite_throw_eq_ok he
  obtain ⟨hnew, he⟩ := Except.ite_throw_eq_ok he
  obtain ⟨t, ht, he⟩ := Except.bind_eq_ok.mp he
  cases he
  exact ⟨get?_eq_none_of_not_contains hnew, t, ht, rfl, rfl⟩

theorem addAmplifier_eq_ok {name : String} {cfg : AmplifierConfig} {n' : Network} {k : Nat}
    (he : n.addAmplifier name cfg = .ok (n', k)) :
    n.ampByName.get? name = none ∧ ∃ a, Amplifier.create n.amps.size name cfg = .ok a ∧
      n' = { n with amps := n.amps.push a, ampByName := n.ampByName.insert name a.handle } ∧
      k = a.handle := by
  unfold addAmplifier at he
  obtain ⟨-, he⟩ := Except.ite_throw_eq_ok he
  obtain ⟨hnew, he⟩ := Except.ite_throw_eq_ok he
  obtain ⟨a, ha, he⟩ := Except.bind_eq_ok.mp he
  cases he
  exact ⟨get?_eq_none_of_not_contains hnew, a, ha, rfl, rfl⟩

/-- A new ROADM is pushed with the amplifiers claimed for its ports in its tables, and the
amplifiers claimed for it are filed under its name. -/
theorem addRoadm_eq_ok {name : String} {cfg : RoadmConfig} {n' : Network} {k : Nat}
    (he : n.addRoadm name cfg = .ok (n', k)) :
    n.nodeByName.get? name = none ∧ ∃ pre boo c₁ claimed,
      n.claimPortAmps name "preamp" cfg.preamps [] = .ok (pre, c₁) ∧
      n.claimPortAmps name "boost" cfg.boosts c₁ = .ok (boo, claimed) ∧
      n' = { n with
        nodes := n.nodes.push (.roadm { Roadm.create n.nodes.size name cfg with
          preamps := pre.foldl (fun m p => m.insert p.1 p.2) {}
          boosts := boo.foldl (fun m p => m.insert p.1 p.2) {} })
        nodeByName := n.nodeByName.insert name n.nodes.size
        ampOnNode := claimed.foldl (fun m h => m.insert h name) n.ampOnNode } ∧
      k = n.nodes.size := by
  unfold addRoadm at he
  obtain ⟨-, he⟩ := Except.ite_throw_eq_ok he
  obtain ⟨hnew, he⟩ := Except.ite_throw_eq_ok he
  obtain ⟨-, he⟩ := Except.ite_throw_eq_ok he
  obtain ⟨⟨pre, c₁⟩, hpre, he⟩ := Except.bind_eq_ok.mp he
  obtain ⟨⟨boo, claimed⟩, hboo, he⟩ := Except.bind_eq_ok.mp he
  cases he
  exact ⟨get?_eq_none_of_not_contains hnew, pre, boo, c₁, claimed, hpre, hboo, rfl, rfl⟩

/-- What the loop over a new link's spans has built after the entries `pre` (each a span
configuration with its amplifier name, and its index): one span per entry, whose handle is the
entry's index counted after the network's spans and which carries nothing yet; a hop through
each; their total length; and the amplifiers claimed so far, in front of the earlier claims,
none twice and none on another link. -/
structure SpansBuilt (n : Network) (c₀ : List Nat) (pre : List ((SpanConfig × String) × Nat))
    (claimed : List Nat) (spans : Array Span) (hops : List Hop) (length : Float) : Prop where
  handles : spans.toList.map (·.handle) = pre.map (n.spans.size + ·.2)
  hops_span : hops.map (·.span) = spans.toList.map (·.handle)
  length_eq : length = (spans.toList.map (·.config.lengthKm)).foldl (· + ·) 0
  claimed_eq : claimed = (hops.filterMap (·.amplifier)).reverse ++ c₀
  nodup : claimed.Nodup
  free : ∀ a ∈ claimed, n.ampOnLink.get? a = none
  fresh : ∀ s ∈ spans, s.signals = []

/-- A new link gets a span for each configured span, numbered after the spans already there,
and a hop through each with its amplifier; it claims its boost and those amplifiers once each,
none that another link holds, files them under its name and takes the two ports. -/
theorem addLink_eq_ok {cfg : LinkConfig} {n' : Network} {k : Nat}
    (he : n.addLink cfg = .ok (n', k)) :
    ∃ src dst name boost c₀ claimed spans hops length raman,
      n.nodeByName.get? cfg.src = some src ∧ n.nodeByName.get? cfg.dst = some dst ∧
      name = (if cfg.name.isEmpty then cfg.src ++ "-" ++ cfg.dst else cfg.name) ∧
      n.linkByName.get? name = none ∧
      n.outLinks.get? ⟨src, cfg.outPort⟩ = none ∧ n.inLinks.get? ⟨dst, cfg.inPort⟩ = none ∧
      n.claimLinkAmp name cfg.boost [] = .ok (boost, c₀) ∧
      SpansBuilt n c₀ cfg.spans.zipIdx claimed spans hops length ∧
      n' = { n with
        spans := n.spans ++ spans
        ampOnLink := claimed.foldl (fun m h => m.insert h name) n.ampOnLink
        links := n.links.push ⟨n.links.size, name, src, dst, cfg.outPort, cfg.inPort, boost, hops,
          raman, length, cfg.src, cfg.dst⟩
        linkByName := n.linkByName.insert name n.links.size
        outLinks := n.outLinks.insert ⟨src, cfg.outPort⟩ n.links.size
        inLinks := n.inLinks.insert ⟨dst, cfg.inPort⟩ n.links.size } ∧
      k = n.links.size := by
  unfold addLink at he
  split at he
  · rename_i src hsrc
    split at he
    · rename_i dst hdst
      dsimp only at he
      generalize hname : (if cfg.name.isEmpty = true then cfg.src ++ "-" ++ cfg.dst else cfg.name) = name at he
      obtain ⟨hnew, he⟩ := Except.ite_throw_eq_ok he
      obtain ⟨-, he⟩ := Except.ite_throw_eq_ok he
      split at he
      · cases he
      rename_i hout
      split at he
      · cases he
      rename_i hin
      obtain ⟨raman, -, he⟩ := Except.bind_eq_ok.mp he
      obtain ⟨⟨boost, c₀⟩, hboost, he⟩ := Except.bind_eq_ok.mp he
      obtain ⟨⟨claimed, spans, hops, length⟩, hloop, he⟩ := Except.bind_eq_ok.mp he
      cases he
      obtain ⟨hc₀, hfree₀⟩ := claimLinkAmp_eq_ok hboost
      -- the spans are built by a loop whose invariant is `SpansBuilt`
      have hbuilt : SpansBuilt n c₀ cfg.spans.zipIdx claimed spans hops length := by
        refine Except.forIn_invariant
          (fun pre s => SpansBuilt n c₀ pre s.1 s.2.1 s.2.2.1 s.2.2.2) ?_ cfg.spans.zipIdx []
          (c₀, #[], [], 0) _ ⟨rfl, rfl, rfl, rfl, ?_, ?_, by simp⟩ hloop
        · intro pre ⟨⟨spec, amp⟩, i⟩ ⟨c, sps, hs, len⟩ r hI hr
          dsimp only at hI hr
          split at hr
          · rename_i sp hsp
            obtain ⟨sp', hsp', hr⟩ := Except.bind_eq_ok.mp hr
            cases hsp'
            obtain ⟨⟨a, c'⟩, ha, hr⟩ := Except.bind_eq_ok.mp hr
            cases hr
            obtain ⟨hc', hfree⟩ := claimLinkAmp_eq_ok ha
            obtain ⟨hh, hnew⟩ := Span.create_eq_ok hsp
            refine ⟨_, rfl, ⟨?_, ?_, ?_, ?_, ?_, ?_, ?_⟩⟩
            · simp [hI.handles, hh]
            · simp [hI.hops_span]
            · simp [hI.length_eq]
            · cases a <;> simp [hc', hI.claimed_eq]
            · rw [hc']
              cases a with
              | none => exact hI.nodup
              | some h => exact List.nodup_cons.mpr ⟨(hfree h rfl).1, hI.nodup⟩
            · intro x hx
              rw [hc'] at hx
              rcases List.mem_append.mp hx with hx | hx
              · cases a with
                | none => cases hx
                | some h =>
                  rw [Option.toList_some, List.mem_singleton] at hx
                  rw [hx]
                  exact (hfree h rfl).2
              · exact hI.free x hx
            · intro s hs
              rcases Array.mem_push.mp hs with hs | rfl
              · exact hI.fresh s hs
              · exact hnew
          · cases hr
        · rw [hc₀]
          cases boost <;> simp
        · intro x hx
          rw [hc₀] at hx
          cases boost with
          | none => cases hx
          | some h =>
            rw [List.append_nil, Option.toList_some, List.mem_singleton] at hx
            rw [hx]
            exact (hfree₀ h rfl).2
      exact ⟨src, dst, name, boost, c₀, claimed, spans, hops, length, raman, hsrc, hdst, rfl,
        get?_eq_none_of_not_contains hnew,
        Option.eq_none_iff_forall_ne_some.mpr fun o ho => hout o ho,
        Option.eq_none_iff_forall_ne_some.mpr fun o ho => hin o ho, hboost, hbuilt, rfl, rfl⟩
    · cases he
  · cases he

end Network

end WdmNet

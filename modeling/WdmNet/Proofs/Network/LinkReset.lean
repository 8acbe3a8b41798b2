import WdmNet.Proofs.Pass.Frame
import WdmNet.Proofs.Except
/-!
What resetting a link does.

`Network.resetLink` visits the working sets of the link's spans and amplifiers, makes each
signal held there forget the link, and then empties the working sets and resets the
amplifiers. So every component of the link is left without carriers, whatever the link looked
like, and every signal that no component of the link held is left exactly as it was.

The second half is the whole story: a signal whose path crosses the link but that lost its
place in the link's working sets (the loser of a collision at the ROADM before the link) keeps
the link on its path. Which signals forget the link depends on the working sets, not on the
paths.

Main statement: `Network.link_reset_forgets_held_signals_only`.
-/

namespace WdmNet

/-- The locations of a link: its boost, then each span and the amplifier after it. -/
theorem Link.mem_locations {l : Link} {loc : Location} :
    loc ∈ l.locations ↔ (∃ b, l.boost = some b ∧ loc = ⟨.amplifier, b, 0⟩) ∨
      ∃ h ∈ l.hops, loc = ⟨.span, h.span, 0⟩ ∨ ∃ a, h.amplifier = some a ∧ loc = ⟨.amplifier, a, 0⟩ := by
  unfold Link.locations
  rw [List.mem_append, List.mem_flatMap]
  apply or_congr
  · cases l.boost <;> simp
  · refine exists_congr fun h => and_congr_right fun _ => ?_
    rw [List.mem_cons]
    cases h.amplifier <;> simp

namespace Network

variable {n : Network}

theorem signal_modifySignal_ne {j i : Nat} (hji : j ≠ i) (g : Signal → Signal) :
    (n.modifySignal j g).signal i = n.signal i := by
  unfold signal modifySignal
  rw [Array.getElem?_modify, if_neg hji]

theorem componentSignals_of_components {m : Network} (hs : m.spans = n.spans) (ha : m.amps = n.amps)
    (loc : Location) : m.componentSignals loc = n.componentSignals loc := by
  unfold componentSignals
  rw [hs, ha]

/-- Emptying a span's working set empties it and keeps every empty component empty. -/
theorem componentSignals_clearSpan {j : Nat} {loc : Location}
    (h : n.componentSignals loc = [] ∨ loc = ⟨.span, j, 0⟩) :
    (n.modifySpan j fun s => { s with signals := [] }).componentSignals loc = [] := by
  obtain ⟨k, id, p⟩ := loc
  cases k
  case span =>
    simp only [componentSignals, modifySpan, Array.getElem?_modify]
    split
    · rcases n.spans[id.toNat]? <;> rfl
    · rename_i hj
      -- another span: it was empty already
      refine h.resolve_right fun hl => hj ?_
      cases hl
      rfl
  case amplifier => exact h.resolve_right (by simp)
  all_goals rfl

/-- Resetting an amplifier empties its working set and keeps every empty component empty. -/
theorem componentSignals_resetAmp {a : Nat} {loc : Location}
    (h : n.componentSignals loc = [] ∨ loc = ⟨.amplifier, a, 0⟩) :
    (n.modifyAmp a Amplifier.reset).componentSignals loc = [] := by
  obtain ⟨k, id, p⟩ := loc
  cases k
  case amplifier =>
    simp only [componentSignals, modifyAmp, Array.getElem?_modify]
    split
    · rcases n.amps[id.toNat]? <;> rfl
    · rename_i hj
      -- another amplifier: it was empty already
      refine h.resolve_right fun hl => hj ?_
      cases hl
      rfl
  case span => exact h.resolve_right (by simp)
  all_goals rfl

/-- A run of steps, each emptying some components and keeping empty ones empty, leaves every
component it reached empty. -/
theorem foldl_componentSignals_eq_nil {α : Type} (l : List α) (step : Network → α → Network)
    (P : α → Location → Prop)
    (hstep : ∀ m a loc, m.componentSignals loc = [] ∨ P a loc → (step m a).componentSignals loc = [])
    (m : Network) (loc : Location) (h : m.componentSignals loc = [] ∨ ∃ a ∈ l, P a loc) :
    (l.foldl step m).componentSignals loc = [] := by
  induction l generalizing m with
  | nil => exact h.resolve_right fun ⟨_, ha, _⟩ => absurd ha List.not_mem_nil
  | cons a l ih =>
    refine ih (step m a) ?_
    rcases h with h | ⟨a', ha', hP⟩
    · exact .inl (hstep m a loc (.inl h))
    · rcases List.mem_cons.mp ha' with rfl | ha'
      · exact .inl (hstep m a' loc (.inr hP))
      · exact .inr ⟨a', ha', hP⟩

theorem foldl_signals {α : Type} (l : List α) (step : Network → α → Network)
    (hstep : ∀ m a, (step m a).signals = m.signals) (m : Network) :
    (l.foldl step m).signals = m.signals := by
  induction l generalizing m with
  | nil => rfl
  | cons a l ih => exact (ih (step m a)).trans (hstep m a)

/-- Making the signals held at the link's locations forget them changes no component, and no
signal that none of them held. -/
theorem forgetLink_spec (l : Link) {i : Nat}
    (hi : ∀ loc ∈ l.locations, ∀ c ∈ n.componentSignals loc, c.sig ≠ i) :
    let X := l.locations.foldl (fun n loc =>
      (n.componentSignals loc).foldl (fun n c => n.modifySignal c.sig (·.forget loc)) n) n
    X.spans = n.spans ∧ X.amps = n.amps ∧ X.signal i = n.signal i := by
  refine List.foldlRecOn (motive := fun Y : Network =>
    Y.spans = n.spans ∧ Y.amps = n.amps ∧ Y.signal i = n.signal i) _ _ ⟨rfl, rfl, rfl⟩ ?_
  intro Y ⟨hs, ha, hsig⟩ loc hloc
  -- the carriers visited are those of `n`: forgetting changes signals only
  rw [componentSignals_of_components hs ha]
  refine List.foldlRecOn (motive := fun Z : Network =>
    Z.spans = n.spans ∧ Z.amps = n.amps ∧ Z.signal i = n.signal i) _ _ ⟨hs, ha, hsig⟩ ?_
  intro Z ⟨hs', ha', hsig'⟩ c hc
  exact ⟨hs', ha', (signal_modifySignal_ne (hi loc hloc c hc) _).trans hsig'⟩

/-- Resetting a link forgets it in the signals it holds, and only in those. It succeeds
whenever the link exists; afterwards no span or amplifier of the link holds a carrier, and
every signal that none of them held is as it was, even when its path crosses the link. -/
theorem link_reset_forgets_held_signals_only {name : String} {l : Link} (hl : n.link name = .ok l) :
    ∃ n', n.resetLink name = .ok n' ∧
      (∀ loc ∈ l.locations, n'.componentSignals loc = []) ∧
      ∀ i, (∀ loc ∈ l.locations, ∀ c ∈ n.componentSignals loc, c.sig ≠ i) → n'.signal i = n.signal i := by
  refine ⟨_, by simp only [resetLink, hl, bind, Except.bind, pure, Except.pure]; rfl, ?_, ?_⟩
  · intro loc hloc
    -- the hops empty their spans and amplifiers, after the boost is reset
    refine foldl_componentSignals_eq_nil l.hops _
      (fun h loc => loc = ⟨.span, h.span, 0⟩ ∨ ∃ a, h.amplifier = some a ∧ loc = ⟨.amplifier, a, 0⟩)
      (fun m h loc hm => ?_) _ loc ?_
    · split
      · rename_i a ha
        refine componentSignals_resetAmp ?_
        rcases hm with hm | hm | ⟨a', ha', rfl⟩
        · exact .inl (componentSignals_clearSpan (.inl hm))
        · exact .inl (componentSignals_clearSpan (.inr hm))
        · rw [ha] at ha'
          cases ha'
          exact .inr rfl
      · rename_i ha
        rcases hm with hm | hm | ⟨a', ha', rfl⟩
        · exact componentSignals_clearSpan (.inl hm)
        · exact componentSignals_clearSpan (.inr hm)
        · rw [ha] at ha'
          cases ha'
    · rcases Link.mem_locations.mp hloc with ⟨b, hb, rfl⟩ | hhop
      · left
        simp only [hb]
        exact componentSignals_resetAmp (.inr rfl)
      · exact .inr hhop
  · intro i hi
    obtain ⟨-, -, hsig⟩ := forgetLink_spec l hi
    -- resetting amplifiers and spans leaves every signal alone
    unfold signal at hsig ⊢
    rw [foldl_signals _ _ fun m h => ?_]
    · split <;> exact hsig
    · split <;> rfl

/-- A network holding one link, of one span. -/
theorem link_reset_on_one_span :
    ({ Network.empty 0 with
        spans := #[default]
        links := #[{ (default : Link) with name := "l", hops := [⟨0, none⟩] }]
        linkByName := (∅ : Std.TreeMap String Nat).insert "l" 0 } : Network).link "l" =
      .ok { (default : Link) with name := "l", hops := [⟨0, none⟩] } ∧
    ∃ n', ({ Network.empty 0 with
        spans := #[default]
        links := #[{ (default : Link) with name := "l", hops := [⟨0, none⟩] }]
        linkByName := (∅ : Std.TreeMap String Nat).insert "l" 0 } : Network).resetLink "l" = .ok n' ∧
      (∀ loc ∈ ({ (default : Link) with name := "l", hops := [⟨0, none⟩] } : Link).locations,
        n'.componentSignals loc = []) ∧
      ∀ i, (∀ loc ∈ ({ (default : Link) with name := "l", hops := [⟨0, none⟩] } : Link).locations,
        ∀ c ∈ ({ Network.empty 0 with
          spans := #[default]
          links := #[{ (default : Link) with name := "l", hops := [⟨0, none⟩] }]
          linkByName := (∅ : Std.TreeMap String Nat).insert "l" 0 } : Network).componentSignals loc,
          c.sig ≠ i) →
        n'.signal i = ({ Network.empty 0 with
          spans := #[default]
          links := #[{ (default : Link) with name := "l", hops := [⟨0, none⟩] }]
          linkByName := (∅ : Std.TreeMap String Nat).insert "l" 0 } : Network).signal i :=
  ⟨rfl, link_reset_forgets_held_signals_only rfl⟩

end Network

end WdmNet

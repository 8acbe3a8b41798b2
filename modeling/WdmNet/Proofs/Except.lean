/-!
Taking successful runs of `Except` computations apart.

An operation of the model that can be refused is written in the `Except` monad: it checks its
arguments, throws at the first check that fails, and builds its result at the end. A run that
succeeded therefore passed every check on its way. These lemmas read that back: a bind succeeded
when both of its halves did, a thrown failure never succeeds, and a loop that throws or moves on
at each element succeeded only if it moved on at every element.
-/

namespace WdmNet

theorem Except.bind_eq_ok {ε α β : Type} {x : Except ε α} {f : α → Except ε β} {b : β} :
    x >>= f = .ok b ↔ ∃ a, x = .ok a ∧ f a = .ok b := by
  cases x with
  | error e => exact ⟨(fun h => nomatch h), (fun ⟨_, h, _⟩ => nomatch h)⟩
  | ok a => exact ⟨fun h => ⟨a, rfl, h⟩, fun ⟨_, h, hf⟩ => by cases h; exact hf⟩

theorem Except.eq_ok_getD {ε α : Type} {x : Except ε α} (d : α) (h : x.isOk = true) :
    x = .ok (x.toOption.getD d) := by
  cases x with
  | error e => exact absurd h (by simp [Except.isOk, Except.toBool])
  | ok a => rfl

/-- A check that throws when its condition holds lets a successful run through only when the
condition fails. -/
theorem Except.ite_throw_eq_ok {ε β γ : Type} {c : Prop} [Decidable c] {e : ε}
    {k : γ → Except ε β} {x : Except ε β} {b : β}
    (h : (if c then throw e >>= k else x) = .ok b) : ¬c ∧ x = .ok b := by
  by_cases hc : c
  · rw [if_pos hc] at h
    cases h
  · rw [if_neg hc] at h
    exact ⟨hc, h⟩

/-- A loop that never stops early keeps an invariant of the elements it has done and its state:
if every successful step moves on and extends the invariant by the element it did, a
successful loop ends with the invariant over the whole list. -/
theorem Except.forIn_invariant {ε α σ : Type} {body : α → σ → Except ε (ForInStep σ)}
    (I : List α → σ → Prop)
    (hstep : ∀ pre a s r, I pre s → body a s = .ok r → ∃ s', r = .yield s' ∧ I (pre ++ [a]) s') :
    ∀ (l pre : List α) (s₀ s : σ), I pre s₀ → forIn l s₀ body = .ok s → I (pre ++ l) s
  | [], pre, s₀, s, h₀, h => by
    cases h
    simpa using h₀
  | a :: l, pre, s₀, s, h₀, h => by
    rw [List.forIn_cons] at h
    obtain ⟨r, hr, h⟩ := Except.bind_eq_ok.mp h
    obtain ⟨s', rfl, h₁⟩ := hstep pre a s₀ r h₀ hr
    simpa using Except.forIn_invariant I hstep l (pre ++ [a]) s' s h₁ h

/-- A loop whose body never stops it early succeeds only if the body moved on at every
element. -/
theorem Except.forIn_eq_ok {ε α : Type} {l : List α} {body : α → Unit → Except ε (ForInStep Unit)}
    (hbody : ∀ a, body a () ≠ .ok (.done ())) {u : Unit} (h : forIn l () body = .ok u) :
    ∀ a ∈ l, body a () = .ok (.yield ()) := by
  induction l with
  | nil => simp
  | cons a l ih =>
    rw [List.forIn_cons] at h
    obtain ⟨s, hs, h⟩ := Except.bind_eq_ok.mp h
    cases s with
    | done => exact absurd hs (hbody a)
    | yield =>
      intro b hb
      rcases List.mem_cons.mp hb with rfl | hb
      · exact hs
      · exact ih h b hb

end WdmNet

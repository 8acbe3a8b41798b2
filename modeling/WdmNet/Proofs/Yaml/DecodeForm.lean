import WdmNet.Proofs.Yaml.Scalars
import WdmNet.Yaml.Document
/-!
What the YAML reader of values produces.

The YAML reader decodes a node graph into a value step by step, in a state monad that can
stop. `DecodeM.Yields P x` says that every run of `x` that succeeds, from any state, gives a
result satisfying `P`; it is closed under `pure`, `bind` and loops (`Yields.forIn`), and a step
that stops yields anything.

* **`DecodeM.node_sound`**: decoding a node at any shape into a value of the shape gives, when
  it succeeds, a value of the shape, whatever the graph: scalars resolve to strings, integers
  within 64 bits, floats and booleans; sequences keep items of the item shape; map keys are
  integers within 64 bits, each bound once; merges and aliases decode into the same value.
* **`decodeFirst_sound`**: the first document of any text decodes, when it does, into a value
  of the readers' form, the form `Description.ofValue` reads.
-/

namespace WdmNet.Yaml
open Schema Value

namespace DecodeM

/-- Every successful run of a step, from any state, gives a result satisfying `P`. -/
def Yields {α : Type} (P : α → Prop) (x : DecodeM α) : Prop :=
  ∀ d a d', x.run d = .ok (a, d') → P a

section Yields

variable {α β : Type} {P : β → Prop} {Q : α → Prop}

theorem Yields.pure {b : β} (h : P b) : Yields P (Pure.pure b) := by
  intro d b' d' hx
  cases hx
  exact h

theorem Yields.bind {x : DecodeM α} {f : α → DecodeM β} (hx : Yields Q x)
    (hf : ∀ a, Q a → Yields P (f a)) : Yields P (x >>= f) := by
  intro d b d' h
  rw [StateT.run_bind] at h
  obtain ⟨⟨a, d₁⟩, h₁, h₂⟩ := Except.bind_eq_ok.mp h
  exact hf a (hx d a d₁ h₁) d₁ b d' h₂

theorem Yields.any (x : DecodeM α) : Yields (fun _ => True) x := fun _ _ _ _ => trivial

theorem Yields.mono {x : DecodeM α} (hx : Yields Q x) (h : ∀ a, Q a → R a) : Yields R x :=
  fun d a d' hr => h a (hx d a d' hr)

theorem Yields.bind_any {x : DecodeM α} {f : α → DecodeM β} (hf : ∀ a, Yields P (f a)) :
    Yields P (x >>= f) :=
  Yields.bind (Yields.any x) fun a _ => hf a

theorem Yields.stop (msg : String) : Yields P (DecodeM.stop msg) := by
  intro d b d' h
  cases h

end Yields

theorem Yields.stop_bind {msg : String} {f : α → DecodeM β} :
    Yields P (DecodeM.stop msg >>= f) :=
  Yields.bind (Q := fun _ => False) (Yields.stop msg) fun _ h => h.elim

theorem Yields.forIn {γ : Type} {I : β → Prop} {f : γ → β → DecodeM (ForInStep β)} :
    ∀ {l : List γ} {init : β}, I init → (∀ a ∈ l, ∀ b, I b → Yields (fun r => I r.value) (f a b)) →
      Yields I (forIn l init f)
  | [], _, hinit, _ => Yields.pure hinit
  | a :: l, init, hinit, hf => by
    rw [List.forIn_cons]
    refine Yields.bind (hf a List.mem_cons_self init hinit) fun r hr => ?_
    cases r with
    | done b => exact Yields.pure hr
    | yield b => exact Yields.forIn hr fun a' ha' => hf a' (List.mem_cons_of_mem _ ha')

theorem truncateToInt64_inInt64 (x : Float) : InInt64 (truncateToInt64 x) := by
  unfold truncateToInt64
  split
  · have h1 := Int64.le_toInt x.toInt64
    have h2 := Int64.toInt_lt x.toInt64
    simp only [InInt64, Nat.pow_eq]
    push_cast
    omega
  · exact ⟨le_refl _, by decide⟩

/-- The integers a scalar node resolves to are within 64 bits. -/
theorem resolveNode_int (i : Nat) :
    Yields (fun p : String × Scalar => ∀ k, p.2 = .int k → InInt64 k) (resolveNode i) := by
  refine Yields.bind (Yields.any _) fun n _ => ?_
  split
  · exact Yields.stop _
  · rename_i tag r hr
    split
    · split
      · split
        · exact Yields.pure fun k hk => by cases hk
        · exact Yields.stop _
      · exact Yields.pure fun k hk => by
          subst hk
          exact resolve_int hr
    · exact Yields.pure fun k hk => by
        subst hk
        exact resolve_int hr

variable {ok : Float → Prop}

/-- Null clears a value to an absent one of its shape, or leaves it. -/
theorem null_sound {s : Shape} {cur : Value} (hcur : Sound ok s cur) : Sound ok s (null s cur).1 := by
  unfold null
  split
  · exact .none _
  · exact .nilList _
  · exact .nilMap _
  · exact hcur

/-- A scalar decodes into a value of the shape, or leaves the current one. -/
theorem scalar_sound {s : Shape} {i : Nat} {cur : Value} (hcur : Sound (fun _ => True) s cur) :
    Yields (fun r => Sound (fun _ => True) s r.1) (scalar s i cur) := by
  unfold scalar
  refine Yields.bind (Yields.any _) fun n _ => ?_
  refine Yields.bind (resolveNode_int i) fun p hp => ?_
  obtain ⟨tag, r⟩ := p
  have hfail : Yields (fun r => Sound (fun _ => True) s r.1)
      (do mismatch i tag (outName s); Pure.pure (cur, false)) :=
    Yields.bind (Yields.any _) fun _ _ => Yields.pure hcur
  dsimp only
  split
  · exact Yields.pure (null_sound hcur)
  · -- a value of the shape, or the current value where the scalar does not fit
    split
    · exact Yields.pure (.str _ _)
    · exact Yields.pure (.str _ _)
    · exact Yields.pure (.int (hp _ rfl))
    · split
      · exact Yields.pure (.int (truncateToInt64_inInt64 _))
      · exact hfail
    · exact Yields.pure (.float trivial)
    · exact Yields.pure (.float trivial)
    · exact Yields.pure (.float trivial)
    · exact Yields.pure (.bool _)
    · split
      · exact Yields.pure (.bool _)
      · exact hfail
    · exact hfail

/-- Decoding at any shape into a value of the shape gives, when it succeeds, a value of the
shape. -/
def DecodesSound (dec : Decode) : Prop :=
  ∀ s c cur, Sound (fun _ => True) s cur → Yields (fun r => Sound (fun _ => True) s r.1) (dec s c cur)

theorem sequence_sound {dec : Decode} (hdec : DecodesSound dec) {s : Shape} {i : Nat} {cur : Value}
    (hcur : Sound (fun _ => True) s cur) :
    Yields (fun r => Sound (fun _ => True) s r.1) (sequence dec s i cur) := by
  unfold sequence
  refine Yields.bind (Yields.any _) fun n _ => ?_
  split
  · rename_i s
    -- the items kept are each of the item shape
    refine Yields.bind (Q := fun items : Array Value => ∀ v ∈ items.toList, Sound (fun _ => True) s v)
      ?_ fun items hitems => Yields.pure (.list hitems fun _ h => absurd h List.not_mem_nil)
    rw [← Array.forIn_toList]
    refine Yields.forIn (fun _ h => by simp at h) fun c _ items hitems => ?_
    refine Yields.bind (hdec s c _ (Sound.zero trivial s)) fun r hr => ?_
    obtain ⟨v, ok⟩ := r
    dsimp only
    split
    · exact Yields.pure fun w hw => by
        simp only [ForInStep.value, Array.toList_push, List.mem_append, List.mem_singleton] at hw
        rcases hw with hw | rfl
        · exact hitems w hw
        · exact hr
    · exact Yields.pure hitems
  · exact Yields.bind (Yields.any _) fun _ _ => Yields.pure hcur

theorem merge_sound {dec : Decode} (hdec : DecodesSound dec) {fuel : Nat} {s : Shape}
    {parent m : Nat} {v : Value} (hv : Sound (fun _ => True) s v) :
    Yields (Sound (fun _ => True) s) (merge dec fuel s parent m v) := by
  unfold merge
  dsimp only
  refine Yields.bind_any fun saved => ?_
  -- the keys of the parent are noted first when no merge is under way; they do not matter here
  split
  on_goal 1 => refine Yields.bind_any fun _ => Yields.bind_any fun _ => Yields.bind_any fun _ => ?_
  all_goals
    -- what the merge leaves is the value, or what decoding the merged mappings into it gave
    have hfin : ∀ w, Sound (fun _ => True) s w → ∀ {γ : Type} (x : DecodeM γ),
        Yields (Sound (fun _ => True) s) (x >>= fun _ => Pure.pure w) :=
      fun w hw _ _ => Yields.bind_any fun _ => Yields.pure hw
    refine Yields.bind_any fun mn => ?_
    split
    · exact Yields.bind (hdec s m v hv) fun r hr => by
        first
          | exact hfin r.1 hr _
          | exact Yields.pure hr
    · refine Yields.bind_any fun _ => ?_
      split
      · exact Yields.stop_bind
      · exact Yields.bind (hdec s m v hv) fun r hr => by
          first
            | exact hfin r.1 hr _
            | exact Yields.pure hr
    · rw [← Array.forIn_toList]
      refine Yields.bind (Yields.forIn hv fun c _ w hw => ?_) fun w hw => by
        first
          | exact hfin w hw _
          | exact Yields.pure hw
      refine Yields.bind_any fun cn => ?_
      split
      · refine Yields.bind_any fun _ => ?_
        split
        · exact Yields.stop_bind
        · exact Yields.bind (hdec s c w hw) fun r hr => Yields.pure hr
      · split
        · exact Yields.stop_bind
        · exact Yields.bind (hdec s c w hw) fun r hr => Yields.pure hr
    · exact Yields.stop_bind

theorem record_sound {dec : Decode} (hdec : DecodesSound dec) {fuel : Nat} {t : Ty} {i : Nat}
    {cur : Value} (hcur : Sound (fun _ => True) (.record t) cur) :
    Yields (fun r => Sound (fun _ => True) (.record t) r.1) (record dec fuel t i cur) := by
  unfold record
  dsimp only
  refine Yields.bind_any fun n => Yields.bind_any fun d => Yields.bind_any fun _ => ?_
  rw [Std.Legacy.Range.forIn_eq_forIn_range']
  -- the record stays of its type through the loop: fields are only ever set to values of their
  -- shapes
  refine Yields.bind (Yields.forIn (I := fun st => Sound (fun _ => True) (.record t) st.2.2.2) hcur
    fun k _ st hst => ?_) fun st hst => ?_
  · refine Yields.bind_any fun _ => ?_
    split
    · exact Yields.pure hst
    · refine Yields.bind_any fun _ => ?_
      split
      · exact Yields.pure hst
      · split
        on_goal 1 => split
        on_goal 1 => exact Yields.pure hst
        all_goals
          refine Yields.bind_any fun _ => ?_
          split
          · rename_i f hfind
            have hf := List.mem_of_find?_eq_some hfind
            split
            · exact Yields.bind_any fun _ => Yields.pure hst
            · exact Yields.bind (hdec _ _ _ (hst.fill trivial hf)) fun r hr => Yields.pure (hst.set hf hr)
          · exact Yields.bind_any fun _ => Yields.pure hst
  · refine Yields.bind_any fun _ => ?_
    split
    · exact Yields.bind (merge_sound hdec hst) fun w hw => Yields.pure hw
    · exact Yields.pure hst

/-- The reader of YAML maps binds keys as the reader of JSON maps does. -/
theorem setEntry_eq_bindKey (es : List (Int × Value)) (k : Int) (x : Value) :
    setEntry es k x = bindKey es k x := by
  rfl

theorem intMap_sound {dec : Decode} (hdec : DecodesSound dec) {fuel : Nat} {s : Shape} {i : Nat}
    {cur : Value} (hcur : Sound (fun _ => True) (.intMap s) cur) :
    Yields (fun r => Sound (fun _ => True) (.intMap s) r.1) (intMap dec fuel s i cur) := by
  unfold intMap
  dsimp only
  refine Yields.bind_any fun n => Yields.bind_any fun d => Yields.bind_any fun _ => ?_
  rw [Std.Legacy.Range.forIn_eq_forIn_range']
  obtain ⟨hnd, hkeys, hvals⟩ := Sound.entries_of_get (.inr hcur)
  -- the entries stay those of a map of the shape: keys are integers within 64 bits, each bound
  -- once, to values of the item shape
  refine Yields.bind (Yields.forIn (I := fun st => Sound (fun _ => True) (.intMap s) (.map st.2.1))
    (.map hnd hkeys hvals) fun k _ st hst => ?_) fun st hst => ?_
  · refine Yields.bind_any fun _ => ?_
    split
    · exact Yields.pure hst
    · refine Yields.bind (hdec .int _ _ (.int ⟨by decide, by decide⟩)) fun kv hkv => ?_
      have hkey := Sound.inInt64_asInt (.inr hkv)
      split
      · exact Yields.pure hst
      · split
        on_goal 1 => split
        on_goal 1 => exact Yields.pure hst
        all_goals
          refine Yields.bind (hdec s _ _ (Sound.zero trivial s)) fun x hx => Yields.bind_any fun _ => ?_
          split
          · exact Yields.pure (by rw [setEntry_eq_bindKey]; exact hst.bindKey hkey hx)
          · exact Yields.pure hst
  · refine Yields.bind_any fun _ => ?_
    split
    · exact Yields.bind (merge_sound hdec hst) fun w hw => Yields.pure hw
    · exact Yields.pure hst

theorem mapping_sound {dec : Decode} (hdec : DecodesSound dec) {fuel : Nat} {s : Shape} {i : Nat}
    {cur : Value} (hcur : Sound (fun _ => True) s cur) :
    Yields (fun r => Sound (fun _ => True) s r.1) (mapping dec fuel s i cur) := by
  unfold mapping
  refine Yields.bind_any fun _ => ?_
  split
  · exact Yields.pure hcur
  · split
    · cases hcur with
      | record hfs => exact record_sound hdec (.record hfs)
    · exact intMap_sound hdec hcur
    · exact Yields.bind_any fun _ => Yields.pure hcur

theorem node_sound : ∀ fuel, DecodesSound (node fuel)
  | 0, _, _, _, hcur => by
    unfold node
    exact Yields.pure hcur
  | fuel + 1, s, i, cur, hcur => by
    unfold node
    refine Yields.bind_any fun _ => Yields.bind_any fun n => ?_
    split
    · -- a document decodes its one child
      split
      · exact Yields.bind (node_sound fuel s _ cur hcur) fun r hr => Yields.pure hr
      · exact Yields.pure hcur
    · -- an alias decodes its target
      exact Yields.bind_any fun _ => Yields.bind (node_sound fuel s _ cur hcur) fun r hr =>
        Yields.bind_any fun _ => Yields.pure hr
    · -- any other node decodes into its shape; an optional shape is read as its inner shape
      -- unless the node is null
      cases s
      case opt s =>
        dsimp only
        have hs := hcur.unwrap trivial
        split <;> split
        · exact scalar_sound hcur
        · exact (scalar_sound hs).mono fun r hr => .some hr
        · exact sequence_sound (node_sound fuel) hcur
        · exact (sequence_sound (node_sound fuel) hs).mono fun r hr => .some hr
        · exact mapping_sound (node_sound fuel) hcur
        · exact (mapping_sound (node_sound fuel) hs).mono fun r hr => .some hr
      all_goals
        dsimp only
        split
        · exact scalar_sound hcur
        · exact sequence_sound (node_sound fuel) hcur
        · exact mapping_sound (node_sound fuel) hcur

end DecodeM

/-- A document decodes, when it does, into a value of the readers' form. -/
theorem decodeDocument_sound {nodes : Array Node} {root : Nat} {t : Ty} {v : Value}
    (h : decodeDocument nodes root t = .ok v) : Sound (fun _ => True) (.record t) v := by
  unfold decodeDocument at h
  dsimp only at h
  split at h
  · cases h
  · rename_i d hrun
    split at h
    · cases h
      exact DecodeM.node_sound _ _ _ _ (Sound.zero trivial (.record t)) _ _ _ hrun
    · cases h

/-- The first document of a text decodes, when it does, into a value of the readers' form. -/
theorem decodeFirst_sound {t : Ty} {text : String} {v : Value} (h : decodeFirst t text = .ok v) :
    Sound (fun _ => True) (.record t) v := by
  unfold decodeFirst at h
  split at h
  · cases h
  · cases h
    exact Sound.zero trivial (.record t)
  · exact decodeDocument_sound h

end WdmNet.Yaml

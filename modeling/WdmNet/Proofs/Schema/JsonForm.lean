import WdmNet.Proofs.Schema.JsonCodec
/-!
What the JSON reader of values produces.

Whatever the document, reading it into a value of the readers' form gives, when it succeeds,
a value of that form (`Value.Sound`): integers and map keys come from `parseInt64?`, so within
64 bits; map keys are bound with `bindKey`, so each once; fields are set by key, each to a
value of its shape.

* `fromJson_sound` — a read at any shape keeps the readers' form;
* `decodeJson_sound` — every record a document reads as has the readers' form.

The proof follows the reader's recursion on the document, with one lemma for each of its three
loops (`fromJsonItems_sound`, `fromJsonMembers_sound`, `fromJsonEntries_sound`), each given the
statement for the documents inside.
-/

namespace WdmNet.Schema

open Value

/-! ### Numbers, keys and fields -/

theorem parseInt64?_inInt64 {s : String} {i : Int} (h : parseInt64? s = some i) : InInt64 i := by
  simp only [parseInt64?] at h
  -- whichever sign was read, the number is checked against the bound before it is given back
  split at h <;> split_ifs at h <;> cases h <;> rename_i hn <;>
    simp only [InInt64, int64Bound, Nat.pow_eq] at hn ⊢ <;> omega

/-- Binding a key keeps the keys of a map, and adds the key at the end when it is new. -/
theorem keys_bindKey (es : List (Int × Value)) (k : Int) (v : Value) :
    (bindKey es k v).map (·.1) = if es.any (·.1 == k) then es.map (·.1) else es.map (·.1) ++ [k] := by
  unfold bindKey
  split
  · simp only [List.map_map, Function.comp_def, apply_ite Prod.fst, beq_iff_eq]
    exact List.map_congr_left fun e _ => by split <;> simp_all
  · simp

theorem mem_bindKey {es : List (Int × Value)} {k : Int} {v : Value} {e : Int × Value}
    (h : e ∈ bindKey es k v) : e ∈ es ∨ e = (k, v) := by
  unfold bindKey at h
  cases hany : es.any (·.1 == k) with
  | true =>
    rw [if_pos hany] at h
    obtain ⟨e', he', rfl⟩ := List.mem_map.mp h
    by_cases hk : e'.1 = k
    · simp [hk]
    · simp [hk, he']
  | false => simpa [hany] using h

/-- Binding a key within 64 bits to a value of the item shape keeps a map of its shape. -/
theorem Value.Sound.bindKey {ok : Float → Prop} {s : Shape} {es : List (Int × Value)} {k : Int}
    {v : Value} (h : Sound ok (.intMap s) (.map es)) (hk : InInt64 k) (hv : Sound ok s v) :
    Sound ok (.intMap s) (.map (bindKey es k v)) := by
  cases h with
  | map hnd hkeys hvals =>
    refine .map ?_ (fun e he => ?_) (fun e he => ?_)
    · rw [keys_bindKey]
      split
      · exact hnd
      · rename_i hany
        have hnew : k ∉ es.map (·.1) := by simpa using hany
        rw [List.nodup_append]
        refine ⟨hnd, List.nodup_singleton k, fun a ha b hb hab => ?_⟩
        rw [List.mem_singleton] at hb
        rw [hab, hb] at ha
        exact hnew ha
    · rcases mem_bindKey he with he | rfl
      · exact hkeys e he
      · exact hk
    · rcases mem_bindKey he with he | rfl
      · exact hvals e he
      · exact hv

/-- The field a key names is a field of the type. -/
theorem Ty.mem_of_field? {t : Ty} {key : String} {f : Field} (h : t.field? key = some f) :
    f ∈ t.fields := by
  unfold Ty.field? at h
  split at h
  · rename_i hfind
    cases h
    exact List.mem_of_find?_eq_some hfind
  · exact List.mem_of_find?_eq_some h

/-- The current value of a field of a record is of the field's shape. -/
theorem Value.Sound.currentOf {ok : Float → Prop} {t : Ty} {v : Value}
    (hv : Sound ok (.record t) v) (h0 : ok 0) {f : Field} (hf : f ∈ t.fields) :
    Sound ok f.shape (currentOf v f) := by
  unfold Schema.currentOf
  split
  · exact Sound.zero h0 f.shape
  · rcases hv.field hf with hnil | hs
    · rename_i hne
      exact absurd hnil hne
    · exact hs

/-! ### Reading any document -/

/-- Reading the document `j` at any shape into a value of the readers' form gives, when it
succeeds, a value of that form. -/
def ReadsSound (strict : Bool) (j : Json) : Prop :=
  ∀ tr s cur v, Sound (fun _ => True) s cur → fromJson strict tr s j cur = .ok v →
    Sound (fun _ => True) s v

theorem fromJsonItems_sound {strict : Bool} {tr : Trail} {s : Shape} {js : List Json}
    (hjs : ∀ j ∈ js, ReadsSound strict j) :
    ∀ {i : Nat} {store : List Value} {cap : Nat} {acc : List Value} {v : Value},
    (∀ x ∈ store, Sound (fun _ => True) s x) → (∀ x ∈ acc, Sound (fun _ => True) s x) →
    fromJsonItems strict tr s i js store cap acc = .ok v → Sound (fun _ => True) (.list s) v := by
  induction js with
  | nil =>
    intro i store cap acc v hstore hacc h
    simp only [fromJsonItems] at h
    cases h
    split
    · exact .list (fun _ h => absurd h List.not_mem_nil) (fun _ h => absurd h List.not_mem_nil)
    · exact .list (fun x hx => hacc x (List.mem_reverse.mp hx)) hstore
  | cons j js ih =>
    intro i store cap acc v hstore hacc h
    -- the item is read into the next slot of the storage, or into a zero one it grows by
    cases store with
    | cons o rest =>
      simp only [fromJsonItems] at h
      split at h
      · rename_i x hx
        have hxs := hjs j List.mem_cons_self _ _ _ _ (hstore o List.mem_cons_self) hx
        exact ih (fun j' hj' => hjs j' (List.mem_cons_of_mem _ hj'))
          (fun y hy => hstore y (List.mem_cons_of_mem _ hy))
          (fun y hy => by
            rcases List.mem_cons.mp hy with rfl | hy
            · exact hxs
            · exact hacc y hy) h
      · cases h
    | nil =>
      simp only [fromJsonItems] at h
      split at h
      · rename_i x hx
        have hxs := hjs j List.mem_cons_self _ _ _ _ (Sound.zero trivial s) hx
        exact ih (fun j' hj' => hjs j' (List.mem_cons_of_mem _ hj'))
          (fun y hy => List.eq_of_mem_replicate hy ▸ Sound.zero trivial s)
          (fun y hy => by
            rcases List.mem_cons.mp hy with rfl | hy
            · exact hxs
            · exact hacc y hy) h
      · cases h

theorem fromJsonMembers_sound {strict : Bool} {tr : Trail} {t : Ty} {ms : List (String × Json)}
    (hms : ∀ p ∈ ms, ReadsSound strict p.2) :
    ∀ {v w : Value}, Sound (fun _ => True) (.record t) v →
    fromJsonMembers strict tr t ms v = .ok w → Sound (fun _ => True) (.record t) w := by
  induction ms with
  | nil =>
    intro v w hv h
    cases h
    exact hv
  | cons p ms ih =>
    intro v w hv h
    have hrest : ∀ p ∈ ms, ReadsSound strict p.2 := fun p hp => hms p (List.mem_cons_of_mem _ hp)
    obtain ⟨k, j⟩ := p
    simp only [fromJsonMembers] at h
    split at h
    · -- a key that names no field is refused, or passed over
      split at h
      · cases h
      · exact ih hrest hv h
    · rename_i f hf
      have hmem := Ty.mem_of_field? hf
      split at h
      · rename_i x hx
        have hxs := hms (k, j) List.mem_cons_self _ _ _ _ (hv.currentOf trivial hmem) hx
        exact ih hrest (hv.set hmem hxs) h
      · cases h

theorem fromJsonEntries_sound {strict : Bool} {tr : Trail} {s : Shape} {ms : List (String × Json)}
    (hms : ∀ p ∈ ms, ReadsSound strict p.2) :
    ∀ {acc : List (Int × Value)} {w : Value}, Sound (fun _ => True) (.intMap s) (.map acc) →
    fromJsonEntries strict tr s ms acc = .ok w → Sound (fun _ => True) (.intMap s) w := by
  induction ms with
  | nil =>
    intro acc w hacc h
    cases h
    exact hacc
  | cons p ms ih =>
    intro acc w hacc h
    have hrest : ∀ p ∈ ms, ReadsSound strict p.2 := fun p hp => hms p (List.mem_cons_of_mem _ hp)
    obtain ⟨k, j⟩ := p
    simp only [fromJsonEntries] at h
    split at h
    · cases h
    · rename_i n hn
      -- the key is the zero key or a number within 64 bits
      have hkey : InInt64 n := by
        split at hn
        · cases hn
          exact ⟨by decide, by decide⟩
        · exact parseInt64?_inInt64 hn
      split at h
      · cases h
      · rename_i x hx
        have hxs := hms (k, j) List.mem_cons_self _ _ _ _ (Sound.zero trivial s) hx
        exact ih hrest (hacc.bindKey hkey hxs) h

/-- Reading any document at any shape keeps the readers' form. -/
theorem fromJson_sound (strict : Bool) (j : Json) : ReadsSound strict j := by
  intro tr s cur v hcur h
  cases j with
  | null =>
    simp only [fromJson] at h
    split at h <;> cases h
    · exact .nilList _
    · exact .nilMap _
    · exact .none _
    · exact hcur
  | bool b =>
    simp only [fromJson] at h
    split at h <;> cases h
    · exact .bool b
    · exact .some (.bool b)
  | str t =>
    simp only [fromJson] at h
    split at h <;> cases h
    · exact .str _ t
    · exact .some (.str _ t)
  | num lit =>
    simp only [fromJson] at h
    split at h
    · split at h <;> cases h
      rename_i i hi
      exact .int (parseInt64?_inInt64 hi)
    · split at h <;> cases h
      rename_i i hi
      exact .some (.int (parseInt64?_inInt64 hi))
    · split at h <;> cases h
      exact .float trivial
    · split at h <;> cases h
      exact .some (.float trivial)
    · cases h
  | arr items =>
    have hitems : ∀ x ∈ items, ReadsSound strict x := fun x hx => fromJson_sound strict x
    have hnone : ∀ (s : Shape), ∀ x ∈ ([] : List Value), Sound (fun _ => True) s x :=
      fun _ _ h => absurd h List.not_mem_nil
    simp only [fromJson] at h
    -- the items are read into the storage of the current list, which holds items of the shape
    split at h
    · cases hcur with
      | nilList => exact fromJsonItems_sound hitems (hnone _) (hnone _) h
      | list hxs hspare =>
        exact fromJsonItems_sound hitems
          (fun x hx => (List.mem_append.mp hx).elim (hxs x) (hspare x)) (hnone _) h
    · refine .some ?_
      cases hcur with
      | none => exact fromJsonItems_sound hitems (hnone _) (hnone _) h
      | some hs =>
        cases hs with
        | nilList => exact fromJsonItems_sound hitems (hnone _) (hnone _) h
        | list hxs hspare =>
          exact fromJsonItems_sound hitems
            (fun x hx => (List.mem_append.mp hx).elim (hxs x) (hspare x)) (hnone _) h
    · cases h
  | obj members =>
    have hmembers : ∀ p ∈ members, ReadsSound strict p.2 := fun p hp => fromJson_sound strict p.2
    simp only [fromJson] at h
    split at h
    · cases hcur with
      | record hfs => exact fromJsonMembers_sound hmembers (.record hfs) h
    · refine .some ?_
      cases hcur with
      | none => exact fromJsonMembers_sound hmembers (Sound.zero trivial (.record _)) h
      | some hs =>
        cases hs with
        | record hfs => exact fromJsonMembers_sound hmembers (.record hfs) h
    · obtain ⟨hnd, hkeys, hvals⟩ := Sound.entries_of_get (.inr hcur)
      exact fromJsonEntries_sound hmembers (.map hnd hkeys hvals) h
    · rename_i s
      refine .some ?_
      have hentries : Sound (fun _ => True) (.intMap s) (.map cur.asMap) := by
        cases hcur with
        | none =>
          exact .map List.nodup_nil (fun _ h => absurd h List.not_mem_nil)
            (fun _ h => absurd h List.not_mem_nil)
        | some hs =>
          obtain ⟨hnd, hkeys, hvals⟩ := Sound.entries_of_get (.inr hs)
          exact .map hnd hkeys hvals
      exact fromJsonEntries_sound hmembers hentries h
    · cases h
termination_by sizeOf j
decreasing_by
  all_goals subst_vars
  · have := List.sizeOf_lt_of_mem hx
    simp only [Json.arr.sizeOf_spec]
    omega
  · have := List.sizeOf_lt_of_mem hp
    obtain ⟨k, j⟩ := p
    simp only [Json.obj.sizeOf_spec, Prod.mk.sizeOf_spec] at this ⊢
    omega

/-- Every record a JSON document reads as has the readers' form. -/
theorem decodeJson_sound {strict : Bool} {t : Ty} {j : Json} {v : Value}
    (h : decodeJson strict t j = .ok v) : Sound (fun _ => True) (.record t) v :=
  fromJson_sound strict j _ _ _ _ (Sound.zero trivial (.record t)) h

end WdmNet.Schema

import Mathlib.Data.List.Nodup
import Mathlib.Data.List.Sort
import WdmNet.Schema.ToJson
/-!
What a typed reader sees of a value.

A document writes a value of a shape and reads it back into a value of the same shape. What
comes back is not the same value, but one that no reader of the shape tells apart from it: an
absent field reads as the zero value of its shape, an absent list or map as an empty one, the
storage a list keeps beyond its items is never read, a map is read by its keys whatever the
order of its entries, and the two zeros of a double compare equal. `Value.view n s v` is the
value with all of that forgotten, for shapes up to `n` levels deep.

`Value.Sound ok s v` says that a value has the form the readers of shape `s` produce: text for
text, integers within 64 bits, each map key once, every float allowed by `ok`.

The main statements: a field left out because it is empty has the view of an absent one
(`view_of_emptyAt`), two records have one view exactly when their fields do (`view_record`),
and the accessors that descriptions are read with see only the view (`asStr_eq_of_view` and
the lemmas after it).
-/

namespace WdmNet.Schema

/-- Whether an integer fits in 64 bits with a sign. -/
def InInt64 (i : Int) : Prop := -(Nat.pow 2 63 : Int) ≤ i ∧ i < (Nat.pow 2 63 : Int)

namespace Shape

/-- Whether a shape is an optional value. -/
def isOpt : Shape → Bool
  | opt _ => true
  | _ => false

/-- Whether a shape is at most `n` levels deep, each list, map, record and optional value a
level above what it holds, with no optional value directly inside another. -/
def fitsIn : Nat → Shape → Bool
  | 0, _ => false
  | _ + 1, text _ | _ + 1, int | _ + 1, float | _ + 1, bool => true
  | n + 1, list s | n + 1, intMap s => s.fitsIn n
  | n + 1, record t => t.fields.all fun f => f.shape.fitsIn n
  | n + 1, opt s => !s.isOpt && s.fitsIn n

end Shape

/-- A double as equality of doubles sees it: the two zeros are one. -/
def canonFloat (x : Float) : Float := if x == 0 then 0 else x

theorem Ty.keys_nodup (t : Ty) : (t.fields.map (·.key)).Nodup := by
  cases t <;> decide

theorem Ty.eq_of_key_eq {t : Ty} {f g : Field} (hf : f ∈ t.fields) (hg : g ∈ t.fields)
    (h : f.key = g.key) : f = g :=
  List.inj_on_of_nodup_map t.keys_nodup hf hg h

namespace Value

/-- What a reader of shape `s` sees of a value, `n` levels deep: absent fields, lists and
maps as their zero values, list items without the storage behind them, map entries in the
order of their keys, and both zeros of a double as one. -/
def view : Nat → Shape → Value → Value
  | 0, _, _ => nil
  | _ + 1, .text _, v => str v.asStr
  | _ + 1, .int, v => int v.asInt
  | _ + 1, .float, v => float (canonFloat v.asFloat)
  | _ + 1, .bool, v => bool v.asBool
  | n + 1, .list s, v => items (v.asList.map (view n s))
  | n + 1, .intMap s, v =>
    map ((v.asMap.map fun e => (e.1, view n s e.2)).mergeSort fun a b => a.1 ≤ b.1)
  | n + 1, .record t, v => record (t.fields.map fun f => (f.key, view n f.shape (v.get f.key)))
  | n + 1, .opt s, v => if v.isNil then nil else view n s v

-- One lemma per shape, each holding by unfolding: proofs rewrite with these rather than with
-- the equations Lean derives for `view`.
section Unfold

variable {n : Nat} {v : Value}

@[simp] theorem view_depth_zero (s : Shape) : view 0 s v = nil := rfl

@[simp] theorem view_succ_text (m : String) : view (n + 1) (.text m) v = str v.asStr := rfl

@[simp] theorem view_succ_int : view (n + 1) .int v = int v.asInt := rfl

@[simp] theorem view_succ_float : view (n + 1) .float v = float (canonFloat v.asFloat) := rfl

@[simp] theorem view_succ_bool : view (n + 1) .bool v = bool v.asBool := rfl

@[simp] theorem view_succ_list (s : Shape) :
    view (n + 1) (.list s) v = items (v.asList.map (view n s)) := rfl

@[simp] theorem view_succ_intMap (s : Shape) :
    view (n + 1) (.intMap s) v =
      map ((v.asMap.map fun e => (e.1, view n s e.2)).mergeSort fun a b => a.1 ≤ b.1) := rfl

@[simp] theorem view_succ_record (t : Ty) :
    view (n + 1) (.record t) v =
      record (t.fields.map fun f => (f.key, view n f.shape (v.get f.key))) := rfl

@[simp] theorem view_succ_opt (s : Shape) :
    view (n + 1) (.opt s) v = if v.isNil then nil else view n s v := rfl

end Unfold

/-- A value of the form the readers of a shape produce: text for text, integers within 64
bits, floats that `ok` allows, truth values; lists of such items (the storage behind them
too), maps with each key once and
such values, records whose fields are absent or such values, optional values absent or such
values. -/
inductive Sound (ok : Float → Prop) : Shape → Value → Prop
  | str (name s : String) : Sound ok (.text name) (.str s)
  | int {i : Int} : InInt64 i → Sound ok .int (.int i)
  | float {x : Float} : ok x → Sound ok .float (.float x)
  | bool (b : Bool) : Sound ok .bool (.bool b)
  | nilList (s : Shape) : Sound ok (.list s) .nil
  | list {s : Shape} {xs spare : List Value} :
      (∀ x ∈ xs, Sound ok s x) → (∀ x ∈ spare, Sound ok s x) → Sound ok (.list s) (.list xs spare)
  | nilMap (s : Shape) : Sound ok (.intMap s) .nil
  | map {s : Shape} {es : List (Int × Value)} :
      (es.map (·.1)).Nodup → (∀ e ∈ es, InInt64 e.1) → (∀ e ∈ es, Sound ok s e.2) →
      Sound ok (.intMap s) (.map es)
  | record {t : Ty} {fs : List (String × Value)} :
      (∀ f ∈ t.fields, ((record fs).get f.key).isNil = false →
        Sound ok f.shape ((record fs).get f.key)) →
      Sound ok (.record t) (.record fs)
  | none (s : Shape) : Sound ok (.opt s) .nil
  | some {s : Shape} {v : Value} : Sound ok s v → Sound ok (.opt s) v

@[simp] theorem get_nil (key : String) : nil.get key = nil := rfl

@[simp] theorem get_record_nil (key : String) : (record []).get key = nil := rfl

/-- The zero value of a shape is of the shape. -/
theorem Sound.zero {ok : Float → Prop} (h0 : ok 0) : ∀ s : Shape, Sound ok s (zero s)
  | .text n => .str n ""
  | .int => .int ⟨by decide, by decide⟩
  | .float => .float h0
  | .bool => .bool false
  | .list s => .nilList s
  | .intMap s => .nilMap s
  | .record _ => .record fun _ _ h => nomatch h
  | .opt s => .none s

theorem isNil_iff {v : Value} : v.isNil = true ↔ v = nil := by
  cases v <;> simp [isNil]

/-! ### Records as lists of fields -/

section Records

variable {ws : List (String × Value)} {k k' : String} {x : Value}

theorem get_record_cons_self : (record ((k, x) :: ws)).get k = x := by
  simp [Value.get]

theorem get_record_cons_of_ne (h : k ≠ k') : (record ((k, x) :: ws)).get k' = (record ws).get k' := by
  simp [Value.get, h]

theorem get_record_of_forall_ne (h : ∀ p ∈ ws, p.1 ≠ k) : (record ws).get k = nil := by
  have hnone : ws.find? (·.1 == k) = Option.none := by simpa using h
  simp [Value.get, hnone]

/-- A value set under a key is what the key then reads. -/
theorem get_set_self (v : Value) (k : String) (x : Value) : (v.set k x).get k = x := by
  cases v with
  | record fs =>
    cases hany : fs.any (·.1 == k) with
    | true =>
      -- the first field of the key is the one found, and setting replaced it
      obtain ⟨e, he⟩ := Option.isSome_iff_exists.mp (List.find?_isSome.mpr (List.any_eq_true.mp hany))
      have hk : e.1 = k := by simpa using List.find?_some he
      simp only [get, set, hany, ↓reduceIte, beq_iff_eq, Prod.mk.eta, List.find?_map, Function.comp_def,
        apply_ite Prod.fst, ite_self, he, Option.map_some, hk, Option.getD_some]
    | false =>
      simp [Value.set, hany, Value.get, List.find?_append,
        List.find?_eq_none.mpr (List.any_eq_false.mp hany)]
  | _ => simp [Value.set, Value.get]

/-- Setting one key leaves what every other key reads. -/
theorem get_set_of_ne (v : Value) {k k' : String} (x : Value) (h : k ≠ k') :
    (v.set k x).get k' = v.get k' := by
  cases v with
  | record fs =>
    cases hany : fs.any (·.1 == k) with
    | true =>
      simp only [Value.set, hany, if_true, Value.get, List.find?_map, Function.comp_def]
      cases hf : fs.find? (·.1 == k') with
      | none => simp [apply_ite Prod.fst, hf]
      | some e =>
        have hk : e.1 = k' := by simpa using List.find?_some hf
        simp [apply_ite Prod.fst, hf, hk, Ne.symm h]
    | false => simp [Value.set, hany, Value.get, List.find?_append, h]
  | _ => simp [Value.set, Value.get, h]

theorem set_record_of_forall_ne (h : ∀ p ∈ ws, p.1 ≠ k) :
    (record ws).set k x = record (ws ++ [(k, x)]) := by
  have hany : ws.any (·.1 == k) = false := by simpa using h
  simp [Value.set, hany]

end Records

section Fields

variable {ok : Float → Prop} {x : Value} {s : Shape}

/-- A field of a record of a shape is absent or of the field's shape. -/
theorem Sound.field {t : Ty} {v : Value} (h : Sound ok (.record t) v) {f : Field}
    (hf : f ∈ t.fields) : v.get f.key = nil ∨ Sound ok f.shape (v.get f.key) := by
  cases h with
  | @record _ fs hfs =>
    cases hn : ((Value.record fs).get f.key).isNil with
    | true => exact .inl (isNil_iff.mp hn)
    | false => exact .inr (hfs f hf hn)

/-- Setting a field of a record to a value of the field's shape keeps the record of its type. -/
theorem Sound.set {t : Ty} {v : Value} (hv : Sound ok (.record t) v) {f : Field}
    (hf : f ∈ t.fields) (hx : Sound ok f.shape x) : Sound ok (.record t) (v.set f.key x) := by
  obtain ⟨fs, rfl⟩ : ∃ fs, v = .record fs := by
    cases hv with
    | record => exact ⟨_, rfl⟩
  obtain ⟨fs', hfs'⟩ : ∃ fs', (Value.record fs).set f.key x = Value.record fs' := by
    simp only [Value.set]
    split <;> exact ⟨_, rfl⟩
  rw [hfs']
  refine .record fun g hg hpresent => ?_
  rw [← hfs'] at hpresent ⊢
  by_cases hk : f.key = g.key
  · obtain rfl := Ty.eq_of_key_eq hf hg hk
    rw [get_set_self]
    exact hx
  · rw [get_set_of_ne _ _ hk] at hpresent ⊢
    rcases hv.field hg with hnil | hs
    · rw [hnil] at hpresent
      cases hpresent
    · exact hs

/-- A field of a record, its zero value when absent, is of the field's shape. -/
theorem Sound.fill {t : Ty} {v : Value} (hv : Sound ok (.record t) v) (h0 : ok 0) {f : Field}
    (hf : f ∈ t.fields) :
    Sound ok f.shape (if (v.get f.key).isNil then Value.zero f.shape else v.get f.key) := by
  split
  · exact Sound.zero h0 f.shape
  · rename_i hpresent
    rcases hv.field hf with hnil | hs
    · simp [hnil, isNil] at hpresent
    · exact hs

/-- An optional value, the zero value of its inner shape when absent, is of the inner shape. -/
theorem Sound.unwrap (hx : Sound ok (.opt s) x) (h0 : ok 0) :
    Sound ok s (if x.isNil then Value.zero s else x) := by
  split
  · exact Sound.zero h0 s
  · rename_i hpresent
    cases hx with
    | none => simp [isNil] at hpresent
    | some hs => exact hs

theorem Sound.opt_of_get (h : x = nil ∨ Sound ok (.opt s) x) : Sound ok (.opt s) x := by
  rcases h with rfl | h
  · exact .none s
  · exact h

theorem Sound.items_of_get (h : x = nil ∨ Sound ok (.list s) x) :
    ∀ y ∈ x.asList, Sound ok s y := by
  rcases h with rfl | h
  · simp [asList]
  · cases h with
    | nilList => simp [asList]
    | list hxs _ => exact hxs

theorem Sound.inInt64_asInt (h : x = nil ∨ Sound ok .int x) : InInt64 x.asInt := by
  rcases h with rfl | h
  · exact ⟨by decide, by decide⟩
  · cases h with
    | int hi => exact hi

/-- The entries of a map field: each key once, within 64 bits, each value of the map's item
shape. -/
theorem Sound.entries_of_get (h : x = nil ∨ Sound ok (.intMap s) x) :
    (x.asMap.map (·.1)).Nodup ∧ (∀ e ∈ x.asMap, InInt64 e.1) ∧ ∀ e ∈ x.asMap, Sound ok s e.2 := by
  rcases h with rfl | h
  · simp [asMap]
  · cases h with
    | nilMap => simp [asMap]
    | map hnd hkeys hvals => exact ⟨hnd, hkeys, hvals⟩

/-- A record lists its fields in the order of its type, each of the field's shape. -/
theorem Sound.of_forall₂ {t : Ty} {fs : List (String × Value)}
    (hkeys : fs.map (·.1) = t.fields.map (·.key))
    (h : List.Forall₂ (fun f p => Sound ok f.shape p.2) t.fields fs) :
    Sound ok (.record t) (.record fs) := by
  have hnd := t.keys_nodup
  -- the field of each key is the pair at its position, since no key comes twice
  have hfind : ∀ (L : List Field) (P : List (String × Value)), P.map (·.1) = L.map (·.key) →
      (L.map (·.key)).Nodup → List.Forall₂ (fun f p => Sound ok f.shape p.2) L P →
      ∀ f ∈ L, ∃ p, P.find? (·.1 == f.key) = Option.some p ∧ Sound ok f.shape p.2 := by
    intro L P hk hnd h
    induction h with
    | nil => simp
    | @cons f₀ p₀ L P hr _ ih =>
      simp only [List.map_cons, List.cons.injEq] at hk
      simp only [List.map_cons, List.nodup_cons] at hnd
      intro f hf
      rcases List.mem_cons.mp hf with rfl | hf
      · exact ⟨p₀, by simp [hk.1], hr⟩
      · have hne : p₀.1 ≠ f.key := by
          rw [hk.1]
          exact fun he => hnd.1 (he ▸ List.mem_map_of_mem hf)
        obtain ⟨p, hp, hs⟩ := ih hk.2 hnd.2 f hf
        exact ⟨p, by simp [hne, hp], hs⟩
  refine .record fun f hf _ => ?_
  obtain ⟨p, hp, hs⟩ := hfind t.fields fs hkeys hnd h f hf
  simpa [Value.get, hp] using hs

end Fields

/-- The zero value of a shape is seen as an absent one. -/
theorem view_zero : ∀ (n : Nat) (s : Shape), view n s (zero s) = view n s nil
  | 0, _ => rfl
  | _ + 1, .text _ => rfl
  | _ + 1, .int => rfl
  | _ + 1, .float => rfl
  | _ + 1, .bool => rfl
  | _ + 1, .list _ => rfl
  | _ + 1, .intMap _ => rfl
  | _ + 1, .record _ => rfl
  | _ + 1, .opt _ => rfl

/-- A value that a writer leaves out as empty is seen as an absent one: the empty text, zero
of either sign, false, an empty list or map, an absent optional value. -/
theorem view_of_emptyAt {ok : Float → Prop} {s : Shape} {x : Value} (hx : Sound ok s x)
    (he : emptyAt s x) (n : Nat) : view n s x = view n s nil := by
  cases n with
  | zero => rfl
  | succ n =>
    cases hx with
    | str _ t =>
      have ht : t = "" := by simpa [emptyAt, isEmpty] using he
      simp [ht, asStr]
    | @int i _ =>
      have hi : i = 0 := by simpa [emptyAt, isEmpty] using he
      simp [hi, asInt]
    | @float x _ =>
      have hz : (x == 0) = true := by simpa [emptyAt, isEmpty] using he
      simp only [view_succ_float, canonFloat, hz, asFloat, if_true]
      exact congrArg float (ite_self 0).symm
    | bool b =>
      have hb : b = false := by simpa [emptyAt, isEmpty] using he
      simp [hb, asBool]
    | nilList => rfl
    | @list _ xs _ _ _ =>
      have hxs : xs = [] := by simpa [emptyAt, isEmpty] using he
      simp [hxs, asList]
    | nilMap => rfl
    | @map _ es _ _ _ =>
      have hes : es = [] := by simpa [emptyAt, isEmpty] using he
      simp [hes, asMap]
    | record _ => simp [emptyAt, isEmpty] at he
    | none => rfl
    | some _ =>
      have hv : x.isNil = true := by simpa [emptyAt] using he
      cases x <;> simp_all [isNil]

theorem view_record {n : Nat} {t : Ty} {v₁ v₂ : Value} :
    view (n + 1) (.record t) v₁ = view (n + 1) (.record t) v₂ ↔
      ∀ f ∈ t.fields, view n f.shape (v₁.get f.key) = view n f.shape (v₂.get f.key) := by
  simp only [view_succ_record, record.injEq, List.map_inj_left, Prod.mk.injEq, true_and]

/-- Two values that no reader of shape `s` tells apart, however deep it looks. -/
def Alike (s : Shape) (a b : Value) : Prop := ∀ n, view n s a = view n s b

theorem Alike.trans {s : Shape} {a b c : Value} (h₁ : Alike s a b) (h₂ : Alike s b c) :
    Alike s a c :=
  fun n => (h₁ n).trans (h₂ n)

/-- A field that reads as zero when absent is seen as it stands. -/
theorem alike_fill (s : Shape) (x : Value) : Alike s (if x.isNil then zero s else x) x := by
  intro n
  cases hx : x.isNil with
  | true =>
    rw [isNil_iff.mp hx, if_pos rfl]
    exact view_zero n s
  | false => rw [if_neg (by simp)]

/-! ### What the accessors see -/

section Accessors

variable {n : Nat} {a b : Value}

theorem asStr_eq_of_view {m : String} (h : view (n + 1) (.text m) a = view (n + 1) (.text m) b) :
    a.asStr = b.asStr := by
  simpa using h

theorem asInt_eq_of_view (h : view (n + 1) .int a = view (n + 1) .int b) : a.asInt = b.asInt := by
  simpa using h

theorem asBool_eq_of_view (h : view (n + 1) .bool a = view (n + 1) .bool b) :
    a.asBool = b.asBool := by
  simpa using h

theorem canonFloat_eq_of_view (h : view (n + 1) .float a = view (n + 1) .float b) :
    canonFloat a.asFloat = canonFloat b.asFloat := by
  simpa using h

/-- An optional double of either value, read with both zeros as one, is the same when the
values are seen alike. -/
theorem asOptFloat_eq_of_view {ok₁ ok₂ : Float → Prop} (ha : Sound ok₁ (.opt .float) a)
    (hb : Sound ok₂ (.opt .float) b)
    (h : view (n + 2) (.opt .float) a = view (n + 2) (.opt .float) b) :
    a.asOptFloat.map canonFloat = b.asOptFloat.map canonFloat := by
  cases ha with
  | none =>
    cases hb with
    | none => rfl
    | some hb => cases hb; simp [isNil] at h
  | some ha =>
    cases ha
    cases hb with
    | none => simp [isNil] at h
    | some hb => cases hb; simpa [isNil, asFloat, asOptFloat] using h

theorem asList_map_eq_of_view {s : Shape}
    (h : view (n + 1) (.list s) a = view (n + 1) (.list s) b) :
    a.asList.map (view n s) = b.asList.map (view n s) := by
  simpa [items] using h

/-- The entries of a map of either value, in the order of their keys and each read by `get`, are
the same when the values are seen alike and `get` reads only what the view keeps. -/
theorem sorted_entries_eq_of_view {s : Shape} {β : Type} (get : Value → β) (get' : Value → β)
    (hget : ∀ x, get' (view n s x) = get x)
    (h : view (n + 1) (.intMap s) a = view (n + 1) (.intMap s) b) :
    (a.asMap.map fun e => (e.1, get e.2)).mergeSort (fun p q => p.1 ≤ q.1) =
      (b.asMap.map fun e => (e.1, get e.2)).mergeSort (fun p q => p.1 ≤ q.1) := by
  have hsort : ∀ c : Value,
      (c.asMap.map fun e => (e.1, get e.2)).mergeSort (fun p q => p.1 ≤ q.1) =
        ((c.asMap.map fun e => (e.1, view n s e.2)).mergeSort (fun p q => p.1 ≤ q.1)).map
          fun e => (e.1, get' e.2) := by
    intro c
    rw [List.map_mergeSort (f := fun (e : Int × Value) => (e.1, get' e.2))
      (s := fun (p q : Int × β) => decide (p.1 ≤ q.1)) (fun _ _ _ _ => rfl), List.map_map]
    simp only [Function.comp_def, hget]
  have hv : (a.asMap.map fun e => (e.1, view n s e.2)).mergeSort (fun p q => p.1 ≤ q.1) =
      (b.asMap.map fun e => (e.1, view n s e.2)).mergeSort (fun p q => p.1 ≤ q.1) := by
    simpa using h
  rw [hsort a, hsort b, hv]

end Accessors

end Value

/-- Entries sorted by key, with each key once, have strictly increasing keys. -/
theorem keys_mergeSort_lt {β : Type} (l : List (Int × β)) (hnd : (l.map (·.1)).Nodup) :
    ((l.mergeSort fun a b => a.1 ≤ b.1).map (·.1)).Pairwise (· < ·) := by
  have hsorted : (l.mergeSort fun a b => a.1 ≤ b.1).Pairwise fun a b => decide (a.1 ≤ b.1) :=
    List.pairwise_mergeSort (fun a b c hab hbc => by simp only [decide_eq_true_eq] at *; omega)
    (fun a b => by simp only [Bool.or_eq_true, decide_eq_true_eq]; omega) l
  have hnd' : ((l.mergeSort fun a b => a.1 ≤ b.1).map (·.1)).Nodup :=
    (hnd.perm ((List.mergeSort_perm l _).map _).symm)
  have hboth := hsorted.and (List.pairwise_map.mp (List.nodup_iff_pairwise_ne.mp hnd'))
  rw [List.pairwise_map]
  exact hboth.imp fun h => lt_of_le_of_ne (by simpa using h.1) h.2

/-- Two lists of the same entries, each key once, sort by key into one list. -/
theorem mergeSort_key_eq_of_perm {β : Type} {l₁ l₂ : List (Int × β)} (hp : l₁.Perm l₂)
    (hnd : (l₁.map (·.1)).Nodup) :
    (l₁.mergeSort fun a b => a.1 ≤ b.1) = l₂.mergeSort fun a b => a.1 ≤ b.1 := by
  have h₁ := List.pairwise_map.mp (keys_mergeSort_lt l₁ hnd)
  have h₂ := List.pairwise_map.mp (keys_mergeSort_lt l₂ ((hp.map (·.1)).nodup_iff.mp hnd))
  -- sorted with strictly increasing keys, the two sorted lists can only be equal
  exact List.Perm.eq_of_pairwise (fun a b _ _ hab hba => absurd (hab.trans hba) (lt_irrefl _))
    h₁ h₂ ((List.mergeSort_perm l₁ _).trans (hp.trans (List.mergeSort_perm l₂ _).symm))

/-- Lists seen alike item by item are read alike by any reading that sees only what is seen. -/
theorem List.map_eq_map_of_seen {α β γ : Type} {g : α → β} {F : α → γ} :
    ∀ {xs ys : List α}, (∀ x ∈ xs, ∀ y ∈ ys, g x = g y → F x = F y) →
      xs.map g = ys.map g → xs.map F = ys.map F
  | [], [], _, _ => rfl
  | [], _ :: _, _, h => by simp at h
  | _ :: _, [], _, h => by simp at h
  | x :: xs, y :: ys, hF, h => by
    simp only [List.map_cons, List.cons.injEq] at h ⊢
    refine ⟨hF x (by simp) y (by simp) h.1, List.map_eq_map_of_seen ?_ h.2⟩
    exact fun a ha b hb => hF a (by simp [ha]) b (by simp [hb])

end WdmNet.Schema

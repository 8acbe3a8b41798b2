import Mathlib.Data.List.Forall2
import WdmNet.Proofs.Schema.View
import WdmNet.Proofs.Except
import WdmNet.Schema.FromJson
/-!
Reading back what the JSON writer of values writes.

`toJson` writes a value at a shape and `fromJson` reads a document at a shape into the value it
updates. For a value of the form readers produce whose doubles come back from their number text
(`NumberReadsBack`), writing it and reading the document into a fresh value succeeds and gives
a value, present exactly when the first one is, that no reader of the shape tells apart from it:

* `fromJson_toJson` — every such value at a shape `fuel` levels deep is written and reads back
  (`WritesBack`).

Fields left out as empty come back absent, absent fields come back as the zeros written for
them, map entries come back in the order of their keys as text, and lists come back with the
storage they grew into; `Value.Alike` sees none of that.

The proof follows the writer's recursion on its depth bound, one lemma per kind of value given
the statement one level down (`writesBack_list`, `writesBack_map`, `writesBack_record`,
`writesBack_opt`). Lists, maps and records are read by three loops, each with its own lemma:
`fromJsonItems_lockstep`, `fromJsonEntries_lockstep` and `fromJsonMembers_lockstep`.
-/

namespace WdmNet.Schema

open Value

/-! ### Numbers and keys -/

theorem all_isDigit_toDigits (m : Nat) : (Nat.toDigits 10 m).all Char.isDigit = true :=
  List.all_eq_true.mpr fun _ hc => Nat.isDigit_of_mem_toDigits (by decide) (by decide) hc

theorem foldl_toDigits (m : Nat) :
    (Nat.toDigits 10 m).foldl (fun n c => 10 * n + (c.toNat - 48)) 0 = m :=
  Nat.ofDigitChars_ten_toDigits

/-- The decimal text of an integer within 64 bits reads back as the integer. -/
theorem parseInt64?_toString {i : Int} (h : InInt64 i) : parseInt64? (toString i) = some i := by
  obtain ⟨hlo, hhi⟩ := h
  unfold parseInt64?
  split
  rename_i neg ds heq
  cases i with
  | ofNat m =>
    -- the text starts with a digit, so it carries no sign
    obtain ⟨c, r, hcr⟩ := List.exists_cons_of_ne_nil (Nat.toDigits_ne_nil (n := m) (b := 10))
    have hc : c.isDigit := List.all_eq_true.mp (all_isDigit_toDigits m) c (by simp [hcr])
    have hlist : (toString (Int.ofNat m)).toList = c :: r := by
      simp [Int.toString_eq_repr, Int.repr, Nat.toList_repr, hcr]
    rw [hlist] at heq
    split at heq
    · rename_i hsign
      cases hsign
      simp at hc
    · rename_i hsign
      cases hsign
      simp at hc
    · cases heq
      have hm : m < int64Bound := by simp [int64Bound] at hhi ⊢; omega
      simp [← hcr, all_isDigit_toDigits, foldl_toDigits, hm, Nat.toDigits_ne_nil]
  | negSucc m =>
    have hlist : (toString (Int.negSucc m)).toList = '-' :: Nat.toDigits 10 (m + 1) := by
      simp [Int.toString_eq_repr, Int.repr, Nat.toList_repr]
    rw [hlist] at heq
    split at heq
    · rename_i hsign
      cases hsign
      cases heq
      have hm : m + 1 ≤ int64Bound := by simp [int64Bound] at hlo ⊢; omega
      simp only [List.isEmpty_iff, Nat.toDigits_ne_nil, all_isDigit_toDigits, foldl_toDigits,
        Bool.not_true, Bool.or_false, if_false, if_true, hm]
      rfl
    · rename_i hsign
      cases hsign
    · rename_i hne _
      exact absurd rfl (hne _)

/-- The decimal text of an integer is never the word `null`, which a map reads as the zero
key. -/
theorem toString_ne_null (i : Int) : toString i ≠ "null" := by
  intro h
  have hl := congrArg String.toList h
  cases i with
  | ofNat m =>
    have hall := all_isDigit_toDigits m
    simp only [Int.toString_eq_repr, Int.repr, Nat.toList_repr] at hl
    rw [hl] at hall
    simp at hall
  | negSucc m => simp [Int.toString_eq_repr, Int.repr, Nat.toList_repr] at hl

theorem find?_key_of_nodup : ∀ {L : List Field} {f : Field}, (L.map (·.key)).Nodup → f ∈ L →
    L.find? (·.key == f.key) = some f
  | [], _, _, hf => absurd hf List.not_mem_nil
  | g :: L, f, hnd, hf => by
    rw [List.map_cons, List.nodup_cons] at hnd
    rcases List.mem_cons.mp hf with rfl | hf
    · simp
    · have hne : g.key ≠ f.key := fun he => hnd.1 (he ▸ List.mem_map_of_mem hf)
      rw [List.find?_cons_of_neg (by simpa using hne)]
      exact find?_key_of_nodup hnd.2 hf

theorem Ty.field?_key {t : Ty} {f : Field} (hf : f ∈ t.fields) : t.field? f.key = some f := by
  rw [Ty.field?, find?_key_of_nodup t.keys_nodup hf]

theorem bindKey_of_forall_ne {es : List (Int × Value)} {k : Int} {v : Value}
    (h : ∀ e ∈ es, e.1 ≠ k) : bindKey es k v = es ++ [(k, v)] := by
  have hany : es.any (·.1 == k) = false := by simpa using h
  simp [bindKey, hany]

/-! ### Runs of the writer's loops -/

theorem mapM_eq_ok_of_forall {ε α β : Type} {f : α → Except ε β} {R : α → β → Prop} :
    ∀ {xs : List α}, (∀ x ∈ xs, ∃ y, f x = .ok y ∧ R x y) →
      ∃ ys, xs.mapM f = .ok ys ∧ List.Forall₂ R xs ys
  | [], _ => ⟨[], rfl, .nil⟩
  | x :: xs, h => by
    obtain ⟨y, hy, hxy⟩ := h x List.mem_cons_self
    obtain ⟨ys, hys, hr⟩ := mapM_eq_ok_of_forall fun x' hx' => h x' (List.mem_cons_of_mem x hx')
    refine ⟨y :: ys, ?_, .cons hxy hr⟩
    simp [List.mapM_cons, hy, hys]
    rfl

theorem filterMapM_eq_ok_of_forall {ε α β : Type} {f : α → Except ε (Option β)}
    {R : α → Option β → Prop} :
    ∀ {xs : List α}, (∀ x ∈ xs, ∃ o, f x = .ok o ∧ R x o) →
      ∃ os, xs.filterMapM f = .ok (os.filterMap id) ∧ List.Forall₂ R xs os
  | [], _ => ⟨[], rfl, .nil⟩
  | x :: xs, h => by
    obtain ⟨o, ho, hxo⟩ := h x List.mem_cons_self
    obtain ⟨os, hos, hr⟩ :=
      filterMapM_eq_ok_of_forall fun x' hx' => h x' (List.mem_cons_of_mem x hx')
    refine ⟨o :: os, ?_, .cons hxo hr⟩
    cases o <;> simp [List.filterMapM_cons, ho, hos] <;> rfl

/-- A map over a list followed by `k` succeeds with a result satisfying `P` when the map
succeeds at every element and `k` succeeds so on every list of results related to the
elements. -/
theorem mapM_bind_eq_ok {ε α β γ : Type} {f : α → Except ε β} {k : List β → Except ε γ}
    {R : α → β → Prop} {P : γ → Prop} {xs : List α}
    (h : ∀ x ∈ xs, ∃ y, f x = .ok y ∧ R x y)
    (hk : ∀ ys, List.Forall₂ R xs ys → ∃ c, k ys = .ok c ∧ P c) :
    ∃ c, (xs.mapM f >>= k) = .ok c ∧ P c := by
  obtain ⟨ys, hys, hr⟩ := mapM_eq_ok_of_forall h
  obtain ⟨c, hc, hP⟩ := hk ys hr
  exact ⟨c, by rw [hys]; exact hc, hP⟩

/-- A filtering map followed by `k`, which receives the present results, succeeds with a result
satisfying `P` under the same conditions. -/
theorem filterMapM_bind_eq_ok {ε α β γ : Type} {f : α → Except ε (Option β)}
    {k : List β → Except ε γ} {R : α → Option β → Prop} {P : γ → Prop} {xs : List α}
    (h : ∀ x ∈ xs, ∃ o, f x = .ok o ∧ R x o)
    (hk : ∀ os, List.Forall₂ R xs os → ∃ c, k (os.filterMap id) = .ok c ∧ P c) :
    ∃ c, (xs.filterMapM f >>= k) = .ok c ∧ P c := by
  obtain ⟨os, hos, hr⟩ := filterMapM_eq_ok_of_forall h
  obtain ⟨c, hc, hP⟩ := hk os hr
  exact ⟨c, by rw [hos]; exact hc, hP⟩

theorem map_eq_map_of_forall₂ {α β γ : Type} {R : α → β → Prop} {f : α → γ} {g : β → γ}
    (hfg : ∀ a b, R a b → f a = g b) {as : List α} {bs : List β} (h : List.Forall₂ R as bs) :
    as.map f = bs.map g := by
  have h' : List.Forall₂ (· = ·) (as.map f) (bs.map g) :=
    List.forall₂_map_left_iff.mpr (List.forall₂_map_right_iff.mpr (h.imp hfg))
  rwa [List.forall₂_eq_eq_eq] at h'

theorem exists_of_mem_forall₂ {α β : Type} {R : α → β → Prop} :
    ∀ {as : List α} {bs : List β}, List.Forall₂ R as bs → ∀ a ∈ as, ∃ b ∈ bs, R a b
  | _, _, .nil, _, ha => absurd ha List.not_mem_nil
  | _, _, .cons hab h, a, ha => by
    rcases List.mem_cons.mp ha with rfl | ha
    · exact ⟨_, List.mem_cons_self, hab⟩
    · obtain ⟨b, hb, hr⟩ := exists_of_mem_forall₂ h a ha
      exact ⟨b, List.mem_cons_of_mem _ hb, hr⟩

/-! ### Reading into fresh values -/

/-- Reading the document `j` at shape `s` into a fresh value succeeds whatever the trail, and
gives a value of the readers' form, present exactly when `v` is, that no reader tells apart
from `v`. -/
def ReadsAs (strict : Bool) (s : Shape) (j : Json) (v : Value) : Prop :=
  ∀ tr, ∃ v', fromJson strict tr s j (zero s) = .ok v' ∧ v'.isNil = v.isNil ∧
    Sound (fun _ => True) s v' ∧ Alike s v' v

theorem fromJson_opt {strict : Bool} {tr : Trail} {s : Shape} {j : Json} (hs : s.isOpt = false)
    (hj : j ≠ .null) : fromJson strict tr (.opt s) j nil = fromJson strict tr s j (zero s) := by
  cases j with
  | null => exact absurd rfl hj
  | _ => cases s <;> first | rfl | simp [Shape.isOpt] at hs

/-- Items read into a storage of zeros, growing it as they need, each read into a zero slot: the
list holds what each item reads as, and the storage left over holds zeros. -/
theorem fromJsonItems_lockstep (strict : Bool) (tr : Trail) (s : Shape)
    {R : Value → Value → Prop} :
    ∀ {xs : List Value} {js : List Json},
    List.Forall₂ (fun x j => ∀ tr', ∃ v, fromJson strict tr' s j (zero s) = .ok v ∧ R v x) xs js →
    ∀ (i : Nat) (store : List Value) (cap : Nat) (acc : List Value), (∀ y ∈ store, y = zero s) →
    ∃ vs spare, fromJsonItems strict tr s i js store cap acc = .ok (.list (acc.reverse ++ vs) spare) ∧
      List.Forall₂ R vs xs ∧ ∀ y ∈ spare, y = zero s
  | [], [], .nil, i, store, cap, acc, hstore => by
    cases acc with
    | nil => exact ⟨[], [], rfl, .nil, fun _ h => absurd h List.not_mem_nil⟩
    | cons a acc => exact ⟨[], store, by simp [fromJsonItems], .nil, hstore⟩
  | x :: xs, j :: js, .cons hx hr, i, store, cap, acc, hstore => by
    obtain ⟨v, hv, hR⟩ := hx (tr.push (toString i))
    -- the slot read into is zero, whether the storage had it or grew to give it
    obtain ⟨rest, cap', hrest, hstep⟩ : ∃ rest cap', (∀ y ∈ rest, y = zero s) ∧
        fromJsonItems strict tr s i (j :: js) store cap acc =
          fromJsonItems strict tr s (i + 1) js rest cap' (v :: acc) := by
      cases store with
      | cons o r =>
        obtain rfl := hstore o List.mem_cons_self
        refine ⟨r, cap, fun y hy => hstore y (List.mem_cons_of_mem _ hy), ?_⟩
        simp only [fromJsonItems, hv]
      | nil =>
        refine ⟨List.replicate (grownCapacity s cap - i - 1) (zero s), grownCapacity s cap,
          fun y hy => List.eq_of_mem_replicate hy, ?_⟩
        simp only [fromJsonItems, hv]
    obtain ⟨vs, spare, h, hF, hsp⟩ :=
      fromJsonItems_lockstep strict tr s hr (i + 1) rest cap' (v :: acc) hrest
    exact ⟨v :: vs, spare, by rw [hstep, h]; simp, .cons hR hF, hsp⟩

/-- Entries with keys written as their decimal text, each key once, read into a map that does
not have them: each is bound at the end, to what its value reads as. -/
theorem fromJsonEntries_lockstep (strict : Bool) (tr : Trail) (s : Shape)
    {R : Value → Value → Prop} :
    ∀ {es : List (Int × Value)} {ms : List (String × Json)},
    List.Forall₂ (fun e m => m.1 = toString e.1 ∧
      ∀ tr', ∃ v, fromJson strict tr' s m.2 (zero s) = .ok v ∧ R v e.2) es ms →
    (∀ e ∈ es, InInt64 e.1) → (es.map (·.1)).Nodup →
    ∀ acc : List (Int × Value), (∀ e ∈ es, ∀ a ∈ acc, a.1 ≠ e.1) →
    ∃ es', fromJsonEntries strict tr s ms acc = .ok (.map (acc ++ es')) ∧
      List.Forall₂ (fun e' e => e'.1 = e.1 ∧ R e'.2 e.2) es' es
  | [], [], .nil, _, _, acc, _ => ⟨[], by simp [fromJsonEntries], .nil⟩
  | e :: es, (k, j) :: ms, .cons ⟨hk, hm⟩ hr, hin, hnd, acc, hacc => by
    obtain rfl : k = toString e.1 := hk
    obtain ⟨v, hv, hR⟩ := hm (tr.push (toString e.1))
    rw [List.map_cons, List.nodup_cons] at hnd
    have hbind : bindKey acc e.1 v = acc ++ [(e.1, v)] :=
      bindKey_of_forall_ne fun a ha => hacc e List.mem_cons_self a ha
    have hacc' : ∀ e' ∈ es, ∀ a ∈ acc ++ [(e.1, v)], a.1 ≠ e'.1 := by
      intro e' he' a ha
      rcases List.mem_append.mp ha with ha | ha
      · exact hacc e' (List.mem_cons_of_mem _ he') a ha
      · obtain rfl := List.mem_singleton.mp ha
        exact fun he => hnd.1 (he ▸ List.mem_map_of_mem he')
    obtain ⟨es', h, hF⟩ := fromJsonEntries_lockstep strict tr s hr
      (fun e' he' => hin e' (List.mem_cons_of_mem _ he')) hnd.2 (acc ++ [(e.1, v)]) hacc'
    refine ⟨(e.1, v) :: es', ?_, .cons ⟨rfl, hR⟩ hF⟩
    -- the key reads back as itself, never as the word for the zero key
    have hkey : (if (toString e.1 == "null") = true then some 0 else parseInt64? (toString e.1)) =
        some e.1 := by
      rw [if_neg (by simpa using toString_ne_null e.1),
        parseInt64?_toString (hin e List.mem_cons_self)]
    simp only [fromJsonEntries]
    rw [hkey]
    simp only at hv
    simp only [hv, hbind, h, List.append_assoc, List.singleton_append]

/-- Members written for the fields of a list `L` of a record's fields, in order and each key
once, read into a record that has none of those keys. A field whose member was left out stays
absent, which its written value is seen as; the member of any other field reads into it. -/
theorem fromJsonMembers_lockstep (strict : Bool) (tr : Trail) (t : Ty) (v : Value) :
    ∀ {L : List Field} {os : List (Option (String × Json))},
    (L.map (·.key)).Nodup → (∀ f ∈ L, f ∈ t.fields) →
    List.Forall₂ (fun f o =>
      (o = Option.none ∧
        Alike f.shape nil (if (v.get f.key).isNil then zero f.shape else v.get f.key)) ∨
      ∃ j, o = Option.some (f.key, j) ∧
        ReadsAs strict f.shape j (if (v.get f.key).isNil then zero f.shape else v.get f.key)) L os →
    ∀ ws : List (String × Value), (∀ f ∈ L, ∀ p ∈ ws, p.1 ≠ f.key) →
    ∃ ws', fromJsonMembers strict tr t (os.filterMap id) (.record ws) = .ok (.record (ws ++ ws')) ∧
      (∀ p ∈ ws', ∃ f ∈ L, p.1 = f.key) ∧
      ∀ f ∈ L, ((record ws').get f.key = nil ∨
          Sound (fun _ => True) f.shape ((record ws').get f.key)) ∧
        Alike f.shape ((record ws').get f.key)
          (if (v.get f.key).isNil then zero f.shape else v.get f.key)
  | [], [], _, _, .nil, ws, _ => ⟨[], by simp [fromJsonMembers], by simp, by simp⟩
  | f :: L, o :: os, hnd, hL, .cons hfo hr, ws, hws => by
    rw [List.map_cons, List.nodup_cons] at hnd
    have hfL : ∀ g ∈ L, g.key ≠ f.key := fun g hg he => hnd.1 (he ▸ List.mem_map_of_mem hg)
    -- what the rest of the members set has the keys of the rest of the fields
    have hrest : ∀ ws' : List (String × Value), (∀ p ∈ ws', ∃ g ∈ L, p.1 = g.key) →
        (record ws').get f.key = nil := fun ws' hws' =>
      get_record_of_forall_ne fun p hp he => by
        obtain ⟨g, hg, hpg⟩ := hws' p hp
        exact hfL g hg (hpg ▸ he)
    rcases hfo with ⟨rfl, hnil⟩ | ⟨j, rfl, hj⟩
    · -- the member was left out, and the field stays absent
      obtain ⟨ws', h, hkeys, hfields⟩ := fromJsonMembers_lockstep strict tr t v hnd.2
        (fun g hg => hL g (List.mem_cons_of_mem _ hg)) hr ws
        (fun g hg => hws g (List.mem_cons_of_mem _ hg))
      refine ⟨ws', by simpa using h, fun p hp => ?_, fun g hg => ?_⟩
      · obtain ⟨g, hg, hpg⟩ := hkeys p hp
        exact ⟨g, List.mem_cons_of_mem _ hg, hpg⟩
      · rcases List.mem_cons.mp hg with rfl | hg
        · rw [hrest ws' hkeys]
          exact ⟨.inl rfl, hnil⟩
        · exact hfields g hg
    · -- the member reads into the field, which the record does not have yet
      obtain ⟨x', hx', -, hsound, halike⟩ := hj (tr.enter t f.key)
      have hcur : currentOf (record ws) f = zero f.shape := by
        rw [currentOf, get_record_of_forall_ne (hws f List.mem_cons_self)]
      have hset : (record ws).set f.key x' = record (ws ++ [(f.key, x')]) :=
        set_record_of_forall_ne (hws f List.mem_cons_self)
      obtain ⟨ws', h, hkeys, hfields⟩ := fromJsonMembers_lockstep strict tr t v hnd.2
        (fun g hg => hL g (List.mem_cons_of_mem _ hg)) hr (ws ++ [(f.key, x')]) (fun g hg p hp => by
          rcases List.mem_append.mp hp with hp | hp
          · exact hws g (List.mem_cons_of_mem _ hg) p hp
          · obtain rfl := List.mem_singleton.mp hp
            exact (hfL g hg).symm)
      refine ⟨(f.key, x') :: ws', ?_, fun p hp => ?_, fun g hg => ?_⟩
      · rw [List.append_assoc, List.singleton_append] at h
        simp only [List.filterMap_cons, id_eq, fromJsonMembers,
          Ty.field?_key (hL f List.mem_cons_self), hcur, hx', hset]
        exact h
      · rcases List.mem_cons.mp hp with rfl | hp
        · exact ⟨f, List.mem_cons_self, rfl⟩
        · obtain ⟨g, hg, hpg⟩ := hkeys p hp
          exact ⟨g, List.mem_cons_of_mem _ hg, hpg⟩
      · rcases List.mem_cons.mp hg with rfl | hg
        · rw [get_record_cons_self]
          exact ⟨.inr hsound, halike⟩
        · rw [get_record_cons_of_ne (hfL g hg).symm]
          exact hfields g hg

/-! ### What the writer writes -/

theorem toJson_opt {fuel : Nat} {s : Shape} {v : Value} (hv : v ≠ nil) :
    toJson (fuel + 1) (.opt s) v = toJson fuel s v := by
  cases v <;> first | rfl | exact absurd rfl hv

/-- A present value of a shape that is not optional is never written as `null`. -/
theorem toJson_ne_null {ok : Float → Prop} {fuel : Nat} {s : Shape} {v : Value} {j : Json}
    (hs : s.isOpt = false) (hv : Sound ok s v) (hnil : v ≠ nil)
    (h : toJson (fuel + 1) s v = .ok j) : j ≠ .null := by
  rintro rfl
  cases hv with
  | str => cases h
  | int => cases h
  | bool => cases h
  | float =>
    simp only [toJson] at h
    split at h <;> cases h
  | nilList => exact hnil rfl
  | nilMap => exact hnil rfl
  | none => exact hnil rfl
  | some => simp [Shape.isOpt] at hs
  | list =>
    simp only [toJson] at h
    obtain ⟨_, -, h⟩ := Except.bind_eq_ok.mp h
    cases h
  | map =>
    simp only [toJson] at h
    obtain ⟨_, -, h⟩ := Except.bind_eq_ok.mp h
    cases h
  | record =>
    simp only [toJson] at h
    obtain ⟨_, -, h⟩ := Except.bind_eq_ok.mp h
    cases h

/-! ### Writing and reading back -/

/-- A double whose number text the readers take back: finite, and read back as itself up to
the sign of zero. -/
def NumberReadsBack (x : Float) : Prop :=
  (x.isNaN || x.isInf) = false ∧
    ∃ y, parseFloat? (Decimal.jsonText x) = some y ∧ canonFloat y = canonFloat x

theorem numberReadsBack_zero : NumberReadsBack 0 :=
  ⟨by decide, 0, rfl, rfl⟩

/-- Every value of the readers' form, with doubles that read back, at a shape `fuel` levels
deep is written, and the document reads back as it. -/
def WritesBack (strict : Bool) (fuel : Nat) : Prop :=
  ∀ s v, s.fitsIn fuel → Sound NumberReadsBack s v → ∃ j, toJson fuel s v = .ok j ∧ ReadsAs strict s j v

section Levels

variable {strict : Bool} {fuel : Nat}

theorem writesBack_list (ih : WritesBack strict fuel) {s : Shape} {xs spare : List Value}
    (hfit : s.fitsIn fuel) (hxs : ∀ x ∈ xs, Sound NumberReadsBack s x) :
    ∃ j, toJson (fuel + 1) (.list s) (.list xs spare) = .ok j ∧
      ReadsAs strict (.list s) j (.list xs spare) := by
  simp only [toJson]
  refine mapM_bind_eq_ok (R := fun x j => ReadsAs strict s j x) (fun x hx => ih s x hfit (hxs x hx))
    (fun js hjs => ⟨_, rfl, fun tr => ?_⟩)
  -- the items read into fresh slots of the storage of an absent list
  obtain ⟨vs, spare', h, hF, hsp⟩ := fromJsonItems_lockstep strict tr s
    (R := fun v x => v.isNil = x.isNil ∧ Sound (fun _ => True) s v ∧ Alike s v x) hjs 0 [] 0 []
    (fun _ h => absurd h List.not_mem_nil)
  refine ⟨_, h, rfl, .list (fun x hx => ?_) (fun y hy => ?_), fun n => ?_⟩
  · obtain ⟨x', -, hr⟩ := exists_of_mem_forall₂ hF x (by simpa using hx)
    exact hr.2.1
  · rw [hsp y hy]
    exact Sound.zero trivial s
  · cases n with
    | zero => rfl
    | succ n =>
      simp only [view_succ_list, asList, List.reverse_nil, List.nil_append]
      rw [map_eq_map_of_forall₂ (fun a b hab => hab.2.2 n) hF]

theorem writesBack_map (ih : WritesBack strict fuel) {s : Shape} {es : List (Int × Value)}
    (hfit : s.fitsIn fuel) (hnd : (es.map (·.1)).Nodup) (hkeys : ∀ e ∈ es, InInt64 e.1)
    (hvals : ∀ e ∈ es, Sound NumberReadsBack s e.2) :
    ∃ j, toJson (fuel + 1) (.intMap s) (.map es) = .ok j ∧ ReadsAs strict (.intMap s) j (.map es) := by
  simp only [toJson]
  -- the entries are written in the order of their keys as text
  have hperm := List.mergeSort_perm es fun a b => decide (toString a.1 ≤ toString b.1)
  refine mapM_bind_eq_ok (R := fun e m => m.1 = toString e.1 ∧ ReadsAs strict s m.2 e.2)
    (fun e he => ?_) (fun ms hms => ⟨_, rfl, fun tr => ?_⟩)
  · obtain ⟨j, hj, hr⟩ := ih s e.2 hfit (hvals e (hperm.subset he))
    exact ⟨(toString e.1, j), by rw [hj]; rfl, rfl, hr⟩
  have hnd' := (hperm.map (·.1)).nodup_iff.mpr hnd
  obtain ⟨es', h, hF⟩ := fromJsonEntries_lockstep strict tr s
    (R := fun v x => v.isNil = x.isNil ∧ Sound (fun _ => True) s v ∧ Alike s v x) hms
    (fun e he => hkeys e (hperm.subset he)) hnd' [] (fun _ _ _ ha => absurd ha List.not_mem_nil)
  -- the map read back has the keys written, each bound to what its value reads as
  have hk' : es'.map (·.1) = (es.mergeSort fun a b => decide (toString a.1 ≤ toString b.1)).map (·.1) :=
    map_eq_map_of_forall₂ (fun _ _ h => h.1) hF
  refine ⟨_, h, rfl, .map ?_ (fun e' he' => ?_) (fun e' he' => ?_), fun n => ?_⟩
  · simpa [hk'] using hnd'
  · obtain ⟨e, he, hee, -⟩ := exists_of_mem_forall₂ hF e' he'
    exact hee ▸ hkeys e (hperm.subset he)
  · obtain ⟨e, -, -, hr⟩ := exists_of_mem_forall₂ hF e' he'
    exact hr.2.1
  · cases n with
    | zero => rfl
    | succ n =>
      simp only [view_succ_intMap, asMap, List.nil_append]
      rw [map_eq_map_of_forall₂ (g := fun e => (e.1, view n s e.2))
        (fun a b hab => by rw [hab.1, hab.2.2.2 n]) hF]
      exact congrArg map (mergeSort_key_eq_of_perm (hperm.map _) (by rw [List.map_map]; exact hnd'))

theorem writesBack_record (ih : WritesBack strict fuel) {t : Ty} {v : Value}
    (hfit : ∀ f ∈ t.fields, f.shape.fitsIn fuel) (hv : Sound NumberReadsBack (.record t) v) :
    ∃ j, toJson (fuel + 1) (.record t) v = .ok j ∧ ReadsAs strict (.record t) j v := by
  obtain ⟨fs, rfl⟩ : ∃ fs, v = .record fs := by
    cases hv with
    | record => exact ⟨_, rfl⟩
  simp only [toJson]
  refine filterMapM_bind_eq_ok (R := fun f o =>
      (o = Option.none ∧ Alike f.shape nil
        (if ((record fs).get f.key).isNil then zero f.shape else (record fs).get f.key)) ∨
      ∃ j, o = Option.some (f.key, j) ∧ ReadsAs strict f.shape j
        (if ((record fs).get f.key).isNil then zero f.shape else (record fs).get f.key))
    (fun f hf => ?_) (fun os hos => ⟨_, rfl, fun tr => ?_⟩)
  · -- a field is written as it reads, zero when absent, unless it is left out as empty
    have hsound : Sound NumberReadsBack f.shape
        (if ((record fs).get f.key).isNil then zero f.shape else (record fs).get f.key) := by
      split
      · exact Sound.zero numberReadsBack_zero f.shape
      · rename_i hpresent
        rcases hv.field hf with hnil | hs
        · simp [hnil, isNil] at hpresent
        · exact hs
    by_cases hempty : (f.omitEmpty && emptyAt f.shape
        (if ((record fs).get f.key).isNil then zero f.shape else (record fs).get f.key)) = true
    · simp only [Bool.and_eq_true] at hempty
      refine ⟨Option.none, by rw [if_pos (by simpa using hempty)]; rfl, .inl ⟨rfl, fun n => ?_⟩⟩
      exact (view_of_emptyAt hsound hempty.2 n).symm
    · obtain ⟨j, hj, hr⟩ := ih f.shape _ (hfit f hf) hsound
      exact ⟨Option.some (f.key, j), by rw [if_neg hempty, hj]; rfl, .inr ⟨j, rfl, hr⟩⟩
  · obtain ⟨ws', h, -, hfields⟩ := fromJsonMembers_lockstep strict tr t (record fs) t.keys_nodup
      (fun f hf => hf) hos [] (fun _ _ _ hp => absurd hp List.not_mem_nil)
    rw [List.nil_append] at h
    refine ⟨_, h, rfl, .record fun f hf hpresent => ?_, fun n => ?_⟩
    · rcases (hfields f hf).1 with hnil | hs
      · rw [hnil] at hpresent
        cases hpresent
      · exact hs
    · cases n with
      | zero => rfl
      | succ n => exact view_record.mpr fun f hf => ((hfields f hf).2.trans (alike_fill f.shape _)) n

theorem writesBack_opt (ih : WritesBack strict fuel) {s : Shape} {v : Value}
    (hfit : (Shape.opt s).fitsIn (fuel + 1)) (hv : Sound NumberReadsBack s v) :
    ∃ j, toJson (fuel + 1) (.opt s) v = .ok j ∧ ReadsAs strict (.opt s) j v := by
  simp only [Shape.fitsIn, Bool.and_eq_true, Bool.not_eq_eq_eq_not, Bool.not_true] at hfit
  by_cases hnil : v = nil
  · subst hnil
    exact ⟨.null, rfl, fun _ => ⟨nil, rfl, rfl, .none s, fun _ => rfl⟩⟩
  obtain ⟨j, hj, hr⟩ := ih s v hfit.2 hv
  cases fuel with
  | zero => simp [Shape.fitsIn] at hfit
  | succ fuel =>
    -- a present value is written as its target, never as `null`, and read as its target
    have hjn : j ≠ .null := toJson_ne_null hfit.1 hv hnil hj
    refine ⟨j, by rw [toJson_opt hnil, hj], fun tr => ?_⟩
    obtain ⟨v', h, hisnil, hs, halike⟩ := hr tr
    have hvn : v.isNil = false := Bool.eq_false_iff.mpr fun h => hnil (isNil_iff.mp h)
    refine ⟨v', by rw [show zero (.opt s) = nil from rfl, fromJson_opt hfit.1 hjn, h], hisnil,
      .some hs, fun n => ?_⟩
    cases n with
    | zero => rfl
    | succ n => simpa [hisnil, hvn] using halike n

end Levels

/-- Writing a value of the readers' form whose doubles read back from their number text, and
reading the document into a fresh value, gives back a value seen alike with it. -/
theorem fromJson_toJson (strict : Bool) : ∀ fuel, WritesBack strict fuel
  | 0 => fun _ _ hfit _ => by simp [Shape.fitsIn] at hfit
  | fuel + 1 => fun s v hfit hv => by
    have ih := fromJson_toJson strict fuel
    cases hv with
    | str n t => exact ⟨.str t, rfl, fun _ => ⟨.str t, rfl, rfl, .str n t, fun _ => rfl⟩⟩
    | @int i hi =>
      refine ⟨.ofInt i, rfl, fun _ => ⟨.int i, ?_, rfl, .int hi, fun _ => rfl⟩⟩
      simp only [fromJson, Json.ofInt]
      rw [parseInt64?_toString hi]
    | @float x hx =>
      obtain ⟨hfin, y, hy, hcanon⟩ := hx
      have hwrite : toJson (fuel + 1) .float (.float x) = .ok (.ofFloat x) := by
        show (if (x.isNaN || x.isInf) = true then _ else _) = _
        rw [hfin]
        rfl
      refine ⟨.ofFloat x, hwrite, fun _ =>
        ⟨.float y, by simp [fromJson, Json.ofFloat, hy], rfl, .float trivial, fun n => ?_⟩⟩
      cases n with
      | zero => rfl
      | succ n => simp [asFloat, hcanon]
    | bool b => exact ⟨.bool b, rfl, fun _ => ⟨.bool b, rfl, rfl, .bool b, fun _ => rfl⟩⟩
    | nilList s => exact ⟨.null, rfl, fun _ => ⟨nil, rfl, rfl, .nilList s, fun _ => rfl⟩⟩
    | nilMap s => exact ⟨.null, rfl, fun _ => ⟨nil, rfl, rfl, .nilMap s, fun _ => rfl⟩⟩
    | none s => exact ⟨.null, rfl, fun _ => ⟨nil, rfl, rfl, .none s, fun _ => rfl⟩⟩
    | list hxs _ => exact writesBack_list ih (by simpa [Shape.fitsIn] using hfit) hxs
    | map hnd hkeys hvals => exact writesBack_map ih (by simpa [Shape.fitsIn] using hfit) hnd hkeys hvals
    | record hfs =>
      exact writesBack_record ih (by simpa [Shape.fitsIn] using hfit) (.record hfs)
    | some hv => exact writesBack_opt ih hfit hv

end WdmNet.Schema

import Mathlib.Tactic.IntervalCases
import WdmNet.Proofs.Schema.JsonForm
import WdmNet.Yaml.Resolve
/-!
What YAML scalars resolve to.

A scalar's meaning is read off its text (`resolveText`) and checked against its tag
(`resolve`). The facts here are the ones a reader of values needs:

* `resolveText_cases` — a text resolves to itself as text, to a word, to a float written from
  its point, to a timestamp, or to a number;
* `resolve_int` — every integer a scalar resolves to is within 64 bits;
* `resolve_resolvedTag` — a scalar tagged with the tag its text resolves to, as a composed plain
  scalar is, resolves as the untagged text;
* `resolveText_toString` — the decimal text of an integer within 64 bits resolves to that
  integer.
-/

namespace WdmNet.Yaml

open Schema

/-! ### What a text can resolve to -/

theorem resolveWord_tag {s : String} {r : String × Scalar} (h : resolveWord s = some r) :
    r.1 = "!!null" ∨ r.1 = "!!bool" ∨ r.1 = "!!float" := by
  dsimp only [resolveWord] at h
  repeat' split at h
  all_goals cases h
  all_goals simp

theorem resolveWord_ne_int {s : String} {r : String × Scalar} (h : resolveWord s = some r) :
    ∀ i, r.2 ≠ .int i := by
  dsimp only [resolveWord] at h
  repeat' split at h
  all_goals cases h
  all_goals intro i hi; cases hi

theorem resolveNumber_tag {s : String} {r : String × Scalar} (h : resolveNumber s = some r) :
    r.1 = "!!int" ∨ r.1 = "!!float" := by
  dsimp only [resolveNumber] at h
  repeat' split at h
  all_goals first
    | (cases h <;> simp)
    | (obtain ⟨n, -, hn⟩ := Option.map_eq_some_iff.mp h; cases hn; simp)

/-- A text resolves, under any tag, to itself as text, to a word, to a float written from its
point, to a timestamp, or to a number. -/
theorem resolveText_cases (tag s : String) :
    resolveText tag s = ("!!str", .str s) ∨ resolveWord s = some (resolveText tag s) ∨
      (∃ x, pointFloat? s = some x ∧ resolveText tag s = ("!!float", .float x)) ∨
      resolveText tag s = ("!!timestamp", .timestamp) ∨
      resolveNumber s = some (resolveText tag s) := by
  generalize hr : resolveText tag s = r
  dsimp only [resolveText] at hr
  repeat' split at hr
  all_goals subst hr
  all_goals first
    | exact .inl rfl
    | (rename_i heq; exact .inr (.inl heq))
    | (rename_i x heq; exact .inr (.inr (.inl ⟨x, heq, rfl⟩)))
    | exact .inr (.inr (.inr (.inl rfl)))
    | skip
  -- a number, or text when the number does not read
  cases hn : resolveNumber s with
  | none => exact .inl rfl
  | some r => exact .inr (.inr (.inr (.inr rfl)))

/-- The tags a text resolves to are the core ones. -/
theorem resolveText_fst_mem (tag s : String) :
    (resolveText tag s).1 ∈ ["!!str", "!!null", "!!bool", "!!float", "!!timestamp", "!!int"] := by
  rcases resolveText_cases tag s with h | h | ⟨x, -, h⟩ | h | h
  · simp [h]
  · rcases resolveWord_tag h with ht | ht | ht <;> simp [ht]
  · simp [h]
  · simp [h]
  · rcases resolveNumber_tag h with ht | ht <;> simp [ht]

theorem shortTag_core : ∀ t ∈ ["!!str", "!!null", "!!bool", "!!float", "!!timestamp", "!!int"],
    shortTag t = t ∧ resolvableTag t = true := by
  decide

/-! ### Integers -/

theorem parseSigned_inInt64 {cs : List Char} {base : Nat} {i : Int}
    (h : parseSigned cs base = some i) : InInt64 i := by
  unfold parseSigned at h
  -- whichever sign was read, the number is checked against the bound before it is given back
  repeat' split at h
  all_goals cases h
  all_goals
    rename_i hn
    simp only [InInt64, Nat.pow_eq] at hn ⊢
    omega

theorem resolveNumber_int {s t : String} {i : Int} (h : resolveNumber s = some (t, .int i)) :
    InInt64 i := by
  dsimp only [resolveNumber] at h
  -- every integer is read by `parseSigned`, in whatever base
  repeat' split at h
  all_goals first
    | (cases h; done)
    | (cases h; rename_i heq; exact parseSigned_inInt64 heq)
    | (obtain ⟨n, -, hn⟩ := Option.map_eq_some_iff.mp h; cases hn)

theorem resolveText_int {tag s : String} {i : Int} (h : (resolveText tag s).2 = .int i) :
    InInt64 i := by
  rcases resolveText_cases tag s with he | hw | ⟨x, -, he⟩ | he | hn
  · rw [he] at h
    cases h
  · exact absurd h (resolveWord_ne_int hw i)
  · rw [he] at h
    cases h
  · rw [he] at h
    cases h
  · rw [show resolveText tag s = ((resolveText tag s).1, .int i) from Prod.ext rfl h] at hn
    exact resolveNumber_int hn

/-- Every integer a scalar resolves to is within 64 bits. -/
theorem resolve_int {tag s t : String} {i : Int} (h : resolve tag s = .ok (t, .int i)) :
    InInt64 i := by
  dsimp only [resolve] at h
  -- only a resolvable tag gives an integer, and then it is the one its text resolves to
  repeat' split at h
  all_goals first
    | cases h
    | skip
  simp only [Except.ok.injEq, Prod.mk.injEq] at h
  exact resolveText_int h.2

/-! ### Tags -/

/-- A text tagged with the tag it resolves to takes the branch the untagged text takes. -/
theorem resolveText_resolvedTag (s : String) : resolveText (resolvedTag s) s = resolveText "" s := by
  unfold resolvedTag
  generalize hr : resolveText "" s = r
  dsimp only [resolveText] at hr ⊢
  -- follow the untagged resolution: the tag it gives leads down the branch it took
  split at hr
  · exact hr
  · rw [if_neg (by simp)] at hr
    repeat' split at hr
    all_goals subst hr
    all_goals simp_all
    -- a word and a number keep their own tags, neither of them that of text
    · rename_i w _ hw
      rcases resolveWord_tag hw with ht | ht | ht <;> simp [ht]
    · cases hn : resolveNumber s with
      | none => simp
      | some w => rcases resolveNumber_tag hn with ht | ht <;> simp [ht]

/-- A scalar tagged with the tag its text resolves to, as a plain scalar of a composed document
is, resolves as the untagged text. -/
theorem resolve_resolvedTag (s : String) : resolve (resolvedTag s) s = .ok (resolveText "" s) := by
  obtain ⟨hshort, hres⟩ := shortTag_core (resolvedTag s) (resolveText_fst_mem "" s)
  simp only [resolve, hshort, hres, Bool.not_true, Bool.false_eq_true, if_false,
    resolveText_resolvedTag]
  simp [resolvedTag]

theorem resolveText_str (s : String) : resolveText "!!str" s = ("!!str", .str s) := by
  dsimp only [resolveText]
  split <;> simp

theorem resolve_str (s : String) : resolve "!!str" s = .ok ("!!str", .str s) := by
  obtain ⟨hshort, hres⟩ := shortTag_core "!!str" (by simp)
  simp [resolve, hshort, hres, resolveText_str]

/-! ### The decimal text of an integer -/

/-- The decimal digits of a positive number do not start with zero. -/
theorem head?_toDigits_ne_zero {m : Nat} (hm : 0 < m) : (Nat.toDigits 10 m).head? ≠ some '0' := by
  by_cases hlt : m < 10
  · rw [Nat.toDigits_of_lt_base hlt]
    interval_cases m <;> decide
  · -- the leading digit is that of the number without its last digit
    have hq : 0 < m / 10 := Nat.div_pos (by omega) (by decide)
    have hsplit : Nat.toDigits 10 (m / 10) ++ Nat.toDigits 10 (m % 10) = Nat.toDigits 10 m := by
      have h := Nat.toDigits_append_toDigits (b := 10) (by decide) hq (Nat.mod_lt m (by decide))
      rwa [Nat.div_add_mod] at h
    obtain ⟨c, r, hcr⟩ := List.exists_cons_of_ne_nil (Nat.toDigits_ne_nil (n := m / 10) (b := 10))
    have ih := head?_toDigits_ne_zero hq
    rw [hcr] at ih
    rw [← hsplit, hcr]
    simpa using ih
termination_by m
decreasing_by omega

theorem digitValue_of_isDigit {c : Char} (h : c.isDigit) : digitValue c = some (c.toNat - 48) := by
  have h' : ('0' ≤ c && c ≤ '9') = true := h
  simp [digitValue, h']

theorem le_foldl_digits (cs : List Char) (acc : Nat) :
    acc ≤ cs.foldl (fun n c => 10 * n + (c.toNat - 48)) acc := by
  induction cs generalizing acc with
  | nil => exact le_refl acc
  | cons c cs ih => exact le_trans (by omega) (ih (10 * acc + (c.toNat - 48)))

/-- Decimal digits whose number stays below `2^64` are read as that number. -/
theorem foldlM_digits {cs : List Char} (hd : ∀ c ∈ cs, c.isDigit) {acc : Nat}
    (hlt : cs.foldl (fun n c => 10 * n + (c.toNat - 48)) acc < Nat.pow 2 64) :
    cs.foldlM (fun n c => (digitValue c).bind fun d =>
      if d < 10 && 10 * n + d < Nat.pow 2 64 then some (10 * n + d) else none) acc =
      some (cs.foldl (fun n c => 10 * n + (c.toNat - 48)) acc) := by
  induction cs generalizing acc with
  | nil => rfl
  | cons c cs ih =>
    have hc := hd c List.mem_cons_self
    have hdig : c.toNat - 48 < 10 := by
      simp only [Char.isDigit, Bool.and_eq_true, decide_eq_true_eq] at hc
      have h9 : c.toNat ≤ 57 := by
        rw [Char.toNat]
        exact Fin.mk_le_mk.mp hc.2
      omega
    have hstep : 10 * acc + (c.toNat - 48) < Nat.pow 2 64 :=
      lt_of_le_of_lt (le_foldl_digits cs _) hlt
    rw [List.foldlM_cons, digitValue_of_isDigit hc]
    simp only [Option.bind_some, hdig, hstep, decide_true, Bool.and_self, if_true]
    exact ih (fun c' hc' => hd c' (List.mem_cons_of_mem _ hc')) hlt

/-- The decimal digits of a number below `2^64` read back as the number. -/
theorem parseUnsigned_toDigits {m : Nat} (hm : m < Nat.pow 2 64) :
    parseUnsigned (Nat.toDigits 10 m) 0 = some m := by
  rcases Nat.eq_zero_or_pos m with rfl | hpos
  · rfl
  obtain ⟨c, r, hcr⟩ := List.exists_cons_of_ne_nil (Nat.toDigits_ne_nil (n := m) (b := 10))
  have hc0 : c ≠ '0' := by
    have h := head?_toDigits_ne_zero hpos
    rw [hcr] at h
    simpa using h
  have hall : ∀ d ∈ Nat.toDigits 10 m, d.isDigit := fun d hd =>
    Nat.isDigit_of_mem_toDigits (by decide) (by decide) hd
  have hnone : (Nat.toDigits 10 m).contains '_' = false :=
    Bool.eq_false_iff.mpr fun h => absurd (hall '_' (List.contains_iff_mem.mp h)) (by decide)
  unfold parseUnsigned
  rw [hcr] at hnone ⊢
  simp only [List.isEmpty_cons, Bool.false_eq_true, if_false, bne_self_eq_false]
  split
  · rename_i h
    rw [hnone, Bool.false_and] at h
    cases h
  -- a number that does not start with zero is read in base ten
  split
  · rename_i heq
    exact absurd (List.cons.inj heq).1 hc0
  · rename_i heq
    exact absurd (List.cons.inj heq).1 hc0
  have hfilter : (c :: r).filter (· != '_') = c :: r :=
    List.filter_eq_self.mpr fun d hd => by
      have hdig := hall d (hcr ▸ hd)
      simp only [bne_iff_ne, ne_eq]
      rintro rfl
      exact absurd hdig (by decide)
  simp only [hfilter, List.isEmpty_cons, Bool.false_eq_true, if_false, digitsBelow64]
  rw [← hcr, foldlM_digits hall (by rw [foldl_toDigits]; exact hm), foldl_toDigits]

theorem toList_toString_ofNat (m : Nat) : (toString (Int.ofNat m)).toList = Nat.toDigits 10 m := by
  simp [Int.toString_eq_repr, Int.repr, Nat.toList_repr]

theorem toList_toString_negSucc (m : Nat) :
    (toString (Int.negSucc m)).toList = '-' :: Nat.toDigits 10 (m + 1) := by
  simp [Int.toString_eq_repr, Int.repr, Nat.toList_repr]

/-- The decimal text of an integer: a digit or a minus sign, then digits. -/
theorem toList_toString (i : Int) : ∃ c rest, (toString i).toList = c :: rest ∧
    (c.isDigit ∨ c = '-') ∧ ∀ d ∈ rest, d.isDigit := by
  have hdigits : ∀ m, ∀ d ∈ Nat.toDigits 10 m, d.isDigit := fun _ _ hd =>
    Nat.isDigit_of_mem_toDigits (by decide) (by decide) hd
  cases i with
  | ofNat m =>
    obtain ⟨c, r, hcr⟩ := List.exists_cons_of_ne_nil (Nat.toDigits_ne_nil (n := m) (b := 10))
    refine ⟨c, r, by rw [toList_toString_ofNat, hcr], .inl (hdigits m c (by simp [hcr])),
      fun d hd => hdigits m d (by simp [hcr, hd])⟩
  | negSucc m =>
    exact ⟨'-', _, toList_toString_negSucc m, .inr rfl, hdigits (m + 1)⟩

/-- The decimal text of an integer within 64 bits reads back as the integer. -/
theorem parseSigned_toString {i : Int} (h : InInt64 i) :
    parseSigned (toString i).toList 0 = some i := by
  obtain ⟨hlo, hhi⟩ := h
  cases i with
  | ofNat m =>
    obtain ⟨c, r, hcr⟩ := List.exists_cons_of_ne_nil (Nat.toDigits_ne_nil (n := m) (b := 10))
    have hc : c.isDigit :=
      Nat.isDigit_of_mem_toDigits (by decide) (by decide) (hcr ▸ List.mem_cons_self)
    have hm : m < Nat.pow 2 63 := by
      simp only [Nat.pow_eq, Int.ofNat_eq_natCast] at hhi ⊢
      omega
    -- the text starts with a digit, so it carries no sign
    have hminus : (c == '-') = false := by
      cases hc' : c == '-'
      · rfl
      · rw [beq_iff_eq.mp hc'] at hc
        cases hc
    have hplus : (c == '+') = false := by
      cases hc' : c == '+'
      · rfl
      · rw [beq_iff_eq.mp hc'] at hc
        cases hc
    have hnum : parseUnsigned (c :: r) 0 = some m := hcr ▸ parseUnsigned_toDigits (by
      simp only [Nat.pow_eq] at hm ⊢
      omega)
    rw [toList_toString_ofNat, hcr]
    simp only [parseSigned, hminus, hplus, Bool.false_eq_true, if_false, hnum, hm, if_true]
    rfl
  | negSucc m =>
    have hm : m + 1 ≤ Nat.pow 2 63 := by
      simp only [Nat.pow_eq, Int.negSucc_eq] at hlo ⊢
      omega
    have hnum : parseUnsigned (Nat.toDigits 10 (m + 1)) 0 = some (m + 1) :=
      parseUnsigned_toDigits (by
        simp only [Nat.pow_eq] at hm ⊢
        omega)
    rw [toList_toString_negSucc]
    simp only [parseSigned, beq_self_eq_true, if_true, hnum, hm]
    rfl

/-- A word that resolves by itself is no decimal integer. -/
theorem parseInt64?_of_resolveWord {s : String} {r : String × Scalar} (h : resolveWord s = some r) :
    parseInt64? s = none := by
  dsimp only [resolveWord] at h
  repeat' split at h
  all_goals cases h
  all_goals
    rename_i hw
    simp only [Bool.or_eq_true, beq_iff_eq, or_assoc] at hw
    rcases hw with rfl | rfl | rfl | rfl | rfl | rfl <;> rfl

theorem datePart_eq_none {cs : List Char} (h : cs[4]? ≠ some '-') : datePart cs = none := by
  unfold datePart
  split
  · exact absurd rfl h
  · rfl

/-- A text that starts as a number does, that is no word and no timestamp, resolves untagged to
the number it reads as. -/
theorem resolveText_number {s : String} {r : String × Scalar} {c : Char} {rest : List Char}
    (hs : s.toList = c :: rest) (hc : c.isDigit ∨ c = '-') (hw : resolveWord s = none)
    (hts : isTimestamp s = false) (hn : resolveNumber s = some r) : resolveText "" s = r := by
  dsimp only [resolveText]
  rw [hs]
  rcases hc with hc | rfl
  · have hsign : (c == '+' || c == '-') = false := by
      cases h : (c == '+' || c == '-')
      · rfl
      · simp only [Bool.or_eq_true, beq_iff_eq] at h
        rcases h with rfl | rfl <;> cases hc
    simp [hsign, hc, hw, hts, hn]
  · simp [hw, hts, hn]

/-- The decimal text of an integer within 64 bits resolves to that integer. -/
theorem resolveText_toString {i : Int} (h : InInt64 i) :
    resolveText "" (toString i) = ("!!int", .int i) := by
  obtain ⟨c, rest, hs, hc, hrest⟩ := toList_toString i
  have hdash : ∀ d ∈ rest, d ≠ '-' := fun d hd he => by
    have := hrest d hd
    rw [he] at this
    cases this
  -- a number is no word, since words do not read as integers
  have hw : resolveWord (toString i) = none := by
    cases hr : resolveWord (toString i) with
    | none => rfl
    | some r =>
      have := parseInt64?_of_resolveWord hr
      rw [parseInt64?_toString h] at this
      cases this
  have hts : isTimestamp (toString i) = false := by
    have hd : (toString i).toList[4]? ≠ some '-' := by
      rw [hs]
      intro h4
      exact hdash '-' (List.mem_of_getElem? (by simpa using h4)) rfl
    simp only [isTimestamp, datePart_eq_none hd]
  have hn : resolveNumber (toString i) = some ("!!int", .int i) := by
    have hplain : (toString i).toList.filter (· != '_') = (toString i).toList := by
      rw [hs]
      refine List.filter_eq_self.mpr fun d hd => ?_
      have hne : d ≠ '_' := by
        rintro rfl
        rcases List.mem_cons.mp hd with he | hd
        · rw [← he] at hc
          rcases hc with hc | hc <;> cases hc
        · cases hrest '_' hd
      simpa using hne
    simp only [resolveNumber, hplain, parseSigned_toString h]
  exact resolveText_number hs hc hw hts hn

end WdmNet.Yaml

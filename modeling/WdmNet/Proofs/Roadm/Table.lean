import Mathlib.Data.List.DropRight
import Mathlib.Data.List.TakeWhile
import Mathlib.Logic.Relation
import WdmNet.Network.Roadm
import WdmNet.Proofs.Except
/-!
The switch table of a ROADM stays consistent.

A ROADM keeps its rules by id and, beside them, the index `route` from an input port and a
channel to the id of the rule that switches it. `Roadm.TableInv` says that the two agree: the
index holds exactly the pairs (input port, channel) of the installed rules, each filed under
the id of its rule, and every installed rule is well formed (`SwitchRule.WellFormed`): it is
filed under its own id, which is neither empty nor padded with blanks, its ports are not
negative, and its channels are grid channels in strictly increasing order, at least one.

Every call on the table keeps the invariant, whether it succeeds or is refused: installing
(the identical reinstall changes nothing, and a new rule only takes pairs nobody routes),
deleting one rule or all of them, moving a rule to another output, setting a VOA target and
resetting. Each successful call is one `Roadm.Edit`; a refused call changes nothing. So no
pair is routed by two rules, and the rule that `ruleFor` finds for a pair has that input port
and that channel.

Main statement: `Roadm.switch_table_stays_consistent`.
-/

namespace WdmNet

/-! ### Keys of the switch table -/

/-- Pairs of a port and a channel compare by port, then by channel. -/
theorem PortChannel.compare_eq_compareLex :
    (compare : PortChannel → PortChannel → Ordering) =
      compareLex (compareOn (·.port)) (compareOn (·.channel)) := by
  funext a b
  obtain ⟨p, c⟩ := a
  obtain ⟨p', c'⟩ := b
  show (compare p p').then ((compare c c').then .eq) = (compare p p').then (compare c c')
  cases compare c c' <;> rfl

instance : Std.TransCmp (compare : PortChannel → PortChannel → Ordering) :=
  PortChannel.compare_eq_compareLex ▸ inferInstance

instance : Std.LawfulEqCmp (compare : PortChannel → PortChannel → Ordering) where
  eq_of_compare {a b} h := by
    rw [PortChannel.compare_eq_compareLex, compareLex_eq_eq] at h
    obtain ⟨p, c⟩ := a
    obtain ⟨p', c'⟩ := b
    simp only [compareOn, Std.LawfulEqCmp.compare_eq_iff_eq] at h
    rw [h.1, h.2]

theorem get?_insert_eq {α β : Type} [DecidableEq α] {cmp : α → α → Ordering} [Std.TransCmp cmp]
    [Std.LawfulEqCmp cmp] (m : Std.TreeMap α β cmp) (k a : α) (v : β) :
    (m.insert k v).get? a = if k = a then some v else m.get? a := by
  simp [Std.TreeMap.getElem?_insert, Std.LawfulEqCmp.compare_eq_iff_eq]

theorem get?_erase_eq {α β : Type} [DecidableEq α] {cmp : α → α → Ordering} [Std.TransCmp cmp]
    [Std.LawfulEqCmp cmp] (m : Std.TreeMap α β cmp) (k a : α) :
    (m.erase k).get? a = if k = a then none else m.get? a := by
  simp [Std.TreeMap.getElem?_erase, Std.LawfulEqCmp.compare_eq_iff_eq]

namespace Roadm

/-- Filing one id under every channel of an input port changes the entries of those pairs
only. -/
theorem get?_foldl_insert (m : Std.TreeMap PortChannel String) (i : Int) (chs : List Int)
    (id : String) (k : PortChannel) :
    (chs.foldl (fun m ch => m.insert ⟨i, ch⟩ id) m).get? k =
      if k.port = i ∧ k.channel ∈ chs then some id else m.get? k := by
  induction chs generalizing m with
  | nil => simp
  | cons ch chs ih =>
    rw [List.foldl_cons, ih]
    obtain ⟨p, c⟩ := k
    simp only [Std.TreeMap.get?_eq_getElem?, Std.TreeMap.getElem?_insert,
      Std.LawfulEqCmp.compare_eq_iff_eq, PortChannel.mk.injEq, List.mem_cons]
    by_cases hp : p = i <;> by_cases hc : c = ch <;> simp_all [eq_comm]

/-- Erasing every channel of an input port removes the entries of those pairs only. -/
theorem get?_foldl_erase (m : Std.TreeMap PortChannel String) (i : Int) (chs : List Int)
    (k : PortChannel) :
    (chs.foldl (fun m ch => m.erase ⟨i, ch⟩) m).get? k =
      if k.port = i ∧ k.channel ∈ chs then none else m.get? k := by
  induction chs generalizing m with
  | nil => simp
  | cons ch chs ih =>
    rw [List.foldl_cons, ih]
    obtain ⟨p, c⟩ := k
    simp only [Std.TreeMap.get?_eq_getElem?, Std.TreeMap.getElem?_erase,
      Std.LawfulEqCmp.compare_eq_iff_eq, PortChannel.mk.injEq, List.mem_cons]
    by_cases hp : p = i <;> by_cases hc : c = ch <;> simp_all [eq_comm]

end Roadm

/-! ### Normalised channel lists and ids -/

theorem mem_insertDedup {x z : Int} {l : List Int} : z ∈ insertDedup x l ↔ z = x ∨ z ∈ l := by
  induction l with
  | nil => simp [insertDedup]
  | cons y ys ih =>
    unfold insertDedup
    split
    · simp
    · split
      · rename_i hxy
        subst hxy
        simp
      · rw [List.mem_cons, ih, List.mem_cons]
        tauto

/-- Putting an integer into a strictly increasing list keeps it strictly increasing. -/
theorem insertDedup_increasing (x : Int) {l : List Int} (hl : l.Pairwise (· < ·)) :
    (insertDedup x l).Pairwise (· < ·) := by
  induction l with
  | nil => simp [insertDedup]
  | cons y ys ih =>
    obtain ⟨hy, hys⟩ := List.pairwise_cons.mp hl
    unfold insertDedup
    split
    · rename_i hxy
      exact List.pairwise_cons.mpr ⟨fun z hz => by
        rcases List.mem_cons.mp hz with rfl | hz
        · exact hxy
        · exact Int.lt_trans hxy (hy z hz), hl⟩
    · split
      · exact hl
      · -- the integer goes after `y`, which stays below everything after it
        have hgt : y < x := by omega
        refine List.pairwise_cons.mpr ⟨fun z hz => ?_, ih hys⟩
        rcases mem_insertDedup.mp hz with rfl | hz
        · exact hgt
        · exact hy z hz

theorem mem_sortDedup {xs : List Int} {x : Int} : x ∈ sortDedup xs ↔ x ∈ xs := by
  induction xs with
  | nil => simp [sortDedup]
  | cons y ys ih =>
    rw [sortDedup, List.foldr_cons, mem_insertDedup, ← sortDedup, ih, List.mem_cons]

theorem sortDedup_increasing (xs : List Int) : (sortDedup xs).Pairwise (· < ·) := by
  induction xs with
  | nil => simp [sortDedup]
  | cons y ys ih =>
    rw [sortDedup, List.foldr_cons, ← sortDedup]
    exact insertDedup_increasing y ih

theorem sortDedup_ne_nil {xs : List Int} (h : xs ≠ []) : sortDedup xs ≠ [] := by
  obtain ⟨x, hx⟩ := List.exists_mem_of_ne_nil xs h
  exact List.ne_nil_of_mem (mem_sortDedup.mpr hx)

/-- Trimming a trimmed text changes nothing. -/
theorem Text.trimSpace_trimSpace (s : String) :
    Text.trimSpace (Text.trimSpace s) = Text.trimSpace s := by
  -- what is left after dropping the leading blanks keeps no leading blank when the trailing
  -- blanks go too, since it is a prefix of a text that starts with no blank
  have lead : ∀ A : List Char, A.dropWhile Text.isSpace = A →
      (A.rdropWhile Text.isSpace).dropWhile Text.isSpace = A.rdropWhile Text.isSpace := by
    intro A hA
    obtain ⟨T, hT⟩ := List.rdropWhile_prefix (p := Text.isSpace) (l := A)
    generalize A.rdropWhile Text.isSpace = R at hT ⊢
    subst hT
    rw [List.dropWhile_eq_self_iff] at hA ⊢
    intro hl
    have hA0 := hA (by rw [List.length_append]; omega)
    rwa [List.getElem_append_left hl] at hA0
  unfold Text.trimSpace
  rw [String.toList_ofList]
  change String.ofList (List.rdropWhile _ (List.dropWhile _
      (List.rdropWhile _ (List.dropWhile _ s.toList)))) =
    String.ofList (List.rdropWhile _ (List.dropWhile _ s.toList))
  rw [lead _ (List.dropWhile_idempotent _ _), List.rdropWhile_idempotent]

/-! ### The invariant -/

/-- What an installed rule satisfies: it is filed under its own id, which is neither empty nor
padded with blanks; its ports are not negative; and its channels are grid channels in strictly
increasing order, at least one. -/
structure SwitchRule.WellFormed (rule : SwitchRule) (id : String) : Prop where
  id_eq : rule.id = id
  id_ne_empty : id ≠ ""
  id_trimmed : Text.trimSpace id = id
  inPort_nonneg : 0 ≤ rule.inPort
  outPort_nonneg : 0 ≤ rule.outPort
  channels_ne_nil : rule.channels ≠ []
  channels_increasing : rule.channels.Pairwise (· < ·)
  channels_on_grid : ∀ ch ∈ rule.channels, Grid.isChannel ch = true

namespace Roadm

/-- The switch table is consistent: `route` files exactly the pairs (input port, channel) of
the installed rules, each under the id of its rule, and every installed rule is well formed. -/
structure TableInv (r : Roadm) : Prop where
  route_iff : ∀ i ch id, r.route.get? ⟨i, ch⟩ = some id ↔
    ∃ rule, r.rules.get? id = some rule ∧ rule.inPort = i ∧ ch ∈ rule.channels
  wellFormed : ∀ id rule, r.rules.get? id = some rule → rule.WellFormed id

variable {r r' : Roadm}

theorem TableInv.of_tables (h : r.TableInv) (hr : r'.rules = r.rules) (hq : r'.route = r.route) :
    r'.TableInv :=
  ⟨by rw [hr, hq]; exact h.route_iff, by rw [hr]; exact h.wellFormed⟩

theorem TableInv.of_empty (hr : r.rules = {}) (hq : r.route = {}) : r.TableInv :=
  ⟨fun i ch id => by simp [hr, hq], fun id rule => by simp [hr]⟩

theorem tableInv_create (h : Nat) (name : String) (cfg : RoadmConfig) : (create h name cfg).TableInv :=
  TableInv.of_empty rfl rfl

theorem tableInv_reset (r : Roadm) : r.reset.TableInv := TableInv.of_empty rfl rfl

theorem TableInv.route_of_rule (h : r.TableInv) {id : String} {rule : SwitchRule}
    (hr : r.rules.get? id = some rule) {ch : Int} (hch : ch ∈ rule.channels) :
    r.route.get? ⟨rule.inPort, ch⟩ = some id :=
  (h.route_iff _ _ _).mpr ⟨rule, hr, rfl, hch⟩

/-- No pair is routed by two rules. -/
theorem TableInv.route_unique (h : r.TableInv) {id₁ id₂ : String} {rule₁ rule₂ : SwitchRule}
    (h₁ : r.rules.get? id₁ = some rule₁) (h₂ : r.rules.get? id₂ = some rule₂)
    (hin : rule₁.inPort = rule₂.inPort) {ch : Int} (hc₁ : ch ∈ rule₁.channels)
    (hc₂ : ch ∈ rule₂.channels) : id₁ = id₂ := by
  have e₁ := h.route_of_rule h₁ hc₁
  have e₂ := h.route_of_rule h₂ hc₂
  rw [hin, e₂] at e₁
  exact (Option.some.inj e₁).symm

/-- The rule found for a pair is the rule filed under the id the index gives. -/
theorem ruleFor_eq_some {i ch : Int} {rule : SwitchRule} :
    r.ruleFor i ch = some rule ↔ ∃ id, r.route.get? ⟨i, ch⟩ = some id ∧ r.rules.get? id = some rule := by
  unfold ruleFor
  split
  · rename_i id hid
    exact ⟨fun h => ⟨id, hid, h⟩, fun ⟨id', hid', h⟩ => by rw [hid] at hid'; cases hid'; exact h⟩
  · rename_i hnone
    exact ⟨nofun, fun ⟨id', hid', _⟩ => by rw [hnone] at hid'; cases hid'⟩

/-- The rule found for a pair has that input port and that channel. -/
theorem TableInv.ruleFor_sound (h : r.TableInv) {i ch : Int} {rule : SwitchRule}
    (hf : r.ruleFor i ch = some rule) : rule.inPort = i ∧ ch ∈ rule.channels := by
  obtain ⟨id, hid, hr⟩ := ruleFor_eq_some.mp hf
  obtain ⟨rule', hr', hin, hch⟩ := (h.route_iff _ _ _).mp hid
  rw [hr'] at hr
  cases hr
  exact ⟨hin, hch⟩

/-! ### Every call keeps it -/

/-- Filing a well-formed rule under a free id, on pairs that nobody routes, keeps the table
consistent. -/
theorem TableInv.insertRule (h : r.TableInv) {id : String} {rule : SwitchRule}
    (hfree : r.rules.get? id = none)
    (hpairs : ∀ ch ∈ rule.channels, r.route.get? ⟨rule.inPort, ch⟩ = none)
    (hwf : rule.WellFormed id) :
    ({ r with rules := r.rules.insert id rule
              route := rule.channels.foldl (fun m ch => m.insert ⟨rule.inPort, ch⟩ id) r.route } :
      Roadm).TableInv := by
  have hrules : ∀ id', (r.rules.insert id rule).get? id' =
      if id = id' then some rule else r.rules.get? id' := by
    intro id'
    simp [Std.TreeMap.getElem?_insert]
  refine ⟨fun i ch id' => ?_, fun id' rule' hr' => ?_⟩
  · dsimp only
    rw [get?_foldl_insert, hrules]
    by_cases hid : id = id'
    · -- the new rule's own id: filed exactly on its pairs, and nowhere before
      subst hid
      simp only [if_true, Option.some.injEq, exists_eq_left']
      by_cases hnew : i = rule.inPort ∧ ch ∈ rule.channels
      · simp only [hnew, and_self, if_true]
      · rw [if_neg hnew]
        constructor
        · intro hold
          obtain ⟨rule', hr', -⟩ := (h.route_iff _ _ _).mp hold
          rw [hfree] at hr'
          cases hr'
        · rintro ⟨rfl, hch⟩
          exact absurd ⟨rfl, hch⟩ hnew
    · -- another id: filed where it was, and the new pairs were free
      rw [if_neg hid, ← h.route_iff]
      by_cases hnew : i = rule.inPort ∧ ch ∈ rule.channels
      · obtain ⟨rfl, hch⟩ := hnew
        simp only [hch, and_self, if_true, Option.some.injEq, hid, false_iff, hpairs ch hch]
        simp
      · rw [if_neg hnew]
  · dsimp only at hr'
    rw [hrules] at hr'
    by_cases hid : id = id'
    · subst hid
      rw [if_pos rfl] at hr'
      cases hr'
      exact hwf
    · rw [if_neg hid] at hr'
      exact h.wellFormed id' rule' hr'

/-- What a successful install did. The rule is the trimmed id with the sorted channels, and it
is well formed; either the identical rule was filed under that id already and nothing changed,
or the id was free, none of the rule's pairs was routed, and the rule was filed. -/
theorem installRule_eq_ok {ruleId : String} {i o : Int} {chs : List Int}
    (h : r.installRule ruleId i o chs = .ok r') :
    (SwitchRule.mk (Text.trimSpace ruleId) i o (sortDedup chs)).WellFormed (Text.trimSpace ruleId) ∧
    ((r.rules.get? (Text.trimSpace ruleId) = some ⟨Text.trimSpace ruleId, i, o, sortDedup chs⟩ ∧
        r' = r) ∨
      (r.rules.get? (Text.trimSpace ruleId) = none ∧
        (∀ ch ∈ sortDedup chs, r.route.get? ⟨i, ch⟩ = none) ∧
        r' = { r with
          rules := r.rules.insert (Text.trimSpace ruleId) ⟨Text.trimSpace ruleId, i, o, sortDedup chs⟩
          route := (sortDedup chs).foldl (fun m ch => m.insert ⟨i, ch⟩ (Text.trimSpace ruleId))
            r.route })) := by
  unfold installRule at h
  dsimp only at h
  -- the checks, in order: id, ports, channels present, channels on the grid
  obtain ⟨hid, h⟩ := Except.ite_throw_eq_ok h
  obtain ⟨hports, h⟩ := Except.ite_throw_eq_ok h
  obtain ⟨hchs, h⟩ := Except.ite_throw_eq_ok h
  obtain ⟨_, hloop, h⟩ := Except.bind_eq_ok.mp h
  have hgrid := Except.forIn_eq_ok (fun ch => by split <;> nofun) hloop
  have hwf : (SwitchRule.mk (Text.trimSpace ruleId) i o (sortDedup chs)).WellFormed
      (Text.trimSpace ruleId) := by
    simp only [Bool.or_eq_true, decide_eq_true_eq, not_or, Int.not_lt] at hports
    refine ⟨rfl, fun he => hid (String.isEmpty_iff.mpr he), Text.trimSpace_trimSpace _,
      hports.1, hports.2, sortDedup_ne_nil fun he => hchs (by simp [he]),
      sortDedup_increasing chs, fun ch hch => ?_⟩
    simpa using (Except.ite_throw_eq_ok (hgrid ch hch)).1
  refine ⟨hwf, ?_⟩
  split at h
  · -- an id that is taken: only the identical rule is accepted, and nothing changes
    rename_i existing hex
    by_cases heq : (existing == ⟨Text.trimSpace ruleId, i, o, sortDedup chs⟩) = true
    · rw [if_pos heq] at h
      cases h
      exact .inl ⟨by rw [hex, beq_iff_eq.mp heq], rfl⟩
    · rw [if_neg heq] at h
      cases h
  · -- a free id: every pair must be free too
    rename_i hfree
    obtain ⟨_, hpairs, h⟩ := Except.bind_eq_ok.mp h
    have hfreePairs := Except.forIn_eq_ok (fun ch => by split <;> nofun) hpairs
    cases h
    refine .inr ⟨hfree, fun ch hch => ?_, rfl⟩
    have := hfreePairs ch hch
    split at this
    · cases this
    · assumption

theorem TableInv.installRule (h : r.TableInv) {ruleId : String} {i o : Int} {chs : List Int}
    (he : r.installRule ruleId i o chs = .ok r') : r'.TableInv := by
  obtain ⟨hwf, ⟨-, rfl⟩ | ⟨hfree, hpairs, rfl⟩⟩ := installRule_eq_ok he
  · exact h
  · exact h.insertRule hfree hpairs hwf

@[simp] theorem removeRule_rules (rule : SwitchRule) : (r.removeRule rule).rules = r.rules.erase rule.id :=
  rfl

@[simp] theorem removeRule_route (rule : SwitchRule) :
    (r.removeRule rule).route = rule.channels.foldl (fun m ch => m.erase ⟨rule.inPort, ch⟩) r.route :=
  rfl

/-- Removing an installed rule takes its id out of the rules and its pairs out of the index,
and nothing else. -/
theorem TableInv.removeRule (h : r.TableInv) {id : String} {rule : SwitchRule}
    (hr : r.rules.get? id = some rule) :
    (r.removeRule rule).TableInv ∧ (r.removeRule rule).rules.get? id = none ∧
      ∀ ch ∈ rule.channels, (r.removeRule rule).route.get? ⟨rule.inPort, ch⟩ = none := by
  have hid : rule.id = id := (h.wellFormed id rule hr).id_eq
  have hrules : ∀ id', (r.removeRule rule).rules.get? id' =
      if id = id' then none else r.rules.get? id' := by
    intro id'
    simp [Std.TreeMap.getElem?_erase, hid]
  refine ⟨⟨fun i ch id' => ?_, fun id' rule' hr' => ?_⟩, by rw [hrules, if_pos rfl],
    fun ch hch => by rw [removeRule_route, get?_foldl_erase, if_pos ⟨rfl, hch⟩]⟩
  · rw [removeRule_route, get?_foldl_erase, hrules]
    dsimp only
    by_cases hid' : id = id'
    · -- the removed id: filed nowhere now, and it was filed exactly on the removed pairs
      subst hid'
      simp only [if_true, reduceCtorEq, false_and, exists_false, iff_false]
      intro hroute
      split at hroute
      · cases hroute
      · rename_i hold
        obtain ⟨rule', hr', hin, hch⟩ := (h.route_iff _ _ _).mp hroute
        rw [hr] at hr'
        cases hr'
        exact hold ⟨hin.symm, hch⟩
    · -- another id: its pairs are not among the removed ones
      rw [if_neg hid', ← h.route_iff]
      by_cases hold : i = rule.inPort ∧ ch ∈ rule.channels
      · obtain ⟨rfl, hch⟩ := hold
        simp only [hch, and_self, if_true, reduceCtorEq, false_iff]
        intro hroute
        rw [h.route_of_rule hr hch] at hroute
        exact hid' (Option.some.inj hroute)
      · rw [if_neg hold]
  · rw [hrules] at hr'
    split at hr'
    · cases hr'
    · exact h.wellFormed id' rule' hr'

/-- What a successful delete did: the rule of that id is removed. -/
theorem deleteRule_eq_ok {ruleId : String} (h : r.deleteRule ruleId = .ok r') :
    ∃ rule, r.rules.get? ruleId = some rule ∧ r' = r.removeRule rule := by
  unfold deleteRule at h
  split at h
  · cases h
    exact ⟨_, ‹_›, rfl⟩
  · cases h

theorem TableInv.deleteRule (h : r.TableInv) {ruleId : String} (he : r.deleteRule ruleId = .ok r') :
    r'.TableInv := by
  obtain ⟨rule, hr, rfl⟩ := deleteRule_eq_ok he
  exact (h.removeRule hr).1

/-- Removing, key by key, the rule filed under each key keeps the table consistent and leaves
no rule under the keys removed. -/
theorem TableInv.foldl_remove (step : Roadm → String → Roadm)
    (hsome : ∀ acc id rule, acc.rules.get? id = some rule → step acc id = acc.removeRule rule)
    (hnone : ∀ acc id, acc.rules.get? id = none → step acc id = acc)
    (ks : List String) (h : r.TableInv) :
    (ks.foldl step r).TableInv ∧
      ∀ id, (ks.foldl step r).rules.get? id = if id ∈ ks then none else r.rules.get? id := by
  induction ks generalizing r with
  | nil => simp [h]
  | cons k ks ih =>
    -- one key: its rule, if any, is removed, and the other keys' rules stay
    have hk : (step r k).TableInv ∧
        ∀ id, (step r k).rules.get? id = if id = k then none else r.rules.get? id := by
      cases hr : r.rules.get? k with
      | none =>
        rw [hnone r k hr]
        refine ⟨h, fun id => ?_⟩
        split
        · subst_vars
          exact hr
        · rfl
      | some rule =>
        rw [hsome r k rule hr]
        obtain ⟨hinv, hgone, -⟩ := h.removeRule hr
        refine ⟨hinv, fun id => ?_⟩
        split
        · subst_vars
          exact hgone
        · have hid : rule.id = k := (h.wellFormed k rule hr).id_eq
          simp only [removeRule_rules, Std.TreeMap.get?_eq_getElem?, Std.TreeMap.getElem?_erase,
            hid, Std.LawfulEqCmp.compare_eq_iff_eq]
          rw [if_neg (Ne.symm ‹_›)]
    obtain ⟨hinv, hrest⟩ := ih hk.1
    refine ⟨hinv, fun id => ?_⟩
    rw [List.foldl_cons, hrest, hk.2]
    by_cases hid : id = k <;> by_cases hmem : id ∈ ks <;> simp [hid, hmem]

/-- Deleting every rule removes, id by id, the rule filed under each id. -/
theorem deleteAllRules_eq (r : Roadm) :
    r.deleteAllRules = r.rules.keys.foldl (fun acc id => (acc.rules.get? id).elim acc acc.removeRule) r := by
  unfold Roadm.deleteAllRules
  congr
  funext acc id
  cases acc.rules.get? id <;> rfl

/-- Deleting every rule keeps the table consistent and leaves no rule. -/
theorem TableInv.deleteAllRules (h : r.TableInv) :
    r.deleteAllRules.TableInv ∧ ∀ id, r.deleteAllRules.rules.get? id = none := by
  rw [deleteAllRules_eq]
  obtain ⟨hinv, hget⟩ := TableInv.foldl_remove
    (fun acc id => (acc.rules.get? id).elim acc acc.removeRule) (fun acc id rule hr => by simp only [hr, Option.elim]) (fun acc id hr => by simp only [hr, Option.elim])
    r.rules.keys h
  refine ⟨hinv, fun id => ?_⟩
  rw [hget]
  split
  · rfl
  · rename_i hk
    rw [Std.TreeMap.mem_keys] at hk
    exact Std.TreeMap.getElem?_eq_none hk

/-- What a successful move did: the rule of that id goes to a port that is not negative; if
the port is new, the rule is removed and filed again with that port. -/
theorem updateRule_eq_ok {ruleId : String} {o : Int} (h : r.updateRule ruleId o = .ok r') :
    ∃ rule, r.rules.get? ruleId = some rule ∧ 0 ≤ o ∧
      ((o = rule.outPort ∧ r' = r) ∨
        r' = { r.removeRule rule with
          rules := (r.removeRule rule).rules.insert ruleId { rule with outPort := o }
          route := rule.channels.foldl (fun m ch => m.insert ⟨rule.inPort, ch⟩ ruleId)
            (r.removeRule rule).route }) := by
  unfold updateRule at h
  split at h
  · cases h
  · rename_i rule hr
    refine ⟨rule, hr, ?_⟩
    split at h
    · cases h
    · rename_i hneg
      refine ⟨by omega, ?_⟩
      split at h
      · cases h
        exact .inl ⟨beq_iff_eq.mp ‹_›, rfl⟩
      · cases h
        exact .inr rfl

theorem TableInv.updateRule (h : r.TableInv) {ruleId : String} {o : Int}
    (he : r.updateRule ruleId o = .ok r') : r'.TableInv := by
  obtain ⟨rule, hr, ho, ⟨-, rfl⟩ | rfl⟩ := updateRule_eq_ok he
  · exact h
  · -- the rule is removed, then filed again on the pairs it freed
    obtain ⟨hinv, hgone, hfreed⟩ := h.removeRule hr
    have hwf := h.wellFormed ruleId rule hr
    exact hinv.insertRule hgone hfreed
      (show SwitchRule.WellFormed { rule with outPort := o } ruleId from
        { hwf with outPort_nonneg := ho })

theorem TableInv.configureVoa (h : r.TableInv) {ch o : Int} {p : Float}
    (he : r.configureVoa ch o p = .ok r') : r'.TableInv := by
  unfold Roadm.configureVoa at he
  split at he
  · cases he
  · split at he
    · cases he
    · split at he
      · cases he
      · cases he
        exact h.of_tables rfl rfl

/-! ### Runs of calls -/

/-- One successful call on a ROADM's switch table. A refused call changes nothing. -/
inductive Edit : Roadm → Roadm → Prop
  | install {r r' : Roadm} {ruleId : String} {inPort outPort : Int} {channels : List Int} :
      r.installRule ruleId inPort outPort channels = .ok r' → Edit r r'
  | delete {r r' : Roadm} {ruleId : String} : r.deleteRule ruleId = .ok r' → Edit r r'
  | deleteAll (r : Roadm) : Edit r r.deleteAllRules
  | update {r r' : Roadm} {ruleId : String} {outPort : Int} :
      r.updateRule ruleId outPort = .ok r' → Edit r r'
  | configureVoa {r r' : Roadm} {channel outPort : Int} {powerDbm : Float} :
      r.configureVoa channel outPort powerDbm = .ok r' → Edit r r'
  | reset (r : Roadm) : Edit r r.reset

theorem TableInv.edit (h : r.TableInv) (he : Edit r r') : r'.TableInv := by
  cases he with
  | install he => exact h.installRule he
  | delete he => exact h.deleteRule he
  | deleteAll => exact h.deleteAllRules.1
  | update he => exact h.updateRule he
  | configureVoa he => exact h.configureVoa he
  | reset => exact tableInv_reset r

/-- The switch table stays consistent. After any sequence of installs, deletes of one rule or
of all, moves, VOA settings and resets on a new ROADM, successful or refused, the index files
exactly the pairs of the installed rules under their ids and every rule is well formed; so no
pair (input port, channel) is routed by two rules, and the rule found for a pair has that
input port and that channel. -/
theorem switch_table_stays_consistent {handle : Nat} {name : String} {cfg : RoadmConfig}
    {r : Roadm} (hr : Relation.ReflTransGen Edit (create handle name cfg) r) :
    r.TableInv ∧
      (∀ id₁ id₂ rule₁ rule₂ ch, r.rules.get? id₁ = some rule₁ → r.rules.get? id₂ = some rule₂ →
        rule₁.inPort = rule₂.inPort → ch ∈ rule₁.channels → ch ∈ rule₂.channels → id₁ = id₂) ∧
      (∀ i ch rule, r.ruleFor i ch = some rule → rule.inPort = i ∧ ch ∈ rule.channels) := by
  have h : r.TableInv := by
    induction hr with
    | refl => exact tableInv_create handle name cfg
    | tail _ he ih => exact ih.edit he
  exact ⟨h, fun _ _ _ _ _ h₁ h₂ hin hc₁ hc₂ => h.route_unique h₁ h₂ hin hc₁ hc₂,
    fun _ _ _ hf => h.ruleFor_sound hf⟩

/-- A new ROADM after one install under a padded id. -/
theorem switch_table_consistent_after_install :
    Relation.ReflTransGen Edit (create 0 "r" ⟨0, none, [], []⟩)
        { create 0 "r" ⟨0, none, [], []⟩ with
          rules := (∅ : Std.TreeMap String SwitchRule).insert "a" ⟨"a", 1, 2, [1]⟩
          route := (∅ : Std.TreeMap PortChannel String).insert ⟨1, 1⟩ "a" } ∧
      (({ create 0 "r" ⟨0, none, [], []⟩ with
          rules := (∅ : Std.TreeMap String SwitchRule).insert "a" ⟨"a", 1, 2, [1]⟩
          route := (∅ : Std.TreeMap PortChannel String).insert ⟨1, 1⟩ "a" } : Roadm).TableInv ∧
      (∀ id₁ id₂ rule₁ rule₂ ch,
        ((∅ : Std.TreeMap String SwitchRule).insert "a" ⟨"a", 1, 2, [1]⟩).get? id₁ = some rule₁ →
        ((∅ : Std.TreeMap String SwitchRule).insert "a" ⟨"a", 1, 2, [1]⟩).get? id₂ = some rule₂ →
        rule₁.inPort = rule₂.inPort → ch ∈ rule₁.channels → ch ∈ rule₂.channels → id₁ = id₂) ∧
      (∀ i ch rule, ({ create 0 "r" ⟨0, none, [], []⟩ with
          rules := (∅ : Std.TreeMap String SwitchRule).insert "a" ⟨"a", 1, 2, [1]⟩
          route := (∅ : Std.TreeMap PortChannel String).insert ⟨1, 1⟩ "a" } : Roadm).ruleFor i ch =
            some rule → rule.inPort = i ∧ ch ∈ rule.channels)) := by
  have hinstall : (create 0 "r" ⟨0, none, [], []⟩).installRule " a " 1 2 [1] =
      .ok { create 0 "r" ⟨0, none, [], []⟩ with
        rules := (∅ : Std.TreeMap String SwitchRule).insert "a" ⟨"a", 1, 2, [1]⟩
        route := (∅ : Std.TreeMap PortChannel String).insert ⟨1, 1⟩ "a" } := by
    have htrim : Text.trimSpace " a " = "a" := by decide
    have hsort : sortDedup [1] = [1] := by decide
    simp only [installRule, htrim, hsort]
    rfl
  have hrun := Relation.ReflTransGen.single (Edit.install hinstall)
  exact ⟨hrun, switch_table_stays_consistent hrun⟩

end Roadm

end WdmNet

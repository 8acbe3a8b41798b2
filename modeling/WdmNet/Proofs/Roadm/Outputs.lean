import WdmNet.Proofs.Roadm.Table
/-!
Every carrier on a ROADM output is backed by an installed rule.

A ROADM remembers, for each output port, the carriers it last sent there (`outSets`) and the
input port each of their channels came from (`outSrc`). `Roadm.Backed` says that every carrier
on an output has its input recorded, and that the rule routing that input and channel is
installed and sends to this output.

Switching writes an output together with its sources, both read off the rules
(`Backed.setOutput`); installing a rule only takes pairs that nobody routes; removing a rule
drops exactly the carriers that it put on its output, and leaves the source map as it is,
stale where it named the rule's input. Every call on the switch table keeps the invariant as
long as the table is consistent (`Roadm.TableInv`). With it, deleting a rule removes exactly
the carriers on the rule's output whose channel is the rule's and whose recorded input is the
rule's (`deleteRule_outputs`), and a carrier that won a collision from another input stays;
deleting every rule empties every output (`deleteAllRules_outputs`).
-/

namespace WdmNet

namespace Roadm

/-- The input port a channel on an output port came from, as last recorded. -/
def sourceOf (r : Roadm) (o ch : Int) : Option Int := (r.outSrc.get? o).bind (·.get? ch)

/-- Every carrier on an output port is backed by an installed rule: the input it came from is
recorded, and the rule routing that input and channel sends to this output. -/
def Backed (r : Roadm) : Prop :=
  ∀ o c, c ∈ r.portSet o false → ∃ i rule,
    r.sourceOf o c.channel = some i ∧ r.ruleFor i c.channel = some rule ∧ rule.outPort = o

variable {r r' : Roadm}

theorem portSet_out (r : Roadm) (o : Int) : r.portSet o false = (r.outSets.get? o).getD [] := rfl

/-- Whether a carrier is backed reads the rules, the index, the outputs and the sources
only. -/
theorem Backed.of_eq (h : r.Backed) (hr : r'.rules = r.rules) (hq : r'.route = r.route)
    (hs : r'.outSets = r.outSets) (hsrc : r'.outSrc = r.outSrc) : r'.Backed := by
  intro o c hc
  simp only [portSet, hs] at hc
  simp only [sourceOf, ruleFor, hsrc, hr, hq]
  exact h o c hc

theorem Backed.of_outSets_empty (h : r.outSets = {}) : r.Backed := by
  intro o c hc
  simp [portSet, h] at hc

theorem backed_create (h : Nat) (name : String) (cfg : RoadmConfig) : (create h name cfg).Backed :=
  Backed.of_outSets_empty rfl

theorem backed_reset (r : Roadm) : r.reset.Backed := Backed.of_outSets_empty rfl

/-! ### The switch table calls -/

/-- Filing a rule under a free id, on pairs that nobody routes, leaves every carrier backed by
the rule it had. -/
theorem Backed.insertRule (h : r.Backed) (id : String) (rule : SwitchRule)
    (hfree : r.rules.get? id = none)
    (hpairs : ∀ ch ∈ rule.channels, r.route.get? ⟨rule.inPort, ch⟩ = none) :
    ({ r with rules := r.rules.insert id rule
              route := rule.channels.foldl (fun m ch => m.insert ⟨rule.inPort, ch⟩ id) r.route } :
      Roadm).Backed := by
  intro o c hc
  obtain ⟨i, rule', hsrc, hrule, hout⟩ := h o c hc
  obtain ⟨idc, hidc, hrc⟩ := ruleFor_eq_some.mp hrule
  -- the carrier's pair was routed, so it is not one of the new rule's pairs
  have hold : ¬(i = rule.inPort ∧ c.channel ∈ rule.channels) := by
    rintro ⟨rfl, hch⟩
    rw [hpairs _ hch] at hidc
    cases hidc
  -- and its rule is filed, so its id is not the free one
  have hne : id ≠ idc := by
    rintro rfl
    rw [hfree] at hrc
    cases hrc
  refine ⟨i, rule', hsrc, ruleFor_eq_some.mpr ⟨idc, ?_, ?_⟩, hout⟩
  · dsimp only
    rw [get?_foldl_insert, if_neg hold]
    exact hidc
  · dsimp only
    rw [get?_insert_eq, if_neg hne]
    exact hrc

theorem Backed.installRule (h : r.Backed) {ruleId : String} {i o : Int} {chs : List Int}
    (he : r.installRule ruleId i o chs = .ok r') : r'.Backed := by
  obtain ⟨-, ⟨-, rfl⟩ | ⟨hfree, hpairs, rfl⟩⟩ := installRule_eq_ok he
  · exact h
  · exact h.insertRule _ _ hfree hpairs

@[simp] theorem removeRule_outSrc (rule : SwitchRule) : (r.removeRule rule).outSrc = r.outSrc := rfl

/-- Removing a rule filters its output: a carrier stays unless its channel is one of the
rule's and it is not known to come from another input. Every other output stays. -/
theorem removeRule_portSet (rule : SwitchRule) (o : Int) :
    (r.removeRule rule).portSet o false =
      if o = rule.outPort then (r.portSet o false).filter fun c =>
        !rule.channels.contains c.channel || (r.sourceOf o c.channel).any (· != rule.inPort)
      else r.portSet o false := by
  unfold removeRule
  simp only [portSet_out]
  split
  · rename_i set hset
    rw [get?_insert_eq]
    by_cases ho : o = rule.outPort
    · subst ho
      rw [if_pos rfl, if_pos rfl, hset, Option.getD_some, Option.getD_some]
      -- the filter reads the recorded sources of the rule's output
      refine List.filter_congr fun c _ => ?_
      unfold sourceOf
      cases r.outSrc.get? rule.outPort with
      | none => simp
      | some m =>
        simp only [Option.getD_some, Option.bind_some]
        cases m.get? c.channel <;> rfl
    · rw [if_neg (Ne.symm ho), if_neg ho]
  · rename_i hnone
    by_cases ho : o = rule.outPort
    · subst ho
      rw [if_pos rfl, hnone]
      rfl
    · rw [if_neg ho]

/-- Removing an installed rule keeps every remaining carrier backed: the carriers its pairs
backed on its output are exactly those it drops. -/
theorem Backed.removeRule (h : r.Backed) (ht : r.TableInv) {id : String} {rule : SwitchRule}
    (hr : r.rules.get? id = some rule) : (r.removeRule rule).Backed := by
  have hid : rule.id = id := (ht.wellFormed id rule hr).id_eq
  intro o c hc
  -- a remaining carrier was there before, and kept by the filter on the rule's output
  have hkept : c ∈ r.portSet o false ∧ (o = rule.outPort →
      (!rule.channels.contains c.channel || (r.sourceOf o c.channel).any (· != rule.inPort)) =
        true) := by
    rw [removeRule_portSet] at hc
    split at hc
    · exact ⟨(List.mem_filter.mp hc).1, fun _ => (List.mem_filter.mp hc).2⟩
    · exact ⟨hc, fun ho => absurd ho ‹_›⟩
  obtain ⟨i, rule', hsrc, hrule, hout⟩ := h o c hkept.1
  obtain ⟨idc, hidc, hrc⟩ := ruleFor_eq_some.mp hrule
  obtain ⟨hin, hch⟩ := ht.ruleFor_sound hrule
  -- the carrier's rule is another rule: the removed one would have dropped it
  have hne : id ≠ idc := by
    rintro rfl
    rw [hr] at hrc
    cases hrc
    have hk := hkept.2 hout.symm
    simp only [hsrc, Option.any_some, bne_iff_ne, ne_eq, Bool.or_eq_true, Bool.not_eq_true',
      List.contains_eq_mem, decide_eq_false_iff_not] at hk
    exact hk.elim (· hch) (· hin.symm)
  have hold : ¬(i = rule.inPort ∧ c.channel ∈ rule.channels) := by
    rintro ⟨rfl, hc'⟩
    rw [ht.route_of_rule hr hc'] at hidc
    exact hne (Option.some.inj hidc)
  refine ⟨i, rule', hsrc, ruleFor_eq_some.mpr ⟨idc, ?_, ?_⟩, hout⟩
  · rw [removeRule_route, get?_foldl_erase, if_neg hold]
    exact hidc
  · rw [removeRule_rules, get?_erase_eq, hid, if_neg hne]
    exact hrc

theorem Backed.deleteRule (h : r.Backed) (ht : r.TableInv) {ruleId : String}
    (he : r.deleteRule ruleId = .ok r') : r'.Backed := by
  obtain ⟨rule, hr, rfl⟩ := deleteRule_eq_ok he
  exact h.removeRule ht hr

theorem Backed.updateRule (h : r.Backed) (ht : r.TableInv) {ruleId : String} {o : Int}
    (he : r.updateRule ruleId o = .ok r') : r'.Backed := by
  obtain ⟨rule, hr, -, ⟨-, rfl⟩ | rfl⟩ := updateRule_eq_ok he
  · exact h
  · obtain ⟨-, hgone, hfreed⟩ := ht.removeRule hr
    exact (h.removeRule ht hr).insertRule _ { rule with outPort := o } hgone hfreed

theorem Backed.configureVoa (h : r.Backed) {ch o : Int} {p : Float}
    (he : r.configureVoa ch o p = .ok r') : r'.Backed := by
  unfold Roadm.configureVoa at he
  split at he
  · cases he
  · split at he
    · cases he
    · split at he
      · cases he
      · cases he
        exact h.of_eq rfl rfl rfl rfl

/-- Removing, key by key, the rule filed under each key keeps every carrier backed. -/
theorem Backed.foldl_remove (step : Roadm → String → Roadm)
    (hsome : ∀ acc id rule, acc.rules.get? id = some rule → step acc id = acc.removeRule rule)
    (hnone : ∀ acc id, acc.rules.get? id = none → step acc id = acc)
    (ks : List String) (h : r.Backed) (ht : r.TableInv) : (ks.foldl step r).Backed := by
  induction ks generalizing r with
  | nil => exact h
  | cons k ks ih =>
    rw [List.foldl_cons]
    cases hr : r.rules.get? k with
    | none =>
      rw [hnone r k hr]
      exact ih h ht
    | some rule =>
      rw [hsome r k rule hr]
      exact ih (h.removeRule ht hr) (ht.removeRule hr).1

theorem Backed.deleteAllRules (h : r.Backed) (ht : r.TableInv) : r.deleteAllRules.Backed := by
  rw [deleteAllRules_eq]
  exact Backed.foldl_remove (fun acc id => (acc.rules.get? id).elim acc acc.removeRule)
    (fun acc id rule hr => by simp only [hr, Option.elim])
    (fun acc id hr => by simp only [hr, Option.elim]) _ h ht

/-- Deleting a rule removes exactly the carriers on the rule's output whose channel is one of
the rule's and whose recorded input is the rule's; every other carrier and every other output
stays as it was. -/
theorem deleteRule_outputs (h : r.Backed) {id : String} {rule : SwitchRule}
    (hr : r.rules.get? id = some rule) :
    ∃ r', r.deleteRule id = .ok r' ∧ ∀ o, r'.portSet o false =
      if o = rule.outPort then (r.portSet o false).filter fun c =>
        !(rule.channels.contains c.channel && r.sourceOf o c.channel == some rule.inPort)
      else r.portSet o false := by
  refine ⟨r.removeRule rule, by simp only [deleteRule, hr], fun o => ?_⟩
  rw [removeRule_portSet]
  split
  · -- every carrier there has a recorded input, so "not known to come from another input"
    -- is "recorded as coming from the rule's input"
    refine List.filter_congr fun c hc => ?_
    obtain ⟨i, -, hsrc, -⟩ := h o c hc
    rw [hsrc]
    cases rule.channels.contains c.channel <;> rfl
  · rfl

/-- Deleting every rule empties every output. -/
theorem deleteAllRules_outputs (h : r.Backed) (ht : r.TableInv) (o : Int) :
    r.deleteAllRules.portSet o false = [] := by
  obtain ⟨-, hnone⟩ := ht.deleteAllRules
  refine List.eq_nil_iff_forall_not_mem.mpr fun c hc => ?_
  -- a carrier left there would need a rule to back it
  obtain ⟨i, rule, -, hrule, -⟩ := h.deleteAllRules ht o c hc
  obtain ⟨id, -, hid⟩ := ruleFor_eq_some.mp hrule
  rw [hnone id] at hid
  cases hid

/-! ### Switching -/

/-- Writing an output together with its sources keeps every carrier backed, when each carrier
written has its input among the sources and a rule from that input to this output. -/
theorem Backed.setOutput (h : r.Backed) {out : Int} {set : ChannelSet}
    {src : Std.TreeMap Int Int}
    (hset : ∀ c ∈ set, ∃ i rule, src.get? c.channel = some i ∧ r.ruleFor i c.channel = some rule ∧
      rule.outPort = out) :
    ({ r with outSets := r.outSets.insert out set
              outSrc := if src.isEmpty then r.outSrc.erase out else r.outSrc.insert out src } :
      Roadm).Backed := by
  intro o c hc
  simp only [portSet_out, get?_insert_eq] at hc
  by_cases ho : out = o
  · subst ho
    rw [if_pos rfl, Option.getD_some] at hc
    obtain ⟨i, rule, hi, hrule, hout⟩ := hset c hc
    -- the sources are not empty, as they hold the carrier's input
    have hne : src.isEmpty = false := by
      cases he : src.isEmpty
      · rfl
      · rw [Std.TreeMap.get?_eq_getElem?, Std.TreeMap.getElem?_of_isEmpty he] at hi
        cases hi
    refine ⟨i, rule, ?_, hrule, hout⟩
    simp only [sourceOf, hne, Bool.false_eq_true, if_false, get?_insert_eq, if_true,
      Option.bind_some, hi]
  · rw [if_neg ho] at hc
    obtain ⟨i, rule, hsrc, hrule, hout⟩ := h o c hc
    refine ⟨i, rule, ?_, hrule, hout⟩
    unfold sourceOf at hsrc ⊢
    split <;> simp only [get?_erase_eq, get?_insert_eq, if_neg ho, hsrc]

end Roadm

end WdmNet

import WdmNet.Proofs.Pass.Closed
/-!
The kinds of fault each change can fail with.

A change of a network refuses bad arguments by throwing a failure of one kind, puts context in
front of the failures of the calls it makes, and never turns one kind into another.
`FailsWithin ok x` says that every failure of `x` stands only for kinds that `ok` allows; it
follows the binds, guards, loops and matches of a change, so the kinds of a change are those
of its own checks and of the calls it makes.

An addition checks the component's physical parameters and channels, its name, its ports and
the amplifiers it claims (`Kind.additionChecks`); beyond these it looks up only the amplifiers
a ROADM or a link names and the nodes a link joins, and these lookups cannot fail when the
names are there. The control operations on a node already found check rules, VOA targets and
bindings; a pass adds only routing loops and exhausted switch budgets, so turning on a terminal
that is there fails only by those or by its own transmitters and ports (`Kind.controlChecks`).

Main statements: `Network.addRoadm_failsWithin`, `Network.addLink_failsWithin`,
`Network.launch_kinds`, `Network.turnOn_failsWithin`.
-/

namespace WdmNet

@[simp] theorem Failure.mem_kinds_of {k k' : Kind} {msg : String} :
    k' ∈ (Failure.of k msg).kinds ↔ k' = k :=
  List.mem_singleton

/-- Every failure of `x` stands only for kinds that `ok` allows. -/
def FailsWithin {α : Type} (ok : Kind → Prop) (x : Except Failure α) : Prop :=
  ∀ e, x = .error e → ∀ k ∈ e.kinds, ok k

namespace FailsWithin

variable {α β σ : Type} {ok ok' : Kind → Prop}

theorem of_ok (a : α) : FailsWithin ok (.ok a : Except Failure α) := fun _ h => nomatch h

theorem pure (a : α) : FailsWithin ok (Pure.pure a : Except Failure α) := of_ok a

theorem error_of {k : Kind} (hk : ok k) (msg : String) :
    FailsWithin ok (.error (Failure.of k msg) : Except Failure α) := by
  intro e he k' hk'
  cases he
  rw [Failure.mem_kinds_of.mp hk']
  exact hk

theorem throw_bind {k : Kind} (hk : ok k) (msg : String) (f : α → Except Failure β) :
    FailsWithin ok (throw (Failure.of k msg) >>= f) :=
  error_of hk msg

theorem error_wrap {e : Failure} (he : ∀ k ∈ e.kinds, ok k) (c : String) :
    FailsWithin ok (.error (e.wrap c) : Except Failure α) := by
  intro e' h
  cases h
  exact he

theorem bind {x : Except Failure α} {f : α → Except Failure β} (hx : FailsWithin ok x)
    (hf : ∀ a, x = .ok a → FailsWithin ok (f a)) : FailsWithin ok (x >>= f) := by
  intro e he
  cases x with
  | error e' =>
    cases he
    exact hx e rfl
  | ok a => exact hf a rfl e he

/-- A loop fails with the kinds of its body. -/
theorem forIn {l : List α} {init : σ} {body : α → σ → Except Failure (ForInStep σ)}
    (hb : ∀ a ∈ l, ∀ s, FailsWithin ok (body a s)) : FailsWithin ok (forIn l init body) := by
  induction l generalizing init with
  | nil => exact pure init
  | cons a l ih =>
    rw [List.forIn_cons]
    refine bind (hb a List.mem_cons_self init) fun r _ => ?_
    cases r with
    | done s => exact pure s
    | yield s => exact ih fun a' ha' => hb a' (List.mem_cons_of_mem _ ha')

theorem mono {x : Except Failure α} (h : FailsWithin ok x) (hok : ∀ k, ok k → ok' k) :
    FailsWithin ok' x :=
  fun e he k hk => hok k (h e he k hk)

end FailsWithin

/-! ### Additions -/

/-- The kinds of the checks an addition makes on the component itself: its physical
parameters and channels, its name, its ports and the amplifiers it claims. -/
def Kind.additionChecks : List Kind :=
  [.invalidConfig, .invalidChannel, .nodeExists, .amplifierExists, .linkExists, .invalidPort,
   .portInUse, .amplifierInUse]

theorem GainProfile.parse_failsWithin (s : String) :
    FailsWithin (· ∈ Kind.additionChecks) (GainProfile.parse s) := by
  unfold GainProfile.parse
  dsimp only
  split
  · exact .of_ok _
  · split
    · exact .of_ok _
    · exact .error_of (by decide) _

theorem GainControl.parse_failsWithin (s : String) :
    FailsWithin (· ∈ Kind.additionChecks) (GainControl.parse s) := by
  unfold GainControl.parse
  dsimp only
  split
  · exact .of_ok _
  · split
    · exact .of_ok _
    · exact .error_of (by decide) _

theorem RamanModel.parse_failsWithin (s : String) :
    FailsWithin (· ∈ Kind.additionChecks) (RamanModel.parse s) := by
  unfold RamanModel.parse
  dsimp only
  split
  · exact .of_ok _
  · split
    · exact .of_ok _
    · exact .error_of (by decide) _

theorem Amplifier.create_failsWithin (h : Nat) (name : String) (cfg : AmplifierConfig) :
    FailsWithin (· ∈ Kind.additionChecks) (Amplifier.create h name cfg) := by
  unfold Amplifier.create
  dsimp only
  split
  · exact .throw_bind (by decide) _ _
  · exact .bind (GainProfile.parse_failsWithin _) fun _ _ =>
      .bind (GainControl.parse_failsWithin _) fun _ _ => .pure _

theorem Terminal.create_failsWithin (h : Nat) (name : String) (trxs : List Transceiver) :
    FailsWithin (· ∈ Kind.additionChecks) (Terminal.create h name trxs) := by
  unfold Terminal.create
  dsimp only
  refine .bind (.forIn fun trx _ s => ?_) fun _ _ => .pure _
  split
  · exact .throw_bind (by decide) _ _
  -- a missing format is QPSK before the format is checked
  split <;> split
  · exact .throw_bind (by decide) _ _
  · exact .pure _
  · exact .throw_bind (by decide) _ _
  · exact .pure _

theorem SpanConfig.validate_failsWithin (c : SpanConfig) :
    FailsWithin (· ∈ Kind.additionChecks) c.validate := by
  unfold SpanConfig.validate
  dsimp only
  split
  · exact .throw_bind (by decide) _ _
  split
  · exact .throw_bind (by decide) _ _
  refine .bind (.forIn fun x _ s => ?_) fun _ _ => .pure _
  obtain ⟨ch, a⟩ := x
  dsimp only
  split
  · exact .throw_bind (by decide) _ _
  · split
    · exact .throw_bind (by decide) _ _
    · exact .pure _

theorem Span.create_failsWithin (h : Nat) (cfg : SpanConfig) :
    FailsWithin (· ∈ Kind.additionChecks) (Span.create h cfg) :=
  .bind (SpanConfig.validate_failsWithin cfg) fun _ _ => .pure _

namespace Network

variable {n : Network}

theorem exists_get?_of_contains {α : Type} {m : Std.TreeMap String α} {x : String}
    (h : m.contains x = true) : ∃ a, m.get? x = some a := by
  rw [Std.TreeMap.get?_eq_getElem?]
  exact Option.isSome_iff_exists.mp (Std.TreeMap.contains_eq_isSome_getElem?.symm.trans h)

theorem addAmplifier_failsWithin (n : Network) (name : String) (cfg : AmplifierConfig) :
    FailsWithin (· ∈ Kind.additionChecks) (n.addAmplifier name cfg) := by
  unfold Network.addAmplifier
  dsimp only
  split
  · exact .throw_bind (by decide) _ _
  split
  · exact .throw_bind (by decide) _ _
  exact .bind (Amplifier.create_failsWithin _ _ _) fun _ _ => .pure _

theorem addTerminal_failsWithin (n : Network) (name : String) (trxs : List Transceiver) :
    FailsWithin (· ∈ Kind.additionChecks) (n.addTerminal name trxs) := by
  unfold Network.addTerminal
  dsimp only
  split
  · exact .throw_bind (by decide) _ _
  split
  · exact .throw_bind (by decide) _ _
  exact .bind (Terminal.create_failsWithin _ _ _) fun _ _ => .pure _

/-- Claiming the amplifiers of a ROADM's ports, all of them declared, fails only by a negative
port or an amplifier already attached. -/
theorem claimPortAmps_failsWithin {name role : String} {ports : List (Int × String)}
    {claimed : List Nat} (hamps : ∀ p ∈ ports, n.ampByName.contains p.2) :
    FailsWithin (· ∈ Kind.additionChecks) (n.claimPortAmps name role ports claimed) := by
  unfold Network.claimPortAmps
  dsimp only
  refine .bind (.forIn fun x hx s => ?_) fun _ _ => .pure _
  obtain ⟨port, amp⟩ := x
  obtain ⟨h, hh⟩ := exists_get?_of_contains (hamps _ hx)
  dsimp only
  split
  · exact .throw_bind (by decide) _ _
  rw [hh]
  dsimp only
  split
  · exact .throw_bind (by decide) _ _
  · split
    · exact .throw_bind (by decide) _ _
    · exact .pure _

/-- A ROADM whose port amplifiers are all declared is refused only by a check of its own. -/
theorem addRoadm_failsWithin {name : String} {cfg : RoadmConfig}
    (hamps : ∀ p ∈ cfg.preamps ++ cfg.boosts, n.ampByName.contains p.2) :
    FailsWithin (· ∈ Kind.additionChecks) (n.addRoadm name cfg) := by
  unfold Network.addRoadm
  dsimp only
  split
  · exact .throw_bind (by decide) _ _
  split
  · exact .throw_bind (by decide) _ _
  split
  · exact .throw_bind (by decide) _ _
  refine .bind (claimPortAmps_failsWithin fun p hp => hamps p (List.mem_append_left _ hp))
    fun x _ => ?_
  obtain ⟨pre, c⟩ := x
  exact .bind (claimPortAmps_failsWithin fun p hp => hamps p (List.mem_append_right _ hp))
    fun _ _ => .pure _

/-- Claiming a declared amplifier, or none, for a link fails only by an amplifier already
claimed. -/
theorem claimLinkAmp_failsWithin {link amp : String} {claimed : List Nat}
    (hamp : amp.isEmpty = false → n.ampByName.contains amp) :
    FailsWithin (· ∈ Kind.additionChecks) (n.claimLinkAmp link amp claimed) := by
  unfold Network.claimLinkAmp
  split
  · exact .pure _
  · rename_i hne
    obtain ⟨h, hh⟩ := exists_get?_of_contains (hamp (Bool.eq_false_iff.mpr hne))
    rw [hh]
    dsimp only
    split
    · exact .throw_bind (by decide) _ _
    · split
      · exact .throw_bind (by decide) _ _
      · exact .pure _

/-- A link between nodes that are there, whose amplifiers are all declared, is refused only by
a check of its own: its name, its ports, its spans and the amplifiers it claims. -/
theorem addLink_failsWithin {cfg : LinkConfig} (hsrc : n.nodeByName.contains cfg.src)
    (hdst : n.nodeByName.contains cfg.dst)
    (hboost : cfg.boost.isEmpty = false → n.ampByName.contains cfg.boost)
    (hspans : ∀ s ∈ cfg.spans, s.2.isEmpty = false → n.ampByName.contains s.2) :
    FailsWithin (· ∈ Kind.additionChecks) (n.addLink cfg) := by
  unfold Network.addLink
  obtain ⟨src, hs⟩ := exists_get?_of_contains hsrc
  obtain ⟨dst, hd⟩ := exists_get?_of_contains hdst
  rw [hs, hd]
  dsimp only
  generalize (if cfg.name.isEmpty = true then cfg.src ++ "-" ++ cfg.dst else cfg.name) = name
  -- the name, the two ports and the ports' links
  split
  · exact .throw_bind (by decide) _ _
  split
  · exact .throw_bind (by decide) _ _
  split
  · exact .throw_bind (by decide) _ _
  split
  · exact .throw_bind (by decide) _ _
  -- the Raman model, the boost, then each span with the amplifier after it
  refine .bind (RamanModel.parse_failsWithin _) fun _ _ => .bind (claimLinkAmp_failsWithin hboost)
    fun _ _ => .bind (.forIn fun x hx acc => ?_) fun _ _ => .pure _
  split
  · exact .bind (.pure _) fun _ _ =>
      .bind (claimLinkAmp_failsWithin (hspans x.1 (List.fst_mem_of_mem_zipIdx hx))) fun _ _ => .pure _
  · rename_i e he
    exact .bind (.error_wrap (fun k hk => Span.create_failsWithin _ _ e he k hk) _) fun _ h => nomatch h

end Network

/-! ### Control operations and passes -/

/-- The kinds of the checks the steps of a control section make on a node already found: the
rules and VOA targets of a ROADM, the bindings of a terminal, turning it on, and the routing
loops and exhausted switch budgets of the pass that follows. -/
def Kind.controlChecks : List Kind :=
  [.invalidConfig, .invalidPort, .invalidChannel, .switchRuleExists, .switchRuleConflict,
   .transceiverNotFound, .transceiverBusy, .channelBound, .noTransmitters, .portNotConnected,
   .routingLoop, .propagationLimit]

theorem Roadm.installRule_failsWithin (r : Roadm) (ruleId : String) (inPort outPort : Int)
    (channels : List Int) :
    FailsWithin (· ∈ Kind.controlChecks) (r.installRule ruleId inPort outPort channels) := by
  unfold Roadm.installRule
  dsimp only
  split
  · exact .throw_bind (by decide) _ _
  split
  · exact .throw_bind (by decide) _ _
  split
  · exact .throw_bind (by decide) _ _
  refine .bind (.forIn fun ch _ _ => ?_) fun _ _ => ?_
  · split
    · exact .throw_bind (by decide) _ _
    · exact .pure _
  · -- an identical rule is kept, another under the id refused; a new one must not conflict
    split
    · split
      · exact .pure _
      · exact .error_of (by decide) _
    · refine .bind (.forIn fun ch _ _ => ?_) fun _ _ => .pure _
      split
      · exact .throw_bind (by decide) _ _
      · exact .pure _

theorem Roadm.configureVoa_failsWithin (r : Roadm) (ch outPort : Int) (powerDbm : Float) :
    FailsWithin (· ∈ Kind.controlChecks) (r.configureVoa ch outPort powerDbm) := by
  unfold Roadm.configureVoa
  split
  · exact .error_of (by decide) _
  split
  · exact .error_of (by decide) _
  split
  · exact .error_of (by decide) _
  · exact .of_ok _

theorem Signal.create_failsWithin (index : Int) (symbolRate : Float) :
    FailsWithin (· ∈ Kind.controlChecks) (Signal.create index symbolRate) := by
  unfold Signal.create
  split
  · exact .error_of (by decide) _
  · exact .of_ok _

theorem Terminal.assocRx_failsWithin (t : Terminal) (trxId ch port : Int) :
    FailsWithin (· ∈ Kind.controlChecks) (t.assocRx trxId ch port) := by
  unfold Terminal.assocRx
  dsimp only
  split
  · split
    · exact .throw_bind (by decide) _ _
    split
    · exact .throw_bind (by decide) _ _
    split
    · split
      · exact .pure _
      · exact .error_of (by decide) _
    · split
      · exact .error_of (by decide) _
      · exact .pure _
  · exact .error_of (by decide) _

theorem Network.assocTx_failsWithin (n : Network) (t : Terminal) (trxId ch port : Int) :
    FailsWithin (· ∈ Kind.controlChecks) (n.assocTx t trxId ch port) := by
  unfold Network.assocTx
  dsimp only
  split
  · split
    · exact .throw_bind (by decide) _ _
    split
    · exact .throw_bind (by decide) _ _
    split
    · split
      · exact .pure _
      · exact .error_of (by decide) _
    · split
      · exact .throw_bind (by decide) _ _
      · exact .bind (Signal.create_failsWithin _ _) fun _ _ => .pure _
  · exact .error_of (by decide) _

namespace Flow

/-- Every error that `g` has and `f` had not stands for a routing loop or an exhausted switch
budget, and for nothing else. -/
def AddsPassKinds (f g : Flow) : Prop :=
  ∀ e ∈ g.pass.errors.toList, e ∈ f.pass.errors.toList ∨
    ∀ k ∈ e.kinds, k = .routingLoop ∨ k = .propagationLimit

/-- A pass adds failures of its own kinds only: the one step that adds an error fails the pass
with a failure of one kind, a routing loop or an exhausted switch budget. -/
theorem addsPassKinds_closed : Closed AddsPassKinds where
  refl _ _ he := .inl he
  trans h₁ h₂ e he := (h₂ e he).elim (fun he' => (h₁ e he').elim .inl .inr) .inr
  record _ _ _ _ hs e he := .inl (hs ▸ he)
  fail f k msg hk e he := by
    simp only [fail, Array.toList_push, List.mem_append, List.mem_singleton] at he
    rcases he with he | rfl
    · exact .inl he
    · exact .inr fun k' hk' => Failure.mem_kinds_of.mp hk' ▸ hk
  visit _ _ _ _ _ he := .inl he
  amp _ _ _ _ he := .inl he
  span _ _ _ _ he := .inl he
  terminal _ _ _ _ _ he := .inl he
  roadmPorts _ _ _ _ _ he := .inl he
  output _ _ _ _ _ _ _ _ _ he := .inl he

end Flow

namespace Network

variable {n : Network}

/-- A pass fails only by routing loops and exhausted switch budgets: its failure stands for
these kinds and no other. -/
theorem launch_kinds (n : Network) (t : Terminal) (ports : List Int) (safe : Bool) (kind : String)
    {e : Failure} (he : (n.launch t ports safe kind).error = some e) :
    ∀ k ∈ e.kinds, k = .routingLoop ∨ k = .propagationLimit := by
  obtain ⟨g, hg, -, herr⟩ := Flow.addsPassKinds_closed.launch n t ports safe kind
  rw [herr] at he
  split at he
  · cases he
  · cases he
    intro k hk
    -- the joined failure stands for the kinds of the pass's errors, none of them there before
    obtain ⟨e', he', hk'⟩ := List.mem_flatMap.mp hk
    exact ((hg e' he').resolve_left (by simp)) k hk'

/-- Turning on a terminal that is there fails only by its transmitters and ports, or by its
pass. -/
theorem turnOn_failsWithin {name : String} {t : Terminal} (ht : n.terminal name = .ok t)
    (safe : Bool) : ∀ e, (n.turnOn name safe).error = some e → ∀ k ∈ e.kinds, k ∈ Kind.controlChecks := by
  intro e he k hk
  unfold Network.turnOn at he
  rw [ht] at he
  dsimp only at he
  split at he
  · cases he
    rw [Failure.mem_kinds_of.mp hk]
    decide
  split at he
  · cases he
    rw [Failure.mem_kinds_of.mp hk]
    decide
  split at he
  · rcases launch_kinds _ _ _ _ _ he k hk with rfl | rfl <;> decide
  · cases he

end Network

end WdmNet

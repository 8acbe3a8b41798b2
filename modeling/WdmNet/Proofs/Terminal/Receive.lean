import WdmNet.Proofs.Pass.Closed
import WdmNet.Proofs.Signal.SameState
/-!
What a line terminal does with a delivery.

`Terminal.accept` stores what arrives on an input port in a pass and marks the port pending,
unless the same pass already delivered the same carriers there (`Terminal.Repeats`).
`Terminal.receive` files, for every receive binding on a pending port, the report that the
port's arrivals give (`Terminal.filed`), hands these reports on grouped by port, and leaves no
port pending.

A port's reports are current (`Terminal.Current`) when each receive binding on it has the report
of the port's arrivals filed, and a listening terminal has handed that report on. Accepting a
delivery keeps every port current or pending (`Terminal.Resolved.accept`): a delivery that
repeats the pass's last one changes no reading, since its carriers compare equal. Receiving
makes every such port current (`Terminal.Resolved.receive`).

Main statements: `Terminal.report_of_found`, `Terminal.Resolved.accept`,
`Terminal.Resolved.receive`.
-/

namespace WdmNet

section FoldInsert

variable {β : Type} (key : β → Int)

/-- A table filled from a list with no element under a key keeps that key's entry. -/
theorem get?_foldl_insert_of_forall_ne {l : List β} (m : Std.TreeMap Int β) {a : Int}
    (ha : ∀ x ∈ l, key x ≠ a) : (l.foldl (fun m x => m.insert (key x) x) m).get? a = m.get? a := by
  induction l generalizing m with
  | nil => rfl
  | cons y ys ih =>
    rw [List.foldl_cons, ih _ fun x hx => ha x (List.mem_cons_of_mem y hx), get?_insert_eq,
      if_neg (ha y List.mem_cons_self)]

/-- A table filled from a list with distinct keys holds each element under its key. -/
theorem get?_foldl_insert_of_mem {l : List β} (hnd : (l.map key).Nodup) (m : Std.TreeMap Int β)
    {x : β} (hx : x ∈ l) : (l.foldl (fun m x => m.insert (key x) x) m).get? (key x) = some x := by
  induction l generalizing m with
  | nil => cases hx
  | cons y ys ih =>
    obtain ⟨hy, hys⟩ := List.nodup_cons.mp hnd
    rw [List.foldl_cons]
    rcases List.mem_cons.mp hx with rfl | hx
    · -- no later element has the key of the first one
      have hne : ∀ z ∈ ys, key z ≠ key x := fun z hz hzx => hy (hzx ▸ List.mem_map_of_mem hz)
      rw [get?_foldl_insert_of_forall_ne key _ hne, get?_insert_eq, if_pos rfl]
    · exact ih hys _ hx

end FoldInsert

namespace Terminal

variable (t : Terminal) (rate : Nat → Float) (ch : Int) (b : RxBinding)

/-! ### Reports -/

/-- A report's threshold is its transceiver's, or QPSK's for an unknown transceiver. -/
theorem report_threshold : (t.report rate ch b).thresholdDb =
    ((t.transceiver? b.transceiver).map (·.thresholdDb)).getD Modulation.qpsk.minGosnrDb := by
  unfold report
  cases t.transceiver? b.transceiver <;> dsimp only <;> split <;> (try split) <;> rfl

/-- A channel absent from its port's arrivals is reported missing and not received. -/
theorem report_of_missing (h : (t.portSet b.port true).find? ch = none) :
    (t.report rate ch b).reason = "missing" ∧ (t.report rate ch b).ok = false := by
  unfold report
  rw [h]
  exact ⟨rfl, rfl⟩

/-- A channel that arrived is reported with the power, OSNR and generalized OSNR of its
carrier's state, and received exactly when the generalized OSNR reaches the threshold. -/
theorem report_of_found {c : Carrier} (h : (t.portSet b.port true).find? ch = some c) :
    (t.report rate ch b).powerDbm = Units.wattsToDbm c.state.power ∧
      (t.report rate ch b).osnrDb = osnrDb c.state ∧
      (t.report rate ch b).gosnrDb = gosnrDb c.state (rate c.sig) ∧
      ((t.report rate ch b).ok = true ↔ (t.report rate ch b).thresholdDb ≤ (t.report rate ch b).gosnrDb) ∧
      (t.report rate ch b).reason ≠ "missing" := by
  unfold report
  rw [h]
  dsimp only
  -- whatever the threshold, the verdict compares it with the generalized OSNR
  have hok : "" ≠ "missing" := by decide
  have hbelow : "below threshold" ≠ "missing" := by decide
  split <;> split <;> rename_i hg
  · exact ⟨rfl, rfl, rfl, iff_of_true rfl hg, hok⟩
  · exact ⟨rfl, rfl, rfl, iff_of_false Bool.false_ne_true hg, hbelow⟩
  · exact ⟨rfl, rfl, rfl, iff_of_true rfl hg, hok⟩
  · exact ⟨rfl, rfl, rfl, iff_of_false Bool.false_ne_true hg, hbelow⟩

theorem report_reason_eq_missing_iff :
    (t.report rate ch b).reason = "missing" ↔ (t.portSet b.port true).find? ch = none := by
  cases h : (t.portSet b.port true).find? ch with
  | none => exact iff_of_true (report_of_missing t rate ch b h).1 rfl
  | some c => exact iff_of_false (report_of_found t rate ch b h).2.2.2.2 (Option.some_ne_none c)

/-! ### Accepting a delivery -/

variable {pass : Nat} {port : Int} {set : ChannelSet}

/-- A delivery that brings a port the carriers that the same pass already delivered there. -/
def Repeats (t : Terminal) (pass : Nat) (port : Int) (set : ChannelSet) : Bool :=
  t.portPass.get? port == some pass && (t.portSet port true).sameAs set

theorem accept_portPass (p : Int) :
    (t.accept pass port set).portPass.get? p = if port = p then some pass else t.portPass.get? p :=
  get?_insert_eq _ _ _ _

theorem accept_portSet (p : Int) :
    (t.accept pass port set).portSet p true = if port = p then set else t.portSet p true := by
  simp only [portSet, accept, if_true, get?_insert_eq]
  split <;> rfl

/-- The port a delivery reaches is pending afterwards unless the delivery repeats the pass's
last one there; no other port changes. -/
theorem accept_pending (p : Int) :
    (t.accept pass port set).pending.contains p =
      (t.pending.contains p || (port == p && !t.Repeats pass port set)) := by
  have hrep : t.Repeats pass port set =
      (t.portPass.get? port == some pass && ((t.inSets.get? port).getD []).sameAs set) := rfl
  unfold accept
  dsimp only
  rw [← hrep]
  cases t.Repeats pass port set
  · show (t.pending.insert port ()).contains p = _
    rw [Std.TreeMap.contains_insert, Bool.or_comm]
    congr 1
    by_cases h : port = p <;> simp [h]
  · simp

/-- A report on a port that a delivery did not reach stays as it was. -/
theorem report_accept_of_ne (h : port ≠ b.port) :
    (t.accept pass port set).report rate ch b = t.report rate ch b := by
  have hset := @accept_portSet t pass port set b.port
  rw [if_neg h] at hset
  unfold report
  rw [hset]
  rfl

/-! ### Receiving -/

/-- The reports that receiving files: one for each receive binding on a pending port. -/
def filed (t : Terminal) (rate : Nat → Float) : List Report :=
  t.rx.toList.filterMap fun x =>
    if t.pending.keys.contains x.2.port then some (t.report rate x.1 x.2) else none

theorem receive_eq : t.receive rate =
    ((sortDedup ((t.filed rate).map (·.port))).map fun p =>
      (p, (t.filed rate).filter (·.port == p)),
    { t with pending := {},
             reports := (t.filed rate).foldl (fun m r => m.insert r.channel r) t.reports }) :=
  rfl

/-- A filed report is the report of a receive binding on a pending port. -/
theorem mem_filed {r : Report} :
    r ∈ t.filed rate ↔ ∃ ch b, t.rx.get? ch = some b ∧ t.pending.contains b.port = true ∧
      r = t.report rate ch b := by
  unfold filed
  rw [List.mem_filterMap]
  constructor
  · rintro ⟨⟨ch, b⟩, hmem, hr⟩
    dsimp only at hr
    split at hr
    · rename_i hp
      refine ⟨ch, b, ?_, by simpa using hp, (Option.some.inj hr).symm⟩
      rw [Std.TreeMap.get?_eq_getElem?]
      exact Std.TreeMap.mem_toList_iff_getElem?_eq_some.mp hmem
    · cases hr
  · rintro ⟨ch, b, hb, hp, rfl⟩
    rw [Std.TreeMap.get?_eq_getElem?] at hb
    refine ⟨(ch, b), Std.TreeMap.mem_toList_iff_getElem?_eq_some.mpr hb, ?_⟩
    dsimp only
    rw [if_pos (by simpa using hp)]

/-- Filed reports are in channel order, one per channel: each is on its binding's channel. -/
theorem filed_sorted : (t.filed rate).Pairwise (·.channel < ·.channel) := by
  unfold filed
  refine List.pairwise_filterMap.mpr (Std.TreeMap.ordered_keys_toList.imp fun {x y} hlt => ?_)
  intro r hr r' hr'
  split at hr <;> split at hr' <;> cases hr <;> cases hr'
  rw [(report_names_binding t rate x.1 x.2).1, (report_names_binding t rate y.1 y.2).1]
  exact Int.compare_eq_lt.mp hlt

theorem filed_nodup : ((t.filed rate).map (·.channel)).Nodup :=
  (List.pairwise_map.mpr (t.filed_sorted rate)).imp Int.ne_of_lt

@[simp] theorem receive_pending (p : Int) : (t.receive rate).2.pending.contains p = false :=
  Std.TreeMap.contains_emptyc

@[simp] theorem report_receive : (t.receive rate).2.report rate' ch b = t.report rate' ch b := rfl

/-- A binding on a pending port gets the report of its port's arrivals. -/
theorem receive_reports_of_pending (hb : t.rx.get? ch = some b) (hp : t.pending.contains b.port = true) :
    (t.receive rate).2.reports.get? ch = some (t.report rate ch b) := by
  have hmem : t.report rate ch b ∈ t.filed rate := (t.mem_filed rate).mpr ⟨ch, b, hb, hp, rfl⟩
  have hkey := get?_foldl_insert_of_mem Report.channel (t.filed_nodup rate) t.reports hmem
  rw [(report_names_binding t rate ch b).1] at hkey
  exact hkey

/-- A binding on a port that is not pending keeps its report. -/
theorem receive_reports_of_not_pending (hb : t.rx.get? ch = some b)
    (hp : t.pending.contains b.port = false) :
    (t.receive rate).2.reports.get? ch = t.reports.get? ch := by
  refine get?_foldl_insert_of_forall_ne Report.channel t.reports fun r hr hch => ?_
  -- a report filed under this channel would be this binding's, on a pending port
  obtain ⟨ch', b', hb', hp', rfl⟩ := (t.mem_filed rate).mp hr
  rw [(report_names_binding t rate ch' b').1] at hch
  subst hch
  rw [hb] at hb'
  cases hb'
  rw [hp] at hp'
  cases hp'

/-- The report of a binding on a pending port is handed on with its port's reports. -/
theorem receive_groups (hb : t.rx.get? ch = some b) (hp : t.pending.contains b.port = true) :
    ∃ reps, (b.port, reps) ∈ (t.receive rate).1 ∧ t.report rate ch b ∈ reps := by
  have hmem : t.report rate ch b ∈ t.filed rate := (t.mem_filed rate).mpr ⟨ch, b, hb, hp, rfl⟩
  have hport := (report_names_binding t rate ch b).2.1
  refine ⟨(t.filed rate).filter (·.port == b.port), ?_, List.mem_filter.mpr ⟨hmem, by simp [hport]⟩⟩
  rw [receive_eq]
  exact List.mem_map.mpr ⟨b.port, mem_sortDedup.mpr (List.mem_map.mpr ⟨_, hmem, hport⟩), rfl⟩

/-! ### Current reports -/

/-- The receive bindings on a port have the reports of the port's arrivals filed, and a
listening terminal has handed each of them on in one of `events`. -/
def Current (t : Terminal) (rate : Nat → Float) (p : Int) (events : List Event) : Prop :=
  ∀ ch b, t.rx.get? ch = some b → b.port = p →
    t.reports.get? ch = some (t.report rate ch b) ∧
      (t.listening = true → ∃ reps, Event.delivered t.name reps ∈ events ∧ t.report rate ch b ∈ reps)

/-- Every port that a pass reached since `t₀` is pending, or its reports are current. -/
def Resolved (rate : Nat → Float) (pass : Nat) (t₀ t : Terminal) (events : List Event) : Prop :=
  ∀ p, t₀.portPass.get? p ≠ some pass → t.portPass.get? p = some pass →
    t.pending.contains p = true ∨ t.Current rate p events

variable {t rate} {p : Int} {events events' : List Event}

theorem Current.mono (h : t.Current rate p events) (hev : events ⊆ events') :
    t.Current rate p events' := fun ch b hb hp =>
  have ⟨hrep, hdel⟩ := h ch b hb hp
  ⟨hrep, fun hl => have ⟨reps, hmem, hr⟩ := hdel hl; ⟨reps, hev hmem, hr⟩⟩

theorem Resolved.mono {t₀ : Terminal} (h : Resolved rate pass t₀ t events) (hev : events ⊆ events') :
    Resolved rate pass t₀ t events' := fun p h₀ h₁ =>
  (h p h₀ h₁).imp id fun hc => hc.mono hev

theorem Current.accept_of_ne (h : t.Current rate p events) (hp : port ≠ p) :
    (t.accept pass port set).Current rate p events := fun ch b hb hbp => by
  rw [report_accept_of_ne t rate ch b (hbp ▸ hp)]
  exact h ch b hb hbp

/-- A delivery that repeats the pass's last one leaves the port's reports current: over either
set of carriers, each on the channel of its signal, every report reads the same. -/
theorem Current.accept_repeat {index : Nat → Option Int} (h : t.Current rate port events)
    (hrep : t.Repeats pass port set = true) (hold : ChannelSet.Sound index (t.portSet port true))
    (hnew : ChannelSet.Sound index set) : (t.accept pass port set).Current rate port events := by
  intro ch b hb hbp
  subst hbp
  have hsame : (t.portSet b.port true).sameAs set = true := by
    simp only [Repeats, Bool.and_eq_true] at hrep
    exact hrep.2
  have hset := @accept_portSet t pass b.port set b.port
  rw [if_pos rfl] at hset
  have heq : t.report rate ch b = (t.accept pass b.port set).report rate ch b :=
    report_eq_of_sameAs rate ch b rfl (by rw [hset]; exact hsame) hold (by rw [hset]; exact hnew)
  rw [← heq]
  exact h ch b hb rfl

/-- Accepting a delivery keeps every port that the pass reached pending or current; the port
it reaches is pending unless the delivery repeats the pass's last one there. -/
theorem Resolved.accept {index : Nat → Option Int} {t₀ : Terminal}
    (h : Resolved rate pass t₀ t events) (hold : ChannelSet.Sound index (t.portSet port true))
    (hnew : ChannelSet.Sound index set) : Resolved rate pass t₀ (t.accept pass port set) events := by
  intro p h₀ h₁
  rw [accept_pending]
  by_cases hp : port = p
  · subst hp
    cases hrep : t.Repeats pass port set
    · exact .inl (by simp)
    · -- a repeat: the port was reached before in this pass
      have hpass : t.portPass.get? port = some pass := by
        simp only [Repeats, Bool.and_eq_true, beq_iff_eq] at hrep
        exact hrep.1
      rcases h port h₀ hpass with hpen | hcur
      · exact .inl (by simp [hpen])
      · exact .inr (hcur.accept_repeat hrep hold hnew)
  · rw [accept_portPass, if_neg hp] at h₁
    rcases h p h₀ h₁ with hpen | hcur
    · exact .inl (by simp [hpen])
    · exact .inr (hcur.accept_of_ne hp)

/-- Receiving makes every port that the pass reached current, once the reports it hands on
are delivered in `events'`, which extend `events`. -/
theorem Resolved.receive {t₀ : Terminal} (h : Resolved rate pass t₀ t events) (hev : events ⊆ events')
    (hdel : t.listening = true → ∀ q reps, (q, reps) ∈ (t.receive rate).1 →
      Event.delivered t.name reps ∈ events') :
    Resolved rate pass t₀ (t.receive rate).2 events' := by
  intro p h₀ h₁
  refine .inr fun ch b hb hbp => ?_
  cases hpen : t.pending.contains b.port
  · -- a port that was not pending was current already
    rcases h p h₀ h₁ with hp | hcur
    · rw [← hbp, hpen] at hp
      cases hp
    · obtain ⟨hrep, hl⟩ := (hcur.mono hev) ch b hb hbp
      exact ⟨(receive_reports_of_not_pending t rate ch b hb hpen).trans hrep, hl⟩
  · obtain ⟨reps, hmem, hr⟩ := receive_groups t rate ch b hb hpen
    exact ⟨receive_reports_of_pending t rate ch b hb hpen, fun hl => ⟨reps, hdel hl _ _ hmem, hr⟩⟩

end Terminal

end WdmNet

import WdmNet.Proofs.Pass.Closed
/-!
The bindings of a line terminal.

A terminal ties channels to its transceivers: a transmit binding to a transceiver, an output
port and the signal launched for it, a receive binding to a transceiver and an input port.
`Terminal.BindingsSound` says that the bindings agree with each other, with the signals and with
the reports: a transceiver transmits at most one channel and receives at most one; the signal of
a transmit binding carries the binding's channel at the transceiver's symbol rate and is on
exactly when the binding is; and every report is filed under a received channel and names the
port and transceiver of its binding. Every change the terminal's operations and passes make
keeps it, provided the signals change along; and the failed channels of any terminal are the
channels of its failed reports, in increasing order.

A transceiver's symbol rate is positive, so a signal created at that rate keeps it: the
default rate of `Signal.create` never replaces it.

Main statements: `Terminal.BindingsSound.assocRx`, `Terminal.BindingsSound.disassocTx`,
`Terminal.BindingsSound.disassocRx`, `Terminal.BindingsSound.passWrite`,
`Terminal.failedChannels_spec`.
-/

namespace WdmNet

/-! ### Symbol rates -/

/-- Comparing two unpacked floats the other way round swaps the outcome. -/
theorem Float.Model.UnpackedFloat.compare_swap (a b : Float.Model.UnpackedFloat) :
    b.compare a = (a.compare b).map Ordering.swap := by
  unfold Float.Model.UnpackedFloat.compare
  rcases a with ⟨s⟩ | _ | ⟨s⟩ | ⟨s, m, e, h⟩ <;> rcases b with ⟨t⟩ | _ | ⟨t⟩ | ⟨t, m', e', h'⟩ <;>
    (try cases s) <;> (try cases t) <;>
    simp only [Option.map_some, Option.map_none, Ordering.swap_swap]
  -- two finite numbers of one sign compare by exponent, then by mantissa
  all_goals first | rfl | rw [Ordering.swap_then, Int.compare_swap, Nat.compare_swap]

/-- No float is both below another and at least it. -/
theorem Float.not_le_of_lt {a b : Float} (h : a < b) : ¬ b ≤ a := by
  intro h'
  simp only [LT.lt, Float.lt] at h
  simp only [LE.le, Float.le] at h'
  have hlt : a.toModel.unpack.compare b.toModel.unpack = some .lt := by
    simpa [Float.Model.lt, Float.Model.UnpackedFloat.lt] using of_decide_eq_true h
  have hle : (b.toModel.unpack.compare a.toModel.unpack).any (·.isLE) := of_decide_eq_true h'
  rw [Float.Model.UnpackedFloat.compare_swap, hlt] at hle
  exact absurd hle (by decide)

/-- A transceiver runs at a positive symbol rate: its own when that is positive, else the rate
of its format or the default, both 32 GBd. -/
theorem Transceiver.not_effectiveSymbolRate_le_zero (trx : Transceiver) :
    ¬ trx.effectiveSymbolRate ≤ 0 := by
  unfold Transceiver.effectiveSymbolRate
  split
  · exact Float.not_le_of_lt ‹_›
  · split
    · show ¬ Grid.defaultSymbolRate ≤ 0
      decide
    · decide

/-- A signal created for a transceiver is off, on the channel asked for, at the transceiver's
symbol rate. -/
theorem Signal.create_for_transceiver {trx : Transceiver} {ch : Int} {s : Signal}
    (h : Signal.create ch trx.effectiveSymbolRate = .ok s) :
    s.index = ch ∧ s.symbolRate = trx.effectiveSymbolRate ∧ s.active = false := by
  unfold Signal.create at h
  split at h
  · cases h
  · cases h
    exact ⟨rfl, if_neg trx.not_effectiveSymbolRate_le_zero, rfl⟩

/-! ### What a binding sees of its signal -/

/-- Two states of a signal with the same channel, symbol rate and on/off state; recording and
forgetting visits change none of them. -/
structure Signal.Alike (s s' : Signal) : Prop where
  index : s'.index = s.index
  symbolRate : s'.symbolRate = s.symbolRate
  active : s'.active = s.active

namespace Signal

theorem Alike.refl (s : Signal) : s.Alike s := ⟨rfl, rfl, rfl⟩

theorem alike_truncate (s : Signal) (n : Nat) : s.Alike (s.truncate n) := by
  unfold truncate
  split
  · exact .refl s
  · exact ⟨rfl, rfl, rfl⟩

theorem alike_record (s : Signal) (prev loc : Location) (pass : Nat) (entry exit : SignalState) :
    s.Alike (s.record prev loc pass entry exit) :=
  have h := alike_truncate s
  ⟨(h _).index, (h _).symbolRate, (h _).active⟩

theorem alike_forget (s : Signal) (loc : Location) : s.Alike (s.forget loc) := by
  unfold forget
  split
  · exact alike_truncate s _
  · exact .refl s

end Signal

/-! ### Tables -/

theorem TreeMap.values_eq_map_snd {α β : Type} {cmp : α → α → Ordering} (m : Std.TreeMap α β cmp) :
    m.values = m.toList.map (·.2) := by
  simp only [Std.TreeMap.values, Std.TreeMap.toList, Std.DTreeMap.values,
    Std.DTreeMap.Const.toList]
  rw [Std.DTreeMap.Internal.Impl.values_eq_map_snd,
    Std.DTreeMap.Internal.Impl.Const.toList_eq_toListModel_map]
  simp

theorem TreeMap.mem_values {α β : Type} {cmp : α → α → Ordering} [Std.TransCmp cmp]
    [Std.LawfulEqCmp cmp] {m : Std.TreeMap α β cmp} {b : β} :
    b ∈ m.values ↔ ∃ k, m.get? k = some b := by
  simp [TreeMap.values_eq_map_snd, Std.TreeMap.get?_eq_getElem?]

namespace Terminal

/-- The bindings of a terminal agree with each other, with the signals (read through
`signal`) and with the reports. -/
structure BindingsSound (t : Terminal) (signal : Nat → Signal) : Prop where
  /-- A transceiver transmits at most one channel. -/
  tx_once : ∀ {ch ch' : Int} {b b' : TxBinding}, t.tx.get? ch = some b → t.tx.get? ch' = some b' →
    b.transceiver = b'.transceiver → ch = ch'
  /-- A transceiver receives at most one channel. -/
  rx_once : ∀ {ch ch' : Int} {b b' : RxBinding}, t.rx.get? ch = some b → t.rx.get? ch' = some b' →
    b.transceiver = b'.transceiver → ch = ch'
  tx_index : ∀ {ch : Int} {b : TxBinding}, t.tx.get? ch = some b → (signal b.signal).index = ch
  tx_rate : ∀ {ch : Int} {b : TxBinding}, t.tx.get? ch = some b →
    ∃ trx, t.transceiver? b.transceiver = some trx ∧
      (signal b.signal).symbolRate = trx.effectiveSymbolRate
  tx_active : ∀ {ch : Int} {b : TxBinding}, t.tx.get? ch = some b →
    (signal b.signal).active = b.active
  reports_rx : ∀ {ch : Int} {r : Report}, t.reports.get? ch = some r →
    ∃ b, t.rx.get? ch = some b ∧ r.channel = ch ∧ r.port = b.port ∧ r.transceiver = b.transceiver

variable {t t' : Terminal} {s s' : Nat → Signal}

theorem transceiver?_congr (h : t'.transceivers = t.transceivers) :
    t'.transceiver? = t.transceiver? := by
  unfold transceiver?
  rw [h]

/-- A terminal without bindings and reports. -/
theorem bindingsSound_of_empty (htx : t.tx = {}) (hrx : t.rx = {}) (hrep : t.reports = {})
    (s : Nat → Signal) : t.BindingsSound s where
  tx_once h := by simp [htx, Std.TreeMap.get?_eq_getElem?] at h
  rx_once h := by simp [hrx, Std.TreeMap.get?_eq_getElem?] at h
  tx_index h := by simp [htx, Std.TreeMap.get?_eq_getElem?] at h
  tx_rate h := by simp [htx, Std.TreeMap.get?_eq_getElem?] at h
  tx_active h := by simp [htx, Std.TreeMap.get?_eq_getElem?] at h
  reports_rx h := by simp [hrep, Std.TreeMap.get?_eq_getElem?] at h

theorem bindingsSound_clear (t : Terminal) (s : Nat → Signal) : t.clear.BindingsSound s :=
  bindingsSound_of_empty rfl rfl rfl s

/-- The bindings stay sound when the signals they own change only in ways they do not see. -/
theorem BindingsSound.of_signals (h : t.BindingsSound s)
    (hs : ∀ {ch b}, t.tx.get? ch = some b → (s b.signal).Alike (s' b.signal)) :
    t.BindingsSound s' where
  tx_once := h.tx_once
  rx_once := h.rx_once
  tx_index hb := (hs hb).index.trans (h.tx_index hb)
  tx_rate hb := by
    obtain ⟨trx, htrx, hrate⟩ := h.tx_rate hb
    exact ⟨trx, htrx, (hs hb).symbolRate.trans hrate⟩
  tx_active hb := (hs hb).active.trans (h.tx_active hb)
  reports_rx := h.reports_rx

/-- A write of a pass keeps the bindings sound: it changes no binding and files reports for
receive bindings only. -/
theorem BindingsSound.passWrite {pass : Nat} (h : t.BindingsSound s) (hw : t.PassWrite pass t') :
    t'.BindingsSound s where
  tx_once := by
    rw [hw.tx]
    exact h.tx_once
  rx_once := by
    rw [hw.rx]
    exact h.rx_once
  tx_index := by
    rw [hw.tx]
    exact h.tx_index
  tx_rate := by
    rw [hw.tx, transceiver?_congr hw.transceivers]
    exact h.tx_rate
  tx_active := by
    rw [hw.tx]
    exact h.tx_active
  reports_rx {ch r} hr := by
    rw [hw.rx]
    rcases hw.reports ch r hr with hr | hb
    · exact h.reports_rx hr
    · exact hb

/-- Dropping bindings keeps the rest sound, as long as every report that stays keeps the
receive binding it was filed for. -/
theorem BindingsSound.of_sub (h : t.BindingsSound s) (htr : t'.transceivers = t.transceivers)
    (htx : ∀ {ch b}, t'.tx.get? ch = some b → t.tx.get? ch = some b)
    (hrx : ∀ {ch b}, t'.rx.get? ch = some b → t.rx.get? ch = some b)
    (hrep : ∀ {ch r}, t'.reports.get? ch = some r →
      t.reports.get? ch = some r ∧ t'.rx.get? ch = t.rx.get? ch) : t'.BindingsSound s where
  tx_once hb hb' := h.tx_once (htx hb) (htx hb')
  rx_once hb hb' := h.rx_once (hrx hb) (hrx hb')
  tx_index hb := h.tx_index (htx hb)
  tx_rate hb := by
    rw [transceiver?_congr htr]
    exact h.tx_rate (htx hb)
  tx_active hb := h.tx_active (htx hb)
  reports_rx hr := by
    obtain ⟨hr, hrx'⟩ := hrep hr
    rw [hrx']
    exact h.reports_rx hr

/-- A transmit channel is unbound only while it is off. -/
theorem disassocTx_eq_ok {ch : Int} (he : t.disassocTx ch = .ok t') :
    ∃ b, t.tx.get? ch = some b ∧ b.active = false ∧ t' = { t with tx := t.tx.erase ch } := by
  unfold Terminal.disassocTx at he
  split at he
  · cases he
  · rename_i b hb
    split at he
    · cases he
    · cases he
      exact ⟨b, hb, by simpa using ‹¬b.active = true›, rfl⟩

/-- A receive channel is unbound with its report. -/
theorem disassocRx_eq_ok {ch : Int} (he : t.disassocRx ch = .ok t') :
    t.rx.contains ch ∧ t' = { t with rx := t.rx.erase ch, reports := t.reports.erase ch } := by
  unfold Terminal.disassocRx at he
  split at he
  · cases he
    exact ⟨‹_›, rfl⟩
  · cases he

theorem BindingsSound.disassocTx (h : t.BindingsSound s) {ch : Int}
    (he : t.disassocTx ch = .ok t') : t'.BindingsSound s := by
  obtain ⟨-, -, -, rfl⟩ := disassocTx_eq_ok he
  refine h.of_sub rfl (fun hb => ?_) id fun hr => ⟨hr, rfl⟩
  rw [get?_erase_eq] at hb
  split at hb
  · cases hb
  · exact hb

/-- Unbinding a receive channel also drops its report. -/
theorem BindingsSound.disassocRx (h : t.BindingsSound s) {ch : Int}
    (he : t.disassocRx ch = .ok t') : t'.BindingsSound s := by
  obtain ⟨-, rfl⟩ := disassocRx_eq_ok he
  refine h.of_sub rfl id (fun hb => ?_) fun {ch' r} hr => ?_
  · rw [get?_erase_eq] at hb
    split at hb
    · cases hb
    · exact hb
  · -- a report that stays is not the dropped channel's, whose binding stays too
    change (t.reports.erase ch).get? ch' = some r at hr
    change t.reports.get? ch' = some r ∧ (t.rx.erase ch).get? ch' = t.rx.get? ch'
    rw [get?_erase_eq] at hr ⊢
    split at hr
    · cases hr
    · rename_i hne
      exact ⟨hr, if_neg hne⟩

/-- What a successful receive binding did: it was there already, or the channel was free and
the transceiver received nothing, and the binding is added. -/
theorem assocRx_eq_ok {trx ch port : Int} (he : t.assocRx trx ch port = .ok t') :
    t' = t ∨ t.rx.get? ch = none ∧ (∀ {ch' b}, t.rx.get? ch' = some b → b.transceiver ≠ trx) ∧
      t' = { t with rx := t.rx.insert ch ⟨trx, port⟩ } := by
  unfold Terminal.assocRx at he
  split at he
  · dsimp only at he
    split at he
    · cases he
    · split at he
      · cases he
      · split at he
        · -- the same binding again changes nothing
          split at he
          · cases he
            exact .inl rfl
          · cases he
        · rename_i hnone
          split at he
          · cases he
          · rename_i hfind
            cases he
            refine .inr ⟨hnone, fun {ch' b} hb hbt => ?_, rfl⟩
            have hmem : (ch', b) ∈ t.rx.toList :=
              Std.TreeMap.mem_toList_iff_getElem?_eq_some.mpr hb
            exact absurd (by simp [hbt]) (List.find?_eq_none.mp hfind _ hmem)
  · cases he

/-- Binding a receive channel keeps the bindings sound: the channel was free, so it had no
report, and its transceiver received nothing else. -/
theorem BindingsSound.assocRx (h : t.BindingsSound s) {trx ch port : Int}
    (he : t.assocRx trx ch port = .ok t') : t'.BindingsSound s := by
  rcases assocRx_eq_ok he with rfl | ⟨hnone, hfree, rfl⟩
  · exact h
  have hrx : ∀ {c b}, c ≠ ch → (t.rx.insert ch ⟨trx, port⟩).get? c = some b → t.rx.get? c = some b :=
    fun hc hb => by rwa [get?_insert_eq, if_neg (Ne.symm hc)] at hb
  refine ⟨h.tx_once, fun {c c' b b'} hb hb' hbb => ?_, h.tx_index, h.tx_rate, h.tx_active,
    fun {c r} hr => ?_⟩
  · by_cases hc : c = ch <;> by_cases hc' : c' = ch
    · rw [hc, hc']
    · -- the new binding's transceiver received nothing else
      subst hc
      rw [get?_insert_eq, if_pos rfl] at hb
      cases hb
      exact absurd hbb.symm (hfree (hrx hc' hb'))
    · subst hc'
      rw [get?_insert_eq, if_pos rfl] at hb'
      cases hb'
      exact absurd hbb (hfree (hrx hc hb))
    · exact h.rx_once (hrx hc hb) (hrx hc' hb') hbb
  · obtain ⟨b, hb, hrb⟩ := h.reports_rx hr
    have hc : c ≠ ch := by
      rintro rfl
      rw [hnone] at hb
      cases hb
    refine ⟨b, ?_, hrb⟩
    show (t.rx.insert ch ⟨trx, port⟩).get? c = some b
    rw [get?_insert_eq, if_neg (Ne.symm hc)]
    exact hb

/-- A new transmit binding, on a free channel and a transceiver that transmits nothing, with a
new signal of the channel at the transceiver's rate that is off; the signals of the other
bindings stay. -/
theorem BindingsSound.insertTx (h : t.BindingsSound s) {ch trxId port : Int} {i : Nat}
    {trx : Transceiver} (hnone : t.tx.get? ch = none)
    (hfree : ∀ {c b}, t.tx.get? c = some b → b.transceiver ≠ trxId)
    (htrx : t.transceiver? trxId = some trx)
    (hnew : (s' i).index = ch ∧ (s' i).symbolRate = trx.effectiveSymbolRate ∧
      (s' i).active = false)
    (hold : ∀ {c b}, t.tx.get? c = some b → s' b.signal = s b.signal) :
    { t with tx := t.tx.insert ch ⟨trxId, port, i, false⟩ }.BindingsSound s' := by
  -- every binding is the new one or an old one
  have hcases : ∀ {c b}, (t.tx.insert ch ⟨trxId, port, i, false⟩).get? c = some b →
      (c = ch ∧ b = ⟨trxId, port, i, false⟩) ∨ (c ≠ ch ∧ t.tx.get? c = some b) := by
    intro c b hb
    rw [get?_insert_eq] at hb
    split at hb
    · cases hb
      exact .inl ⟨(‹ch = c›).symm, rfl⟩
    · exact .inr ⟨Ne.symm ‹_›, hb⟩
  refine ⟨fun {c c' b b'} hb hb' hbb => ?_, h.rx_once, fun hb => ?_, fun hb => ?_, fun hb => ?_,
    h.reports_rx⟩
  · -- the new binding's transceiver transmits nothing else
    rcases hcases hb with ⟨hc, hbn⟩ | ⟨-, hb⟩ <;> rcases hcases hb' with ⟨hc', hbn'⟩ | ⟨-, hb'⟩
    · rw [hc, hc']
    · rw [hbn] at hbb
      exact absurd hbb.symm (hfree hb')
    · rw [hbn'] at hbb
      exact absurd hbb (hfree hb)
    · exact h.tx_once hb hb' hbb
  · rcases hcases hb with ⟨rfl, rfl⟩ | ⟨_, hb⟩
    · exact hnew.1
    · rw [hold hb]
      exact h.tx_index hb
  · rcases hcases hb with ⟨rfl, rfl⟩ | ⟨_, hb⟩
    · exact ⟨trx, htrx, hnew.2.1⟩
    · rw [hold hb]
      exact h.tx_rate hb
  · rcases hcases hb with ⟨rfl, rfl⟩ | ⟨_, hb⟩
    · exact hnew.2.2
    · rw [hold hb]
      exact h.tx_active hb

/-- Switching every transmit binding on, with its signal. -/
theorem BindingsSound.switchOn (h : t.BindingsSound s)
    (hs : ∀ {ch b}, t.tx.get? ch = some b → s' b.signal = { s b.signal with active := true }) :
    { t with tx := t.tx.map fun _ (b : TxBinding) => { b with active := true } }.BindingsSound s' := by
  -- every binding is an old one, switched on
  have hmap : ∀ {c b}, (t.tx.map fun _ (b : TxBinding) => { b with active := true }).get? c = some b →
      ∃ b₀, t.tx.get? c = some b₀ ∧ b = { b₀ with active := true } := by
    intro c b hb
    simp only [Std.TreeMap.get?_eq_getElem?, Std.TreeMap.getElem?_map, Option.map_eq_some_iff] at hb
    obtain ⟨b₀, hb₀, rfl⟩ := hb
    exact ⟨b₀, by rw [Std.TreeMap.get?_eq_getElem?]; exact hb₀, rfl⟩
  refine ⟨fun hb hb' hbb => ?_, h.rx_once, fun hb => ?_, fun hb => ?_, fun hb => ?_, h.reports_rx⟩
  · obtain ⟨b₀, hb₀, rfl⟩ := hmap hb
    obtain ⟨b₀', hb₀', rfl⟩ := hmap hb'
    exact h.tx_once hb₀ hb₀' hbb
  · obtain ⟨b₀, hb₀, rfl⟩ := hmap hb
    rw [hs hb₀]
    exact h.tx_index hb₀
  · obtain ⟨b₀, hb₀, rfl⟩ := hmap hb
    rw [hs hb₀]
    obtain ⟨trx, htrx, hrate⟩ := h.tx_rate hb₀
    exact ⟨trx, htrx, hrate⟩
  · obtain ⟨b₀, hb₀, rfl⟩ := hmap hb
    rw [hs hb₀]

/-- Switching one transmit binding off, with its signal, which forgets its path; the signals of
the other bindings stay. -/
theorem BindingsSound.switchOff (h : t.BindingsSound s) {ch : Int} {b : TxBinding}
    (hb : t.tx.get? ch = some b)
    (hoff : s' b.signal = { (s b.signal).clearPath with active := false })
    (hs : ∀ {c b'}, t.tx.get? c = some b' → c ≠ ch → s' b'.signal = s b'.signal) :
    { t with tx := t.tx.insert ch { b with active := false } }.BindingsSound s' := by
  have hcases : ∀ {c b'}, (t.tx.insert ch { b with active := false }).get? c = some b' →
      (c = ch ∧ b' = { b with active := false }) ∨ (c ≠ ch ∧ t.tx.get? c = some b') := by
    intro c b' hb'
    rw [get?_insert_eq] at hb'
    split at hb'
    · cases hb'
      exact .inl ⟨(‹ch = c›).symm, rfl⟩
    · exact .inr ⟨Ne.symm ‹_›, hb'⟩
  refine ⟨fun {c c' b₁ b₂} hb₁ hb₂ hbb => ?_, h.rx_once, fun hb' => ?_, fun hb' => ?_,
    fun hb' => ?_, h.reports_rx⟩
  · -- switching off keeps the transceiver of the binding
    have hold : ∀ {c b'}, (t.tx.insert ch { b with active := false }).get? c = some b' →
        ∃ b₀, t.tx.get? c = some b₀ ∧ b'.transceiver = b₀.transceiver := by
      intro c b' hb'
      rcases hcases hb' with ⟨rfl, rfl⟩ | ⟨_, hb'⟩
      · exact ⟨b, hb, rfl⟩
      · exact ⟨b', hb', rfl⟩
    obtain ⟨b₀, hb₀, ht₀⟩ := hold hb₁
    obtain ⟨b₀', hb₀', ht₀'⟩ := hold hb₂
    exact h.tx_once hb₀ hb₀' (ht₀.symm.trans (hbb.trans ht₀'))
  · rcases hcases hb' with ⟨rfl, rfl⟩ | ⟨hc, hb'⟩
    · rw [hoff]
      exact h.tx_index hb
    · rw [hs hb' hc]
      exact h.tx_index hb'
  · rcases hcases hb' with ⟨rfl, rfl⟩ | ⟨hc, hb'⟩
    · rw [hoff]
      obtain ⟨trx, htrx, hrate⟩ := h.tx_rate hb
      exact ⟨trx, htrx, hrate⟩
    · rw [hs hb' hc]
      exact h.tx_rate hb'
  · rcases hcases hb' with ⟨rfl, rfl⟩ | ⟨hc, hb'⟩
    · rw [hoff]
    · rw [hs hb' hc]
      exact h.tx_active hb'

/-! ### Failed channels -/

/-- The failed channels of a terminal are the channels of its failed reports, each once and in
increasing order. -/
theorem failedChannels_spec (t : Terminal) :
    t.failedChannels.Pairwise (· < ·) ∧
      ∀ ch, ch ∈ t.failedChannels ↔ ∃ r, t.reports.get? ch = some r ∧ r.ok = false := by
  constructor
  · -- the reports are listed by increasing channel
    unfold failedChannels
    refine List.pairwise_filterMap.mpr (t.reports.ordered_keys_toList.imp fun {a b} hab => ?_)
    obtain ⟨ch₁, r₁⟩ := a
    obtain ⟨ch₂, r₂⟩ := b
    intro x hx y hy
    dsimp only at hx hy hab
    split at hx
    · cases hx
    · split at hy
      · cases hy
      · cases hx
        cases hy
        exact Int.compare_eq_lt.mp hab
  · intro ch
    simp only [failedChannels, List.mem_filterMap]
    constructor
    · rintro ⟨⟨ch', r⟩, hmem, hr⟩
      split at hr
      · cases hr
      · rename_i hok
        cases hr
        exact ⟨r, Std.TreeMap.mem_toList_iff_getElem?_eq_some.mp hmem, Bool.eq_false_iff.mpr hok⟩
    · rintro ⟨r, hr, hok⟩
      refine ⟨(ch, r), Std.TreeMap.mem_toList_iff_getElem?_eq_some.mpr hr, ?_⟩
      simp [hok]

end Terminal

end WdmNet

import WdmNet.Network.Monitor
import WdmNet.Proofs.Roadm.Table
import Mathlib.Data.List.Nodup
/-!
Channel sets in channel order.

A channel set is sound for a table of signal channels when its carriers are in strictly
increasing channel order and each travels on the channel of its signal (`ChannelSet.Sound`).
A sound set holds one carrier per channel, so `ChannelSet.find?` finds the carrier of a channel
exactly when there is one, and a monitor over a sound set reads, channel by channel, the same
rows through its per-channel state as through its list of readings.

The engine makes new sets by changing what each carrier carries, by cutting a set short, by
filtering it and by sorting carriers of distinct channels; each of these keeps a set sound. A
table of sets by port is sound when every set in it is.

Main statements: `ChannelSet.Sound.find?_eq_some_iff`, `Monitor.readings_eq_of_sound`.
-/

namespace WdmNet

/-- The channel of the signal at a position among the signals, if there is one. -/
def signalChannel (signals : Array Signal) (i : Nat) : Option Int := signals[i]?.map (·.index)

theorem signalChannel_eq_some {signals : Array Signal} {i : Nat} {ch : Int} :
    signalChannel signals i = some ch ↔ ∃ s, signals[i]? = some s ∧ s.index = ch :=
  Option.map_eq_some_iff

namespace ChannelSet

variable {index index' : Nat → Option Int} {cs cs' : ChannelSet}

/-- Strictly increasing channel order, each carrier on the channel that `index` gives its
signal. -/
structure Sound (index : Nat → Option Int) (cs : ChannelSet) : Prop where
  sorted : cs.Pairwise (·.channel < ·.channel)
  channel : ∀ c ∈ cs, index c.sig = some c.channel

theorem sound_nil : Sound index [] := ⟨.nil, fun _ h => nomatch h⟩

theorem Sound.sublist (h : Sound index cs) (hs : cs'.Sublist cs) : Sound index cs' :=
  ⟨h.sorted.sublist hs, fun c hc => h.channel c (hs.subset hc)⟩

theorem Sound.tail {c : Carrier} (h : Sound index (c :: cs)) : Sound index cs :=
  h.sublist (List.sublist_cons_self c cs)

theorem Sound.mono (h : Sound index cs) (hi : ∀ {i ch}, index i = some ch → index' i = some ch) :
    Sound index' cs :=
  ⟨h.sorted, fun c hc => hi (h.channel c hc)⟩

/-- Changing what each carrier carries, but not its signal or its channel, keeps a set
sound. -/
theorem Sound.map (h : Sound index cs) {g : Carrier → Carrier}
    (hg : ∀ c, (g c).sig = c.sig ∧ (g c).channel = c.channel) : Sound index (cs.map g) := by
  refine ⟨List.pairwise_map.mpr (h.sorted.imp fun {a b} hab => ?_), fun c hc => ?_⟩
  · rw [(hg a).2, (hg b).2]
    exact hab
  · obtain ⟨c', hc', rfl⟩ := List.mem_map.mp hc
    rw [(hg c').1, (hg c').2]
    exact h.channel c' hc'

/-- Pairing the carriers with new data, as far as the data goes, and changing what each
carries keeps a set sound. -/
theorem Sound.zip {β : Type} (h : Sound index cs) (l : List β) {g : Carrier → β → Carrier}
    (hg : ∀ c b, (g c b).sig = c.sig ∧ (g c b).channel = c.channel) :
    Sound index ((cs.zip l).map fun p => g p.1 p.2) := by
  induction cs generalizing l with
  | nil => exact sound_nil
  | cons c cs ih =>
    cases l with
    | nil => exact sound_nil
    | cons b l =>
      have ht := ih h.tail l
      rw [List.zip_cons_cons, List.map_cons]
      refine ⟨List.pairwise_cons.mpr ⟨fun d hd => ?_, ht.sorted⟩, fun d hd => ?_⟩
      · obtain ⟨⟨c', b'⟩, hp, rfl⟩ := List.mem_map.mp hd
        rw [(hg c b).2, (hg c' b').2]
        exact List.rel_of_pairwise_cons h.sorted (List.of_mem_zip hp).1
      · rcases List.mem_cons.mp hd with rfl | hd
        · rw [(hg c b).1, (hg c b).2]
          exact h.channel c List.mem_cons_self
        · exact ht.channel d hd

/-- Carriers of distinct channels, sorted by channel, are in strictly increasing channel
order. -/
theorem sortByChannel_sorted (hnd : (cs.map (·.channel)).Nodup) :
    cs.sortByChannel.Pairwise (·.channel < ·.channel) := by
  unfold sortByChannel
  have hperm := List.mergeSort_perm cs fun a b => decide (a.channel ≤ b.channel)
  have hle : (cs.mergeSort fun a b => decide (a.channel ≤ b.channel)).Pairwise
      (·.channel ≤ ·.channel) := by
    have h : (cs.mergeSort fun a b => decide (a.channel ≤ b.channel)).Pairwise
        (fun a b => decide (a.channel ≤ b.channel)) :=
      List.pairwise_mergeSort (fun a b c hab hbc => by simp only [decide_eq_true_eq] at hab hbc ⊢; omega)
        (fun a b => by simp only [Bool.or_eq_true, decide_eq_true_eq]; omega) cs
    simpa only [decide_eq_true_eq] using h
  -- the sorted list has the same channels, still without repetitions
  have hne : (cs.mergeSort fun a b => decide (a.channel ≤ b.channel)).Pairwise
      (·.channel ≠ ·.channel) :=
    List.pairwise_map.mp ((hperm.map _).nodup_iff.mpr hnd)
  exact (hle.and hne).imp fun h => Int.lt_iff_le_and_ne.mpr h

theorem sound_sortByChannel (hnd : (cs.map (·.channel)).Nodup)
    (hc : ∀ c ∈ cs, index c.sig = some c.channel) : Sound index cs.sortByChannel :=
  ⟨sortByChannel_sorted hnd, fun c hc' => hc c ((List.mergeSort_perm _ _).subset hc')⟩

/-- A sound set has one carrier per channel. -/
theorem Sound.eq_of_channel_eq (h : Sound index cs) {c c' : Carrier} (hc : c ∈ cs)
    (hc' : c' ∈ cs) (heq : c.channel = c'.channel) : c = c' := by
  induction cs with
  | nil => cases hc
  | cons d ds ih =>
    have hd := (List.pairwise_cons.mp h.sorted).1
    rcases List.mem_cons.mp hc with hc | hc <;> rcases List.mem_cons.mp hc' with hc' | hc'
    · rw [hc, hc']
    · rw [hc] at heq
      exact absurd heq (Int.ne_of_lt (hd _ hc'))
    · rw [hc'] at heq
      exact absurd heq.symm (Int.ne_of_lt (hd _ hc))
    · exact ih h.tail hc hc'

/-- In a set with one carrier per channel, `find?` finds a carrier of a channel exactly when it
is the carrier of that channel in the set. -/
theorem find?_eq_some_iff_of_nodup (hnd : cs.channels.Nodup) {ch : Int} {c : Carrier} :
    cs.find? ch = some c ↔ c ∈ cs ∧ c.channel = ch := by
  unfold ChannelSet.find?
  constructor
  · intro hf
    exact ⟨List.mem_of_find?_eq_some hf, by simpa using List.find?_some hf⟩
  · rintro ⟨hc, rfl⟩
    have hsome : (List.find? (fun x => x.channel == c.channel) cs).isSome :=
      List.find?_isSome.mpr ⟨c, hc, by simp⟩
    obtain ⟨c', hf⟩ := Option.isSome_iff_exists.mp hsome
    have hch : c'.channel = c.channel := by simpa using List.find?_some hf
    rw [hf, List.inj_on_of_nodup_map hnd (List.mem_of_find?_eq_some hf) hc hch]

/-- Sorting a set with one carrier per channel finds the same carrier for every channel. -/
theorem find?_sortByChannel (hnd : cs.channels.Nodup) (ch : Int) :
    cs.sortByChannel.find? ch = cs.find? ch := by
  have hperm : cs.sortByChannel.Perm cs := List.mergeSort_perm _ _
  have hnd' : cs.sortByChannel.channels.Nodup := (hperm.map _).nodup_iff.mpr hnd
  refine Option.ext fun c => ?_
  rw [find?_eq_some_iff_of_nodup hnd', find?_eq_some_iff_of_nodup hnd]
  exact and_congr_left fun _ => hperm.mem_iff

theorem Sound.nodup (h : Sound index cs) : cs.channels.Nodup :=
  List.pairwise_map.mpr (h.sorted.imp Int.ne_of_lt)

theorem Sound.find?_eq_some_iff (h : Sound index cs) {ch : Int} {c : Carrier} :
    cs.find? ch = some c ↔ c ∈ cs ∧ c.channel = ch :=
  find?_eq_some_iff_of_nodup h.nodup

/-! ### Tables of sets by port -/

/-- Every set of a table by port is sound. -/
def TableSound (index : Nat → Option Int) (m : Std.TreeMap Int ChannelSet) : Prop :=
  ∀ p cs, m.get? p = some cs → Sound index cs

variable {m : Std.TreeMap Int ChannelSet}

theorem tableSound_empty : TableSound index {} := fun _ _ h => by simp at h

theorem TableSound.insert (h : TableSound index m) (p : Int) (hs : Sound index cs) :
    TableSound index (m.insert p cs) := fun q _ hq => by
  rw [get?_insert_eq] at hq
  split at hq
  · cases hq
    exact hs
  · exact h q _ hq

theorem TableSound.getD (h : TableSound index m) (p : Int) : Sound index ((m.get? p).getD []) := by
  cases hp : m.get? p with
  | none => exact sound_nil
  | some cs => exact h p cs hp

theorem TableSound.mono (h : TableSound index m)
    (hi : ∀ {i ch}, index i = some ch → index' i = some ch) : TableSound index' m :=
  fun p cs hp => (h p cs hp).mono hi

end ChannelSet

/-- Over a sound set, a monitor's readings are, in channel order, the rows that its per-channel
state gives: one for each channel whose signal remembers the location, with the power, noise
and signal-to-noise ratios of the state recorded there. -/
theorem Monitor.readings_eq_of_sound {m : Monitor} {signals : Array Signal}
    (h : ChannelSet.Sound (signalChannel signals) m.carriers) (mode : Mode) :
    m.readings signals mode = m.channels.filterMap fun ch =>
      (m.state signals ch mode).map fun (st, s) =>
        ⟨ch, s.frequency, Units.wattsToDbm st.power, Units.wattsToDbm st.ase,
          Units.wattsToDbm st.nli, osnrDb st, gosnrDb st s.symbolRate⟩ := by
  unfold Monitor.readings Monitor.channels ChannelSet.channels
  rw [List.filterMap_map]
  refine List.filterMap_congr fun c hc => ?_
  -- the carrier is the one `find?` gives for its channel, and its signal is on that channel
  obtain ⟨s, hs, hidx⟩ := signalChannel_eq_some.mp (h.channel c hc)
  have hf : m.carriers.find? c.channel = some c := h.find?_eq_some_iff.mpr ⟨hc, rfl⟩
  simp only [Function.comp_apply, Monitor.state, hf, Option.bind_eq_bind, Option.bind_some, hs,
    Option.getD_some]
  cases s.stateAt m.location mode.isEntry <;> simp [hidx]

end WdmNet

import Mathlib.Data.List.Basic
import Mathlib.Logic.Relation
import WdmNet.Network.Signal
/-!
The recorded path of a signal and its index.

A signal keeps the visits of its latest propagation in order, and beside them an index from
each location to its position in the path. `Signal.PathSound s p` says that the index only
points at visits of the location it is kept for, and that the passes along the path never
decrease and none is later than `p`. Recording a visit of pass `p` or later, cutting the path
back, forgetting a location and clearing the path all keep it.

The index need not cover the whole path: where a location occurs twice, cutting the path back
past the second occurrence removes the location from the index. Soundness is what survives
every operation.

Main statements: `Signal.PathSound.record`, `Signal.PathSound.truncate`,
`Signal.PathSound.forget`.
-/

namespace WdmNet

namespace Assoc

variable {κ α : Type} [DecidableEq κ]

theorem get?_nil (k : κ) : Assoc.get? ([] : Assoc κ α) k = none := rfl

theorem get?_cons (k k' : κ) (v : α) (m : Assoc κ α) :
    Assoc.get? ((k', v) :: m) k = if k' = k then some v else m.get? k := by
  by_cases h : k' = k <;> simp [get?, h]

theorem erase_cons (k k' : κ) (v : α) (m : Assoc κ α) :
    Assoc.erase ((k', v) :: m) k = if k' = k then m.erase k else (k', v) :: m.erase k := by
  by_cases h : k' = k <;> simp [erase, h]

theorem get?_erase (m : Assoc κ α) (k k' : κ) :
    (m.erase k).get? k' = if k' = k then none else m.get? k' := by
  induction m with
  | nil => by_cases hk : k' = k <;> simp [erase, get?, hk]
  | cons kv m ih =>
    obtain ⟨j, v⟩ := kv
    rw [erase_cons]
    by_cases hj : j = k
    · subst hj
      rw [if_pos rfl, ih, get?_cons]
      by_cases hk : k' = j
      · simp [hk]
      · simp [hk, Ne.symm hk]
    · rw [if_neg hj, get?_cons, get?_cons, ih]
      by_cases hk : k' = k
      · simp [hk, hj]
      · simp [hk]

theorem get?_set (m : Assoc κ α) (k k' : κ) (v : α) :
    (m.set k v).get? k' = if k' = k then some v else m.get? k' := by
  rw [set, get?_cons, get?_erase]
  by_cases hk : k' = k
  · simp [hk]
  · simp [hk, Ne.symm hk]

/-- Erasing a list of keys leaves every other binding as it was. -/
theorem get?_foldl_erase {β : Type} (key : β → κ) (l : List β) (m : Assoc κ α) (k : κ)
    {v : α} (h : (l.foldl (fun m b => m.erase (key b)) m).get? k = some v) :
    m.get? k = some v ∧ ∀ b ∈ l, key b ≠ k := by
  induction l generalizing m with
  | nil => exact ⟨h, fun _ hb => absurd hb List.not_mem_nil⟩
  | cons b l ih =>
    obtain ⟨hm, hl⟩ := ih (m.erase (key b)) h
    rw [get?_erase] at hm
    by_cases hk : k = key b
    · simp [hk] at hm
    · rw [if_neg hk] at hm
      refine ⟨hm, fun b' hb' => ?_⟩
      rcases List.mem_cons.mp hb' with rfl | hb'
      · exact Ne.symm hk
      · exact hl b' hb'

end Assoc

namespace Signal

/-- The path of a signal is sound up to pass `p`: every position in the index holds a visit of
the location it is kept for, the passes along the path never decrease, and none is later
than `p`. -/
structure PathSound (s : Signal) (p : Nat) : Prop where
  positions : ∀ loc i, s.positions.get? loc = some i → (s.visits[i]?).map (·.location) = some loc
  ordered : s.visits.Pairwise fun v w => v.pass ≤ w.pass
  bounded : ∀ v ∈ s.visits, v.pass ≤ p

variable {s : Signal} {p : Nat}

theorem PathSound.mono (h : s.PathSound p) {q : Nat} (hpq : p ≤ q) : s.PathSound q :=
  ⟨h.positions, h.ordered, fun v hv => Nat.le_trans (h.bounded v hv) hpq⟩

theorem PathSound.of_path {t : Signal} (h : s.PathSound p) (hv : t.visits = s.visits)
    (hpos : t.positions = s.positions) : t.PathSound p := by
  obtain ⟨hp, ho, hb⟩ := h
  exact ⟨by rw [hv, hpos]; exact hp, by rw [hv]; exact ho, by rw [hv]; exact hb⟩

theorem PathSound.of_empty (hv : s.visits = []) (hpos : s.positions = []) : s.PathSound p :=
  ⟨fun _ _ h => by simp [hpos, Assoc.get?_nil] at h, by rw [hv]; exact List.Pairwise.nil,
    fun _ h => by simp [hv] at h⟩

theorem pathSound_clearPath (s : Signal) (p : Nat) : s.clearPath.PathSound p :=
  PathSound.of_empty rfl rfl

theorem pathSound_default (p : Nat) : (default : Signal).PathSound p :=
  PathSound.of_empty rfl rfl

/-- A new signal has not been anywhere. -/
theorem PathSound.of_create {index : Int} {rate : Float} (h : Signal.create index rate = .ok s)
    (p : Nat) : s.PathSound p := by
  unfold Signal.create at h
  split at h
  · cases h
  · cases h
    exact PathSound.of_empty rfl rfl

/-- Cutting the path back keeps it sound: a position past the cut belongs to a location whose
index entry the cut removes. -/
theorem PathSound.truncate (h : s.PathSound p) (n : Nat) : (s.truncate n).PathSound p := by
  unfold Signal.truncate
  split
  · exact h
  · rename_i hn
    refine ⟨fun loc i hget => ?_, h.ordered.sublist (List.take_sublist n _),
      fun v hv => h.bounded v (List.mem_of_mem_take hv)⟩
    obtain ⟨hold, hdrop⟩ := Assoc.get?_foldl_erase Visit.location _ _ loc hget
    have hvis := h.positions loc i hold
    -- a position at or past the cut would be a dropped visit of `loc`
    have hi : i < n := by
      by_contra hle
      obtain ⟨v, hv, hloc⟩ := Option.map_eq_some_iff.mp hvis
      have hmem : v ∈ s.visits.drop n := by
        rw [List.mem_iff_getElem?]
        exact ⟨i - n, by rw [List.getElem?_drop, Nat.add_sub_cancel' (by omega)]; exact hv⟩
      exact hdrop v hmem hloc
    rw [List.getElem?_take, if_pos hi]
    exact hvis

theorem PathSound.forget (h : s.PathSound p) (loc : Location) : (s.forget loc).PathSound p := by
  unfold Signal.forget
  split
  · exact h.truncate _
  · exact h

/-- Appending a visit no earlier than the path, with its location indexed at its position,
keeps the path sound up to the visit's pass. -/
theorem PathSound.push (h : s.PathSound p) (v : Visit) (hp : p ≤ v.pass) :
    ({ s with positions := s.positions.set v.location s.visits.length,
              visits := s.visits ++ [v] } : Signal).PathSound v.pass := by
  refine ⟨fun loc i hget => ?_, ?_, fun w hw => ?_⟩
  · rw [Assoc.get?_set] at hget
    split at hget
    · -- the new visit sits at the position its location is indexed at
      rename_i hloc
      rw [← Option.some.inj hget, List.getElem?_concat_length, Option.map_some, hloc]
    · have hold := h.positions loc i hget
      have hi : i < s.visits.length := by
        by_contra hge
        rw [List.getElem?_eq_none (by omega)] at hold
        cases hold
      rw [List.getElem?_append_left hi]
      exact hold
  · refine List.pairwise_append.mpr ⟨h.ordered, List.pairwise_singleton _ _, ?_⟩
    intro a ha b hb
    rw [List.mem_singleton.mp hb]
    exact Nat.le_trans (h.bounded a ha) hp
  · rcases List.mem_append.mp hw with hw | hw
    · exact Nat.le_trans (h.bounded w hw) hp
    · exact Nat.le_of_eq (congrArg Visit.pass (List.mem_singleton.mp hw))

/-- Recording a visit of pass `pass`, no earlier than every visit on the path, keeps the path
sound up to `pass`: the cut keeps it sound, and the visit is pushed at the end. -/
theorem PathSound.record (h : s.PathSound p) (prev loc : Location) {pass : Nat} (hp : p ≤ pass)
    (entry exit : SignalState) : (s.record prev loc pass entry exit).PathSound pass :=
  (h.truncate _).push ⟨loc, pass, entry, exit⟩ hp

/-- What a pass does to a signal in one step: it records a visit, in pass `p`. -/
def RecordedIn (p : Nat) (s t : Signal) : Prop :=
  ∃ prev loc entry exit, t = s.record prev loc p entry exit

/-- Whatever visits a pass records on a sound path, the path stays sound. -/
theorem PathSound.of_recordedIn {t : Signal} (h : s.PathSound p)
    (steps : Relation.ReflTransGen (RecordedIn p) s t) : t.PathSound p := by
  induction steps with
  | refl => exact h
  | tail _ step ih =>
    obtain ⟨prev, loc, entry, exit, rfl⟩ := step
    exact ih.record prev loc (Nat.le_refl p) entry exit

end Signal

end WdmNet

import Mathlib.Data.List.Nodup
import WdmNet.Proofs.Signal.Path
/-!
The index of a signal's path is exact.

Beside the visits of its latest propagation, a signal keeps an index from each location to the
position of its visit. `Signal.Indexed s` says that the index is exact: the locations along the
path are pairwise distinct, and the index maps a location to a position exactly when the visit
at that position is of that location.

Cutting the path back to its first `n` visits keeps the first `n` visits and erases from the
index the locations of the others; with distinct locations these are exactly the locations no
longer on the path, so the index stays exact. Forgetting a location cuts the path at the
location's position. Recording a visit cuts the path just after the location the carrier came
from (`Signal.cutAfter`) and appends the visit; the index stays exact as long as the new
location is not on the part of the path that stays.

Main statement: `Signal.record_truncate_keep_index`.
-/

namespace WdmNet

namespace Assoc

variable {κ α : Type} [DecidableEq κ]

/-- A key that none of the erased items names keeps its binding. -/
theorem get?_foldl_erase_of_not_mem {β : Type} (key : β → κ) (l : List β) (m : Assoc κ α) {k : κ}
    (hk : ∀ b ∈ l, key b ≠ k) : (l.foldl (fun m b => m.erase (key b)) m).get? k = m.get? k := by
  induction l generalizing m with
  | nil => rfl
  | cons b l ih =>
    rw [List.foldl_cons, ih _ fun b' hb' => hk b' (List.mem_cons_of_mem _ hb'), get?_erase,
      if_neg (hk b List.mem_cons_self).symm]

end Assoc

namespace Signal

/-- The index is exact: the locations along the path are pairwise distinct, and the index maps
a location to a position exactly when the visit there is of that location. -/
structure Indexed (s : Signal) : Prop where
  nodup : (s.visits.map (·.location)).Nodup
  positions : ∀ loc i, s.positions.get? loc = some i ↔ (s.visits[i]?).map (·.location) = some loc

/-- Where recording a visit reached from `prev` cuts the path: just after the position of `prev`
when `prev` is a place and indexed, and at the start otherwise. -/
def cutAfter (s : Signal) (prev : Location) : Nat :=
  if prev.kind != .none then
    match s.positions.get? prev with
    | some i => i + 1
    | none => 0
  else 0

variable {s : Signal}

theorem Indexed.of_empty (hv : s.visits = []) (hp : s.positions = []) : s.Indexed :=
  ⟨by simp [hv], fun loc i => by simp [hv, hp, Assoc.get?_nil]⟩

/-- Two positions of an exactly indexed path with the same location are the same position. -/
theorem Indexed.eq_of_location (h : s.Indexed) {i j : Nat} {v w : Visit} (hv : s.visits[i]? = some v)
    (hw : s.visits[j]? = some w) (hloc : v.location = w.location) : i = j := by
  have hne := List.nodup_iff_getElem?_ne_getElem?.mp h.nodup
  have hi : i < s.visits.length := (List.getElem?_eq_some_iff.mp hv).1
  have hj : j < s.visits.length := (List.getElem?_eq_some_iff.mp hw).1
  have hsame : (s.visits.map (·.location))[i]? = (s.visits.map (·.location))[j]? := by
    rw [List.getElem?_map, List.getElem?_map, hv, hw, Option.map_some, Option.map_some, hloc]
  -- the two positions hold the same location, so neither comes first
  rcases Nat.lt_trichotomy i j with hij | hij | hij
  · exact absurd hsame (hne i j hij (by simpa using hj))
  · exact hij
  · exact absurd hsame.symm (hne j i hij (by simpa using hi))

/-- Cutting the path back keeps its first `n` visits. -/
theorem truncate_visits (s : Signal) (n : Nat) : (s.truncate n).visits = s.visits.take n := by
  unfold Signal.truncate
  split
  · rename_i hn
    exact (List.take_of_length_le hn).symm
  · rfl

/-- Cutting the path back keeps the index exact: a location stays indexed exactly when its
visit is among the first `n`, since with distinct locations a kept location is never one that
the cut erases. -/
theorem Indexed.truncate (h : s.Indexed) (n : Nat) : (s.truncate n).Indexed := by
  unfold Signal.truncate
  split
  · exact h
  · refine ⟨(List.take_sublist n _).map _ |>.nodup h.nodup, fun loc i => ?_⟩
    dsimp only
    constructor
    · intro hget
      obtain ⟨hold, hdrop⟩ := Assoc.get?_foldl_erase Visit.location _ _ loc hget
      have hvis := (h.positions loc i).mp hold
      obtain ⟨v, hv, hloc⟩ := Option.map_eq_some_iff.mp hvis
      -- a position at or past the cut would be a dropped visit of `loc`
      have hi : i < n := by
        by_contra hle
        have hmem : v ∈ s.visits.drop n := by
          rw [List.mem_iff_getElem?]
          exact ⟨i - n, by rw [List.getElem?_drop, Nat.add_sub_cancel' (by omega)]; exact hv⟩
        exact hdrop v hmem hloc
      rw [List.getElem?_take, if_pos hi]
      exact hvis
    · intro hvis
      rw [List.getElem?_take] at hvis
      split at hvis
      · rename_i hi
        obtain ⟨v, hv, hloc⟩ := Option.map_eq_some_iff.mp hvis
        -- no dropped visit has the location: it would sit at the same position as `v`
        have hkeep : ∀ w ∈ s.visits.drop n, w.location ≠ loc := by
          intro w hw hwloc
          obtain ⟨j, hj⟩ := List.mem_iff_getElem?.mp hw
          rw [List.getElem?_drop] at hj
          have := h.eq_of_location hv hj (hloc.trans hwloc.symm)
          omega
        rw [Assoc.get?_foldl_erase_of_not_mem _ _ _ hkeep]
        exact (h.positions loc i).mpr hvis
      · cases hvis

/-- Forgetting a location cuts the path at the location's position, and changes nothing when the
location is not indexed. -/
theorem forget_visits (s : Signal) (loc : Location) :
    (s.forget loc).visits = s.visits.take ((s.positions.get? loc).getD s.visits.length) := by
  unfold Signal.forget
  split
  · rename_i i hi
    rw [truncate_visits, hi, Option.getD_some]
  · rename_i hnone
    rw [hnone, Option.getD_none, List.take_length]

theorem Indexed.forget (h : s.Indexed) (loc : Location) : (s.forget loc).Indexed := by
  unfold Signal.forget
  split
  · exact h.truncate _
  · exact h

/-- Appending a visit of a location that is not on the path, indexed at its position, keeps the
index exact. -/
theorem Indexed.push (h : s.Indexed) (v : Visit) (hv : v.location ∉ s.visits.map (·.location)) :
    ({ s with positions := s.positions.set v.location s.visits.length,
              visits := s.visits ++ [v] } : Signal).Indexed := by
  refine ⟨?_, fun loc i => ?_⟩
  · rw [List.map_append, List.map_singleton]
    exact h.nodup.append (List.nodup_singleton _)
      (List.disjoint_singleton.mpr hv)
  · dsimp only
    rw [Assoc.get?_set]
    split
    · -- the new visit is the only one of its location
      rename_i hloc
      subst hloc
      constructor
      · intro hi
        rw [← Option.some.inj hi, List.getElem?_concat_length, Option.map_some]
      · intro hvis
        obtain ⟨w, hw, hwloc⟩ := Option.map_eq_some_iff.mp hvis
        rcases Nat.lt_or_ge i s.visits.length with hi | hi
        · rw [List.getElem?_append_left hi] at hw
          exact absurd (List.mem_map.mpr ⟨w, List.mem_of_getElem? hw, hwloc⟩) hv
        · rw [List.getElem?_append_right hi] at hw
          have hlt : i - s.visits.length < 1 := (List.getElem?_eq_some_iff.mp hw).1
          rw [Nat.lt_one_iff, Nat.sub_eq_zero_iff_le] at hlt
          exact congrArg some (Nat.le_antisymm hlt hi).symm
    · rename_i hloc
      rw [h.positions loc i]
      rcases Nat.lt_or_ge i s.visits.length with hi | hi
      · rw [List.getElem?_append_left hi]
      · -- past the old path only the new visit sits, and it is of another location
        rw [List.getElem?_eq_none hi, List.getElem?_append_right hi]
        constructor
        · intro hn
          cases hn
        · intro hvis
          obtain ⟨w, hw, hwloc⟩ := Option.map_eq_some_iff.mp hvis
          have hlt : i - s.visits.length < 1 := (List.getElem?_eq_some_iff.mp hw).1
          have hzero : i - s.visits.length = 0 := Nat.lt_one_iff.mp hlt
          rw [hzero] at hw
          cases hw
          exact absurd hwloc.symm hloc

/-- Recording a visit cuts the path just after the location the carrier came from, then appends
the visit. -/
theorem record_eq (s : Signal) (prev loc : Location) (pass : Nat) (entry exit : SignalState) :
    s.record prev loc pass entry exit =
      { s.truncate (s.cutAfter prev) with
        positions := (s.truncate (s.cutAfter prev)).positions.set loc
          (s.truncate (s.cutAfter prev)).visits.length
        visits := (s.truncate (s.cutAfter prev)).visits ++ [⟨loc, pass, entry, exit⟩] } :=
  rfl

/-- Recording a visit on an exactly indexed path, and cutting or forgetting part of it.

Let `cut` be one past the position of `prev` when `prev` is a place and indexed, and zero
otherwise. Recording a visit of `loc` reached from `prev` leaves the first `cut` visits followed
by the new visit, and keeps the index exact when `loc` is not among those `cut` visits.
Forgetting `loc` leaves the visits before its position (all of them when `loc` is not indexed),
and cutting the path back to `n` visits leaves the first `n`; both keep the index exact. -/
theorem record_truncate_keep_index (hs : s.Indexed) (prev loc : Location) (pass : Nat)
    (entry exit : SignalState) (n : Nat) :
    (s.record prev loc pass entry exit).visits =
        s.visits.take (s.cutAfter prev) ++ [⟨loc, pass, entry, exit⟩] ∧
      (loc ∉ (s.visits.take (s.cutAfter prev)).map (·.location) →
        (s.record prev loc pass entry exit).Indexed) ∧
      (s.forget loc).visits = s.visits.take ((s.positions.get? loc).getD s.visits.length) ∧
      (s.forget loc).Indexed ∧
      (s.truncate n).visits = s.visits.take n ∧ (s.truncate n).Indexed := by
  refine ⟨by rw [record_eq, truncate_visits], fun hloc => ?_, forget_visits s loc,
    hs.forget loc, truncate_visits s n, hs.truncate n⟩
  rw [record_eq]
  rw [← truncate_visits] at hloc
  exact (hs.truncate _).push ⟨loc, pass, entry, exit⟩ hloc

/-- A signal recorded at a terminal port and then on a span, recorded on the span again in a
later pass: the path is cut back to the port and the span's visit replaced, and the index stays
exact throughout. -/
theorem record_again_keeps_index :
    let a : Location := ⟨.nodeOut, 0, 1⟩
    let b : Location := ⟨.span, 0, 0⟩
    let st : SignalState := ⟨1, 0, 0⟩
    let s : Signal :=
      ((⟨1, 0, 0, true, [], []⟩ : Signal).record Location.nowhere a 1 st st).record a b 1 st st
    s.Indexed ∧ (s.record a b 2 st st).visits = [⟨a, 1, st, st⟩, ⟨b, 2, st, st⟩] ∧
      (s.record a b 2 st st).Indexed := by
  intro a b st s
  have h₀ : (⟨1, 0, 0, true, [], []⟩ : Signal).Indexed := Indexed.of_empty rfl rfl
  have h₁ := (record_truncate_keep_index h₀ Location.nowhere a 1 st st 0).2.1 (by decide)
  have h₂ := (record_truncate_keep_index h₁ a b 1 st st 0).2.1 (by decide)
  have h₃ := record_truncate_keep_index h₂ a b 2 st st 0
  exact ⟨h₂, h₃.1, h₃.2.1 (by decide)⟩

end Signal

end WdmNet

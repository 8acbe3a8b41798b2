import Mathlib.Data.List.Sort
import Mathlib.Data.String.Basic
import WdmNet.Topology.Description
/-!
Names given more than once.

Validation finds the names given more than once by sorting them and walking the sorted list
once. At each position the walk compares a name with the one before it, and reports it when
they are equal and the name two back differs: a run of equal names is reported at its second
element and nowhere else, however long the run is.

* `duplicates.walk_reports`: on a sorted list whose names are all at least the name before it,
  the walk reports, once each and in increasing order, the names that occur at least twice,
  except the name before the list, whose run has already been reported.
* `duplicates_reports_each_repeated_name`: `duplicates` reports each name that occurs at least
  twice exactly once, in increasing order, and no other name.
-/

namespace WdmNet

namespace duplicates

variable {x z : String} {rest : List String} {prev : Option String}

/-- A name that is at most the head of a sorted list and differs from it does not occur in the
list. -/
theorem not_mem_of_lt_head {y : String} {tail : List String} (hs : (y :: tail).Pairwise (· ≤ ·))
    (hxy : x ≤ y) (hne : x ≠ y) : x ∉ y :: tail := by
  intro hx
  rcases List.mem_cons.mp hx with rfl | hx
  · exact hne rfl
  · exact hne (le_antisymm hxy ((List.pairwise_cons.mp hs).1 x hx))

/-- Past the head of a sorted list, a name other than the head counts the same in the list and
in its tail, and, when it occurs there, it is not the name before the list. -/
theorem repeated_iff_of_ne (hb : ∀ p ∈ prev, ∀ w ∈ x :: rest, p ≤ w) (hx : ∀ w ∈ rest, x ≤ w)
    (hz : z ≠ x) :
    (2 ≤ rest.count z ∧ some x ≠ some z) ↔ (2 ≤ (x :: rest).count z ∧ prev ≠ some z) := by
  rw [List.count_cons_of_ne (Ne.symm hz)]
  constructor
  · rintro ⟨hcount, -⟩
    refine ⟨hcount, fun hprev => hz (le_antisymm (hb z hprev x List.mem_cons_self) ?_)⟩
    exact hx z (List.count_pos_iff.mp (by omega))
  · rintro ⟨hcount, -⟩
    exact ⟨hcount, fun h => hz (Option.some_inj.mp h).symm⟩

/-- The walk over a sorted list reports, in increasing order and once each, the names that
occur at least twice, except the name before the list. -/
theorem walk_reports (kind : String) (l : List String) (prev : Option String)
    (hs : l.Pairwise (· ≤ ·)) (hb : ∀ p ∈ prev, ∀ w ∈ l, p ≤ w) :
    ∃ repeated : List String, repeated.Pairwise (· < ·) ∧
      (∀ z, z ∈ repeated ↔ 2 ≤ l.count z ∧ prev ≠ some z) ∧
      walk kind l prev = repeated.map fun z => "duplicate " ++ kind ++ " " ++ q z := by
  induction l, prev using walk.induct with
  | case1 prev => exact ⟨[], .nil, fun z => by simp, by rw [walk, List.map_nil]⟩
  | case2 x prev y tail h ih =>
    -- `x` starts a run of at least two: it is reported here, and the rest by the walk on
    obtain ⟨rfl, hprev⟩ : x = y ∧ prev ≠ some x := by simpa using h
    obtain ⟨hx, hs'⟩ := List.pairwise_cons.mp hs
    obtain ⟨repeated, hsorted, hmem, hwalk⟩ := ih hs' (fun _ hp => Option.mem_some_iff.mp hp ▸ hx)
    have hlt : ∀ z ∈ repeated, x < z := by
      intro z hz
      obtain ⟨hcount, hne⟩ := (hmem z).mp hz
      exact lt_of_le_of_ne (hx z (List.count_pos_iff.mp (by omega))) (fun h => hne (h ▸ rfl))
    refine ⟨x :: repeated, List.pairwise_cons.mpr ⟨hlt, hsorted⟩, fun z => ?_, ?_⟩
    · by_cases hz : z = x
      · subst hz
        simp [hprev]
      · rw [List.mem_cons, or_iff_right hz, hmem, repeated_iff_of_ne hb hx hz]
    · rw [walk, if_pos h, hwalk, List.map_cons]
  | case3 x prev y tail h ih =>
    -- `x` is alone, or its run was reported before the list: the walk moves on
    obtain ⟨hx, hs'⟩ := List.pairwise_cons.mp hs
    obtain ⟨repeated, hsorted, hmem, hwalk⟩ := ih hs' (fun _ hp => Option.mem_some_iff.mp hp ▸ hx)
    refine ⟨repeated, hsorted, fun z => ?_, by rw [walk, if_neg h, hwalk]⟩
    by_cases hz : z = x
    · subst hz
      have hnot : ¬(2 ≤ (z :: y :: tail).count z ∧ prev ≠ some z) := by
        rintro ⟨hcount, hprev⟩
        by_cases hzy : z = y
        · exact h (by simpa [hzy] using hprev)
        · have hfresh := List.count_eq_zero.mpr (not_mem_of_lt_head hs' (hx y List.mem_cons_self) hzy)
          rw [List.count_cons_self, hfresh] at hcount
          omega
      simpa [hmem] using hnot
    · rw [hmem, repeated_iff_of_ne hb hx hz]
  | case4 x prev =>
    refine ⟨[], .nil, fun z => ?_, by rw [walk, List.map_nil]⟩
    have hone : [x].count z ≤ 1 := List.count_le_length
    simp only [List.not_mem_nil, false_iff, not_and]
    omega

end duplicates

/-- Each name given at least twice is reported exactly once, the names in increasing order, and
no name given once is reported, whatever the multiplicities. -/
theorem duplicates_reports_each_repeated_name (kind : String) (names : List String) :
    ∃ repeated : List String, repeated.Pairwise (· < ·) ∧
      (∀ x, x ∈ repeated ↔ 2 ≤ names.count x) ∧
      duplicates kind names = repeated.map fun x => "duplicate " ++ kind ++ " " ++ q x := by
  -- the walk starts with no name before the sorted list, so no run is left out
  obtain ⟨repeated, hsorted, hmem, hwalk⟩ :=
    duplicates.walk_reports kind _ none (List.pairwise_mergeSort' (· ≤ ·) names) (by simp)
  have hcount := (List.mergeSort_perm names (fun a b => decide (a ≤ b))).count_eq
  exact ⟨repeated, hsorted, fun x => by simp [hmem, hcount], hwalk⟩

/-- Names given once each are reported by nothing. -/
theorem duplicates_eq_nil_of_nodup (kind : String) {names : List String} (h : names.Nodup) :
    duplicates kind names = [] := by
  obtain ⟨repeated, -, hmem, hwalk⟩ :=
    duplicates.walk_reports kind _ none (List.pairwise_mergeSort' (· ≤ ·) names) (by simp)
  have hcount := (List.mergeSort_perm names (fun a b => decide (a ≤ b))).count_eq
  have hnil : repeated = [] := List.eq_nil_iff_forall_not_mem.mpr fun x hx => by
    have htwice := ((hmem x).mp hx).1
    rw [hcount] at htwice
    have honce := List.nodup_iff_count_le_one.mp h x
    omega
  rw [duplicates, hwalk, hnil, List.map_nil]

theorem Description.validate_eq_ok_iff {d : Description} : d.validate = .ok () ↔ d.problems = [] := by
  unfold Description.validate
  split <;> simp_all

end WdmNet

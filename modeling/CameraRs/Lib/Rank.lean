/-
Percentiles by nearest rank, and the window of the latest entries.

The percentile is the smallest sample that enough of the samples do not exceed. In a sorted
list it stands at the rank that is rounded up. Nothing here mentions a program.
-/

import Mathlib.Data.List.DropRight
import Mathlib.Order.Lattice

namespace CameraRs.Lib

universe u

variable {α : Type u}

/-- One more entry, and without the oldest if there are `size` already. -/
def pushRecent (size : Nat) (window : List α) (entry : α) : List α :=
  (if window.length = size then window.tail else window) ++ [entry]

theorem length_rtake (size : Nat) (log : List α) :
    (log.rtake size).length = min log.length size := by
  rw [List.rtake, List.length_drop]
  omega

theorem pushRecent_rtake {size : Nat} (positive : 0 < size) (log : List α) (entry : α) :
    pushRecent size (log.rtake size) entry = (log ++ [entry]).rtake size := by
  have count := length_rtake size log
  have later : (log ++ [entry]).rtake size = log.drop (log.length + 1 - size) ++ [entry] := by
    rw [List.rtake, List.length_append, List.length_singleton,
      List.drop_append_of_le_length (by omega)]
  rw [later, pushRecent]
  congr 1
  by_cases full : (log.rtake size).length = size
  · rw [if_pos full, List.rtake, List.tail_drop]
    congr 1
    omega
  · rw [if_neg full, List.rtake]
    congr 1
    omega

section Percentiles

variable [LinearOrder α] {samples sorted : List α} {percent larger k : Nat} {v w : α}

structure Percentile (percent : Nat) (samples : List α) (v : α) : Prop where
  member : v ∈ samples
  enough : percent * samples.length ≤ 100 * samples.countP (· ≤ v)
  least : ∀ w ∈ samples, percent * samples.length ≤ 100 * samples.countP (· ≤ w) → v ≤ w

theorem Percentile.mono (first : Percentile percent samples v)
    (second : Percentile larger samples w) (above : percent ≤ larger) : v ≤ w :=
  first.least w second.member
    (Nat.le_trans (Nat.mul_le_mul_right samples.length above) second.enough)

theorem Percentile.of_perm (found : Percentile percent sorted v) (same : sorted.Perm samples) :
    Percentile percent samples v where
  member := same.mem_iff.mp found.member
  enough := by
    rw [← same.length_eq, ← same.countP_eq]
    exact found.enough
  least := by
    intro w there
    rw [← same.length_eq, ← same.countP_eq]
    exact found.least w (same.mem_iff.mpr there)

private theorem rank_lt_countP (ordered : sorted.Pairwise (· ≤ ·)) (inside : k < sorted.length) :
    k < sorted.countP (· ≤ sorted[k]) := by
  have below : ∀ x ∈ sorted.take (k + 1), decide (x ≤ sorted[k]) = true := by
    intro x there
    obtain ⟨j, within, rfl⟩ := List.mem_take_iff_getElem.mp there
    rw [decide_eq_true_iff]
    rcases Nat.lt_or_eq_of_le (Nat.le_of_lt_succ (Nat.lt_of_lt_of_le within (Nat.min_le_left _ _)))
      with before | rfl
    · exact List.pairwise_iff_getElem.mp ordered j k _ inside before
    · exact le_rfl
  have front : (sorted.take (k + 1)).countP (· ≤ sorted[k]) = k + 1 := by
    rw [List.countP_eq_length.mpr below, List.length_take, Nat.min_eq_left inside]
  have whole := (List.take_sublist (k + 1) sorted).countP_le (p := (· ≤ sorted[k]))
  omega

private theorem countP_le_rank (ordered : sorted.Pairwise (· ≤ ·)) (inside : k < sorted.length)
    (smaller : w < sorted[k]) : sorted.countP (· ≤ w) ≤ k := by
  have beyond : ∀ x ∈ sorted.drop k, ¬ decide (x ≤ w) = true := by
    intro x there
    obtain ⟨j, within, rfl⟩ := List.mem_drop_iff_getElem.mp there
    rw [decide_eq_true_iff, not_le]
    rcases Nat.eq_zero_or_pos j with rfl | later
    · exact smaller
    · exact lt_of_lt_of_le smaller
        (List.pairwise_iff_getElem.mp ordered k (k + j) inside _ (by omega))
  rw [← List.take_append_drop k sorted, List.countP_append, List.countP_eq_zero.mpr beyond]
  exact List.countP_le_length.trans (List.length_take_le k sorted)

/-- The rank of a percentile, from 0: `div_ceil(100)`, then `saturating_sub(1)`. -/
def nearestRank (percent count : Nat) : Nat := (count * percent + 99) / 100 - 1

theorem nearestRank_bounds {count : Nat} (nonempty : 0 < count) (positive : 0 < percent)
    (whole : percent ≤ 100) : nearestRank percent count < count ∧
      100 * nearestRank percent count < percent * count ∧
      percent * count ≤ 100 * (nearestRank percent count + 1) := by
  have some_part : 0 < count * percent := Nat.mul_pos nonempty positive
  have part : count * percent ≤ count * 100 := Nat.mul_le_mul_left count whole
  rw [Nat.mul_comm percent count, nearestRank]
  omega

private theorem percentile_nearestRank (ordered : sorted.Pairwise (· ≤ ·)) (positive : 0 < percent)
    (whole : percent ≤ 100) (found : sorted[nearestRank percent sorted.length]? = some v) :
    Percentile percent sorted v := by
  obtain ⟨inside, rfl⟩ := List.getElem?_eq_some_iff.mp found
  obtain ⟨_, below, above⟩ :=
    nearestRank_bounds (Nat.zero_lt_of_lt inside) positive whole
  have reached := rank_lt_countP ordered inside
  refine ⟨List.getElem_mem inside, by omega, ?_⟩
  intro w there enough
  by_contra smaller
  have few := countP_le_rank ordered inside (not_le.mp smaller)
  omega

theorem percentile_exists (ordered : sorted.Pairwise (· ≤ ·)) (nonempty : sorted ≠ [])
    (positive : 0 < percent) (whole : percent ≤ 100) :
    ∃ v, sorted[nearestRank percent sorted.length]? = some v ∧ Percentile percent sorted v := by
  have inside := (nearestRank_bounds (List.length_pos_iff.mpr nonempty) positive whole).1
  have found := List.getElem?_eq_getElem inside
  exact ⟨_, found, percentile_nearestRank ordered positive whole found⟩

end Percentiles

end CameraRs.Lib

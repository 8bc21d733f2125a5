/-
Bursts in a history.

Some items of a history end a burst and some count towards it. A burst is the number of
counted items between two ends, so the history has one burst more than ends. The rules say
what one more item does. Nothing here mentions a program.
-/

import Mathlib.Data.List.DropRight

namespace CameraRs.Lib

universe u

variable {α : Type u} (ends counts : α → Bool)

/-- The bursts of a history, the one in progress last. -/
def bursts (items : List α) : List Nat := (items.splitOnP ends).map (·.countP counts)

def burst (items : List α) : Nat := (items.rtakeWhile (!ends ·)).countP counts

def largestBurst (items : List α) : Nat := (bursts ends counts items).foldl max 0

def burstsReaching (n : Nat) (items : List α) : Nat :=
  (bursts ends counts items).countP fun length => decide (n ≤ length)

variable {ends counts} {items : List α} {item : α}

private theorem split_current (items : List α) : ∃ earlier : List (List α), ∀ later : List α,
    (∀ x ∈ later, ends x = false) →
    (items ++ later).splitOnP ends = earlier ++ [items.rtakeWhile (!ends ·) ++ later] := by
  induction items using List.reverseRecOn with
  | nil => exact ⟨[], fun later none => List.splitOnP_eq_singleton none⟩
  | append_singleton items x ih =>
      cases ending : ends x with
      | true =>
          refine ⟨items.splitOnP ends, fun later none => ?_⟩
          rw [List.append_assoc, List.singleton_append, List.splitOnP_append_cons _ _ ending,
            List.splitOnP_eq_singleton none, List.rtakeWhile_concat_neg _ _ _ (by simp [ending]),
            List.nil_append]
      | false =>
          obtain ⟨earlier, same⟩ := ih
          refine ⟨earlier, fun later none => ?_⟩
          rw [List.append_assoc, List.singleton_append, same (x :: later) (by simpa [ending]),
            List.rtakeWhile_concat_pos _ _ _ (by simp [ending]), List.append_assoc,
            List.singleton_append]

theorem bursts_current (items : List α) : ∃ earlier : List Nat,
    bursts ends counts items = earlier ++ [burst ends counts items] ∧
    ∀ item, ends item = false → bursts ends counts (items ++ [item]) =
      earlier ++ [burst ends counts items + if counts item then 1 else 0] := by
  obtain ⟨earlier, same⟩ := @split_current α ends items
  refine ⟨earlier.map (·.countP counts), ?_, fun item inside => ?_⟩
  · have whole := same [] (by simp)
    rw [List.append_nil, List.append_nil] at whole
    rw [bursts, whole, List.map_append, List.map_singleton, burst]
  · rw [bursts, same [item] (by simpa using inside), List.map_append, List.map_singleton,
      List.countP_append, List.countP_singleton, burst]

@[simp] theorem burst_nil : burst ends counts [] = 0 := rfl

@[simp] theorem largestBurst_nil : largestBurst ends counts [] = 0 := rfl

theorem burst_end (ending : ends item = true) : burst ends counts (items ++ [item]) = 0 := by
  rw [burst, List.rtakeWhile_concat_neg _ _ _ (by simp [ending])]
  rfl

theorem burst_inside (inside : ends item = false) : burst ends counts (items ++ [item]) =
    burst ends counts items + if counts item then 1 else 0 := by
  rw [burst, List.rtakeWhile_concat_pos _ _ _ (by simp [inside]), List.countP_append,
    List.countP_singleton, burst]

theorem bursts_end (ending : ends item = true) :
    bursts ends counts (items ++ [item]) = bursts ends counts items ++ [0] := by
  rw [bursts, List.splitOnP_append_cons _ _ ending, List.map_append]
  rfl

theorem largestBurst_end (ending : ends item = true) :
    largestBurst ends counts (items ++ [item]) = largestBurst ends counts items := by
  rw [largestBurst, bursts_end ending, List.foldl_concat]
  exact Nat.max_zero _

theorem largestBurst_inside (inside : ends item = false) :
    largestBurst ends counts (items ++ [item]) =
      max (largestBurst ends counts items) (burst ends counts (items ++ [item])) := by
  obtain ⟨earlier, now, next⟩ := @bursts_current α ends counts items
  rw [burst_inside inside, largestBurst, largestBurst, next item inside, now, List.foldl_concat,
    List.foldl_concat, Nat.max_assoc, Nat.max_eq_right (Nat.le_add_right _ _)]

theorem burst_le_largest (items : List α) :
    burst ends counts items ≤ largestBurst ends counts items := by
  obtain ⟨earlier, now, _⟩ := @bursts_current α ends counts items
  rw [largestBurst, now, List.foldl_concat]
  exact Nat.le_max_right _ _

theorem burstsReaching_end {n : Nat} (positive : 0 < n) (ending : ends item = true) :
    burstsReaching ends counts n (items ++ [item]) = burstsReaching ends counts n items := by
  rw [burstsReaching, bursts_end ending, List.countP_append, List.countP_singleton,
    decide_eq_false (by omega), if_neg Bool.false_ne_true]
  rfl

theorem burstsReaching_counted {n : Nat} (inside : ends item = false)
    (counted : counts item = true) : burstsReaching ends counts n (items ++ [item]) =
      burstsReaching ends counts n items +
        if burst ends counts items + 1 = n then 1 else 0 := by
  obtain ⟨earlier, now, next⟩ := @bursts_current α ends counts items
  rw [burstsReaching, burstsReaching, next item inside, now, if_pos counted, List.countP_append,
    List.countP_append, List.countP_singleton, List.countP_singleton]
  simp only [decide_eq_true_eq]
  split <;> split <;> split <;> omega

theorem burstsReaching_other {n : Nat} (inside : ends item = false)
    (other : counts item = false) : burstsReaching ends counts n (items ++ [item]) =
      burstsReaching ends counts n items := by
  obtain ⟨earlier, now, next⟩ := @bursts_current α ends counts items
  rw [burstsReaching, burstsReaching, next item inside, now, if_neg (by simp [other]),
    Nat.add_zero]

end CameraRs.Lib

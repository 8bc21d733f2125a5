/-
Searches that remember the best item so far.

A search starts without an item and with a score that every item exceeds. An item replaces the
one before it if its score is strictly better, so the search ends with the first of the best
items. Nothing here mentions a program.
-/

import Mathlib.Data.List.MinMax

namespace CameraRs.Lib

universe u v

/-- The best item so far and its score, or the score to exceed. -/
structure Best (α : Type u) (β : Type v) where
  item : Option α := none
  score : β

namespace Best

variable {α : Type u} {β : Type v} [LinearOrder β] {key : α → β} {bottom : β} {items : List α}

def offer (best : Best α β) (item : α) (score : β) : Best α β :=
  if best.score < score then { item := some item, score := score } else best

def largest (key : α → β) (items : List α) : Option α := items.argmax key

def smallest (key : α → β) (items : List α) : Option α := items.argmin key

@[simp] theorem largest_nil : largest key [] = none := rfl

@[simp] theorem largest_eq_none : largest key items = none ↔ items = [] := List.argmax_eq_none

@[simp] theorem smallest_eq_none : smallest key items = none ↔ items = [] := List.argmin_eq_none

theorem smallest_mem {item : α} (chosen : smallest key items = some item) : item ∈ items :=
  List.argmin_mem chosen

theorem smallest_le {item other : α} (chosen : smallest key items = some item)
    (there : other ∈ items) : key item ≤ key other :=
  List.le_of_mem_argmin there chosen

theorem largest_or (nonempty : items ≠ []) (other : Option α) :
    (largest key items).or other = largest key items := by
  cases chosen : largest key items with
  | none => exact absurd (largest_eq_none.mp chosen) nonempty
  | some item => rfl

theorem smallest_eq_largest (key : α → β) (items : List α) :
    smallest key items = largest (fun item => OrderDual.toDual (key item)) items := rfl

theorem largest_of_reversed {γ : Type v} [LinearOrder γ] {reversed : α → γ}
    (reverses : ∀ a b, reversed a < reversed b ↔ key b < key a) (items : List α) :
    largest reversed items = smallest key items := by
  induction items using List.reverseRecOn with
  | nil => rfl
  | append_singleton items item ih =>
      unfold largest smallest at ih ⊢
      rw [List.argmax_concat, List.argmin_concat, ih]
      cases items.argmin key with
      | none => rfl
      | some before => simp only [reverses]

/-- What a search for the largest key has found so far. -/
def found (key : α → β) (bottom : β) (items : List α) : Best α β :=
  match largest key items with
  | none => { score := bottom }
  | some item => { item := some item, score := key item }

theorem found_item : (found key bottom items).item = largest key items := by
  unfold found
  split
  · next nothing => exact nothing.symm
  · next item first => exact first.symm

private theorem found_snoc {item : α} (above : bottom < key item) :
    (found key bottom items).offer item (key item) = found key bottom (items ++ [item]) := by
  unfold found largest
  rw [List.argmax_concat]
  cases items.argmax key with
  | none => exact if_pos above
  | some before =>
      simp only [offer]
      split
      · rfl
      · rfl

theorem foldl_offer (above : ∀ item ∈ items, bottom < key item) :
    items.foldl (fun best item => best.offer item (key item)) { score := bottom } =
      found key bottom items := by
  induction items using List.reverseRecOn with
  | nil => rfl
  | append_singleton items item ih =>
      rw [List.foldl_append, ih fun other inside => above other (List.mem_append_left _ inside)]
      exact found_snoc (above item (List.mem_append_right _ (List.mem_singleton_self _)))

end Best

end CameraRs.Lib

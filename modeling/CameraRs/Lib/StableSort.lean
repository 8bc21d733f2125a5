/-
Sorting that keeps the order of equal items, and removal of repeats that stand side by side.
A list sorted by a coarse key still holds an item twice when one with the same key came between.
-/

import Mathlib.Data.List.Destutter
import Mathlib.Data.List.Nodup
import Mathlib.Data.List.Sort

namespace CameraRs.Lib.StableSort

variable {α : Type}

section Order

variable {r : α → α → Prop} [DecidableRel r] {p : α → Bool}

private theorem filter_orderedInsert (tied : ∀ a b, p a = true → p b = true → r a b) (item : α)
    (items : List α) : (items.orderedInsert r item).filter p = (item :: items).filter p := by
  induction items with
  | nil => rfl
  | cons head tail ih =>
      rw [List.orderedInsert_cons]
      split
      · rfl
      · next beyond =>
        cases chosen : p item with
        | false =>
            have rest : (tail.orderedInsert r item).filter p = tail.filter p := by
              simpa [List.filter_cons, chosen] using ih
            simp [List.filter_cons, chosen, rest]
        | true =>
            -- an item of the same class would have gone in front of `head`
            have other : p head = false := by
              by_contra same
              exact beyond (tied item head chosen (eq_true_of_ne_false same))
            simpa [List.filter_cons, chosen, other] using ih

theorem filter_insertionSort (tied : ∀ a b, p a = true → p b = true → r a b)
    (items : List α) : (items.insertionSort r).filter p = items.filter p := by
  induction items with
  | nil => rfl
  | cons head tail ih =>
      rw [List.insertionSort_cons, filter_orderedInsert tied, List.filter_cons, List.filter_cons, ih]

end Order

section Destutter

variable [DecidableEq α]

private theorem mem_destutter'_ne {item head : α} {tail : List α} :
    item ∈ tail.destutter' (· ≠ ·) head ↔ item ∈ head :: tail := by
  induction tail generalizing head with
  | nil => simp
  | cons next rest ih =>
      rw [List.destutter'_cons]
      split
      · rw [List.mem_cons, ih, List.mem_cons (a := item) (b := head)]
      · next same =>
        obtain rfl : head = next := not_not.mp same
        rw [ih]
        simp

@[simp] theorem mem_destutter_ne {item : α} {items : List α} :
    item ∈ items.destutter (· ≠ ·) ↔ item ∈ items := by
  cases items with
  | nil => rfl
  | cons head tail => exact mem_destutter'_ne

private theorem nodup_destutter'_ne_iff {head : α} {tail : List α} :
    (tail.destutter' (· ≠ ·) head).Nodup ↔
      ∀ a b, [a, b, a].Sublist (head :: tail) → a = b := by
  induction tail generalizing head with
  | nil => simp
  | cons next rest ih =>
      rw [List.destutter'_cons]
      split
      · next differ =>
        rw [List.nodup_cons, mem_destutter'_ne, ih]
        constructor
        · rintro ⟨fresh, clean⟩ a b inside
          rcases List.sublist_cons_iff.mp inside with later | ⟨tail, same, later⟩
          · exact clean a b later
          · obtain ⟨rfl, rfl⟩ := List.cons.inj same
            exact absurd (later.subset (by simp)) fresh
        · intro clean
          constructor
          · intro again
            have beyond : head ∈ rest := (List.mem_cons.mp again).resolve_left differ
            exact differ (clean head next
              (((List.singleton_sublist.mpr beyond).cons_cons next).cons_cons head))
          · exact fun a b inside => clean a b (inside.cons head)
      · next same =>
        obtain rfl : head = next := not_not.mp same
        rw [ih]
        constructor
        · intro clean a b inside
          rcases List.sublist_cons_iff.mp inside with later | ⟨tail, same, later⟩
          · exact clean a b later
          · obtain ⟨rfl, rfl⟩ := List.cons.inj same
            rcases List.sublist_cons_iff.mp later with beyond | ⟨tail, same, -⟩
            · exact clean a b (beyond.cons_cons a)
            · exact (List.cons.inj same).1.symm
        · exact fun clean a b inside => clean a b (inside.cons head)

theorem nodup_destutter_ne_iff {items : List α} :
    (items.destutter (· ≠ ·)).Nodup ↔ ∀ a b, [a, b, a].Sublist items → a = b := by
  cases items with
  | nil => simp
  | cons head tail => exact nodup_destutter'_ne_iff

end Destutter

end CameraRs.Lib.StableSort

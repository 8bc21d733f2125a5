/-
Prefixes that end in a given marker, and the search for the last place of one.

A list contains a marker exactly when some prefix of it ends in the marker. Of those
prefixes the longest is unique, and it is its own longest one. Nothing here mentions a program.
-/

import CameraRs.Lib.Fill

namespace CameraRs.Lib

variable {α : Type}

structure LongestPrefix (P : List α → Prop) (items chosen : List α) : Prop where
  isPrefix : chosen <+: items
  holds : P chosen
  longest : ∀ other, other <+: items → P other → other <+: chosen

namespace LongestPrefix

variable {P : List α → Prop} {items chosen other : List α}

theorem whole (holds : P items) : LongestPrefix P items items where
  isPrefix := List.prefix_rfl
  holds := holds
  longest _ inside _ := inside

theorem again (longest : LongestPrefix P items chosen) : LongestPrefix P chosen chosen :=
  whole longest.holds

theorem unique (first : LongestPrefix P items chosen) (second : LongestPrefix P items other) :
    chosen = other :=
  (second.longest chosen first.isPrefix first.holds).eq_of_length_le
    (first.longest other second.isPrefix second.holds).length_le

theorem of_last {k : Nat} (holds : P (items.take k))
    (last : ∀ j, k < j → j ≤ items.length → ¬ P (items.take j)) :
    LongestPrefix P items (items.take k) where
  isPrefix := List.take_prefix k items
  holds := holds
  longest := by
    intro other inside found
    rw [List.prefix_take_iff]
    refine ⟨inside, Nat.le_of_not_lt fun beyond => ?_⟩
    have same : other = items.take other.length := List.prefix_iff_eq_take.mp inside
    rw [same] at found
    exact last other.length beyond inside.length_le found

end LongestPrefix

theorem find?_reverse_range (n : Nat) (p : Nat → Bool) :
    match (List.range n).reverse.find? p with
    | some k => k < n ∧ p k = true ∧ ∀ j, k < j → j < n → p j = false
    | none => ∀ j, j < n → p j = false := by
  induction n with
  | zero =>
      intro j inside
      exact absurd inside (Nat.not_lt_zero j)
  | succ n ih =>
      rw [List.range_succ, List.reverse_append, List.reverse_singleton, List.singleton_append,
        List.find?_cons]
      cases here : p n with
      | true =>
          refine ⟨Nat.lt_succ_self n, here, ?_⟩
          intro j beyond inside
          omega
      | false =>
          have extend (j : Nat) (inside : j < n + 1) (rest : j < n → p j = false) :
              p j = false := by
            rcases Nat.lt_succ_iff_lt_or_eq.mp inside with before | rfl
            · exact rest before
            · exact here
          cases found : (List.range n).reverse.find? p with
          | some k =>
              rw [found] at ih
              obtain ⟨inside, holds, last⟩ := ih
              refine ⟨Nat.lt_succ_of_lt inside, holds, ?_⟩
              intro j beyond within
              exact extend j within (last j beyond)
          | none =>
              rw [found] at ih
              intro j within
              exact extend j within (ih j)

theorem slice_eq_iff_suffix {items marker : List α} {k : Nat}
    (within : k + marker.length ≤ items.length) :
    slice items k (k + marker.length) = marker ↔ marker <:+ items.take (k + marker.length) := by
  have start : (items.take (k + marker.length)).length - marker.length = k := by
    rw [List.length_take, Nat.min_eq_left within]
    omega
  rw [List.suffix_iff_eq_drop, start, List.drop_take, slice]
  exact eq_comm

end CameraRs.Lib

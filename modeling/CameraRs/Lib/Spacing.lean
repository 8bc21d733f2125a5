/-
Times that keep a distance from each other.

An item may come early by a slack, but the earliness does not add up: `k` places
further on at least `k - 1` whole intervals have passed. A window then holds about as
many items as intervals fit into it.
-/

import Mathlib.Data.Nat.SuccPred
import Mathlib.Data.List.Chain
import Mathlib.Data.List.NodupEquivFin

namespace CameraRs.Lib

/-- The `k`-th of the later times is at least `k` intervals behind the mark. -/
def Follows (interval slack mark : Nat) (later : List Nat) : Prop :=
  ∀ k t, later[k]? = some t → mark + k * interval ≤ t + slack

def Spaced (interval slack : Nat) : List Nat → Prop
  | [] => True
  | first :: rest => Follows interval slack first rest ∧ Spaced interval slack rest

variable {interval slack mark : Nat} {times some_times : List Nat}

theorem Follows.earlier {before : Nat} (follows : Follows interval slack mark times)
    (ahead : before ≤ mark) : Follows interval slack before times := by
  intro k t at_k
  exact (Nat.add_le_add_right ahead _).trans (follows k t at_k)

theorem Follows.cons {first : Nat} (near : mark ≤ first + slack)
    (follows : Follows interval slack (mark + interval) times) :
    Follows interval slack mark (first :: times) := by
  intro k t at_k
  cases k with
  | zero =>
      cases at_k
      rwa [Nat.zero_mul, Nat.add_zero]
  | succ k =>
      have later := follows k t at_k
      rw [Nat.succ_mul]
      omega

theorem Follows.sublist (follows : Follows interval slack mark times)
    (kept : some_times.Sublist times) : Follows interval slack mark some_times := by
  obtain ⟨place, same⟩ := List.sublist_iff_exists_orderEmbedding_getElem?_eq.mp kept
  intro k t at_k
  have further : k ≤ place k := place.strictMono.le_apply
  have ahead := follows (place k) t (by rw [← same, at_k])
  exact (Nat.add_le_add_left (Nat.mul_le_mul_right interval further) mark).trans ahead

theorem Spaced.sublist (spaced : Spaced interval slack times)
    (kept : some_times.Sublist times) : Spaced interval slack some_times := by
  induction kept with
  | slnil => trivial
  | cons first _ ih => exact ih spaced.2
  | cons_cons first rest ih => exact ⟨spaced.1.sublist rest, ih spaced.2⟩

theorem Spaced.length_le (spaced : Spaced interval slack times) (positive : 0 < interval)
    {start width : Nat} (inside : ∀ t ∈ times, start ≤ t ∧ t ≤ start + width) :
    times.length ≤ (width + slack) / interval + 2 := by
  cases times with
  | nil => exact Nat.zero_le _
  | cons first rest =>
      cases last : rest.getLast? with
      | none =>
          rw [List.getLast?_eq_none_iff.mp last]
          exact Nat.le_add_left _ _
      | some t =>
          have nonempty : rest ≠ [] := by
            intro empty
            rw [empty] at last
            contradiction
          have some_rest := List.length_pos_of_ne_nil nonempty
          have at_last : rest[rest.length - 1]? = some t := by
            rw [← List.getLast?_eq_getElem?, last]
          have far := spaced.1 _ t at_last
          have firstInside := inside first List.mem_cons_self
          have lastInside := inside t (List.mem_cons_of_mem _ (List.mem_of_getLast? last))
          have many : (rest.length - 1) * interval ≤ width + slack := by omega
          have bound := (Nat.le_div_iff_mul_le positive).mpr many
          rw [List.length_cons]
          omega

/-! ### Whole intervals -/

/-- Each time is at least a whole interval behind the one before it. -/
def Apart (interval : Nat) (times : List Nat) : Prop :=
  times.IsChain fun earlier later => earlier + interval ≤ later

theorem Apart.snoc (apart : Apart interval times) {last : Nat}
    (behind : ∀ t, times.getLast? = some t → t + interval ≤ last) :
    Apart interval (times ++ [last]) := by
  refine List.isChain_append.mpr ⟨apart, List.isChain_singleton last, ?_⟩
  intro t ending next first
  cases first
  exact behind t ending

theorem Apart.sublist (apart : Apart interval times) (kept : some_times.Sublist times) :
    Apart interval some_times := by
  let behind : Trans (fun earlier later : Nat => earlier + interval ≤ later)
      (fun earlier later => earlier + interval ≤ later)
      (fun earlier later => earlier + interval ≤ later) :=
    ⟨fun {earlier middle later} first second => by omega⟩
  exact (apart.pairwise.sublist kept).isChain

theorem Apart.reach {first : Nat} (apart : Apart interval (first :: times)) :
    ∃ t ∈ first :: times, first + times.length * interval ≤ t := by
  induction times generalizing first with
  | nil => exact ⟨first, List.mem_cons_self, by rw [List.length_nil, Nat.zero_mul]; exact le_rfl⟩
  | cons second rest ih =>
      obtain ⟨near, further⟩ := List.isChain_cons_cons.mp apart
      obtain ⟨t, member, far⟩ := ih further
      refine ⟨t, List.mem_cons_of_mem _ member, ?_⟩
      rw [List.length_cons, Nat.succ_mul]
      omega

theorem Apart.length_le (apart : Apart interval times) (positive : 0 < interval)
    {start width : Nat} (inside : ∀ t ∈ times, start ≤ t ∧ t ≤ start + width) :
    times.length ≤ width / interval + 1 := by
  cases times with
  | nil => exact Nat.zero_le _
  | cons first rest =>
      obtain ⟨t, member, far⟩ := apart.reach
      have early := (inside first List.mem_cons_self).1
      have late := (inside t member).2
      have many : rest.length * interval ≤ width := by omega
      exact Nat.succ_le_succ ((Nat.le_div_iff_mul_le positive).mpr many)

end CameraRs.Lib

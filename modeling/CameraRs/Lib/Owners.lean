/-
Objects that are handed out and given back by hand, and reference counts.

A heap knows what is alive; it remembers that an object was used or given back
when it was not. Whoever lists the owners of all objects, each object once,
knows that neither happened and that nothing leaks. What several owners share is
counted, and is over with its last owner.
-/

import Mathlib.Data.List.Dedup
import Mathlib.Data.List.Perm.Basic
import Mathlib.Data.List.Perm.Subperm

namespace CameraRs.Lib

universe u

/-- The objects that are alive; `fault` is the use or the release of another one, or a second
creation. -/
structure Heap (α : Type u) where
  live : List α := []
  fault : Bool := false

namespace Heap

variable {α : Type u}

section

variable [DecidableEq α]

def alloc (h : Heap α) (a : α) : Heap α :=
  { live := a :: h.live, fault := h.fault || h.live.contains a }

def use (h : Heap α) (a : α) : Heap α :=
  { h with fault := h.fault || !h.live.contains a }

def free (h : Heap α) (a : α) : Heap α :=
  { live := h.live.erase a, fault := h.fault || !h.live.contains a }

end

structure Owned (h : Heap α) (owners : List α) : Prop where
  same : h.live.Perm owners
  once : owners.Nodup
  safe : h.fault = false

namespace Owned

variable {h : Heap α} {a : α} {as bs : List α}

theorem empty : ({} : Heap α).Owned [] := ⟨.nil, .nil, rfl⟩

theorem mem (owned : h.Owned as) : a ∈ h.live ↔ a ∈ as := owned.same.mem_iff

theorem perm (owned : h.Owned as) (same : as.Perm bs) : h.Owned bs :=
  ⟨owned.same.trans same, same.nodup owned.once, owned.safe⟩

variable [DecidableEq α]

theorem alloc (owned : h.Owned as) (fresh : a ∉ as) : (h.alloc a).Owned (a :: as) := by
  refine ⟨owned.same.cons a, List.nodup_cons.mpr ⟨fresh, owned.once⟩, ?_⟩
  have absent : h.live.contains a = false := by
    rw [List.contains_eq_mem]
    exact decide_eq_false (mt owned.mem.mp fresh)
  rw [Heap.alloc, owned.safe, absent]
  rfl

theorem use (owned : h.Owned as) (held : a ∈ as) : (h.use a).Owned as := by
  refine ⟨owned.same, owned.once, ?_⟩
  have present : h.live.contains a = true := List.contains_iff_mem.mpr (owned.mem.mpr held)
  rw [Heap.use, owned.safe, present]
  rfl

theorem free (owned : h.Owned (a :: as)) : (h.free a).Owned as := by
  have held : a ∈ h.live := owned.mem.mpr List.mem_cons_self
  refine ⟨?_, owned.once.of_cons, ?_⟩
  · have erased := owned.same.erase a
    rwa [List.erase_cons_head] at erased
  · have present : h.live.contains a = true := List.contains_iff_mem.mpr held
    rw [Heap.free, owned.safe, present]
    rfl

end Owned

end Heap

/-! ### Shared objects -/

structure Shared (κ : Type u) where
  heap : Heap κ := {}
  count : κ → Nat := fun _ => 0

namespace Shared

variable {κ : Type u} [DecidableEq κ]

def create (s : Shared κ) (k : κ) : Shared κ :=
  { heap := s.heap.alloc k, count := fun j => if j = k then 1 else s.count j }

/-- A further owner, who has it from another one. -/
def retain (s : Shared κ) (k : κ) : Shared κ :=
  { heap := s.heap.use k, count := fun j => if j = k then s.count j + 1 else s.count j }

def use (s : Shared κ) (k : κ) : Shared κ := { s with heap := s.heap.use k }

/-- An owner less; the last one gives the object back. -/
def release (s : Shared κ) (k : κ) : Shared κ :=
  { heap := if s.count k = 1 then s.heap.free k else s.heap.use k
    count := fun j => if j = k then s.count j - 1 else s.count j }

structure Held (s : Shared κ) (owners : List κ) : Prop where
  owned : s.heap.Owned owners.dedup
  counts : ∀ k, s.count k = owners.count k

namespace Held

variable {s : Shared κ} {k : κ} {ks js : List κ}

theorem empty : ({} : Shared κ).Held [] := ⟨.empty, fun _ => rfl⟩

theorem mem (held : s.Held ks) : k ∈ s.heap.live ↔ k ∈ ks :=
  held.owned.mem.trans List.mem_dedup

theorem perm (held : s.Held ks) (same : ks.Perm js) : s.Held js :=
  ⟨held.owned.perm same.dedup, fun k => (held.counts k).trans (same.count_eq k)⟩

theorem create (held : s.Held ks) (fresh : k ∉ ks) : (s.create k).Held (k :: ks) := by
  refine ⟨?_, fun j => ?_⟩
  · rw [List.dedup_cons_of_notMem fresh]
    exact held.owned.alloc (mt List.mem_dedup.mp fresh)
  · change (if j = k then 1 else s.count j) = _
    by_cases same : j = k
    · subst same
      rw [if_pos rfl, List.count_cons_self, List.count_eq_zero_of_not_mem fresh]
    · rw [if_neg same, List.count_cons_of_ne (Ne.symm same), held.counts]

theorem retain (held : s.Held ks) (known : k ∈ ks) : (s.retain k).Held (k :: ks) := by
  refine ⟨?_, fun j => ?_⟩
  · rw [List.dedup_cons_of_mem known]
    exact held.owned.use (List.mem_dedup.mpr known)
  · change (if j = k then s.count j + 1 else s.count j) = _
    by_cases same : j = k
    · subst same
      rw [if_pos rfl, List.count_cons_self, held.counts]
    · rw [if_neg same, List.count_cons_of_ne (Ne.symm same), held.counts]

theorem use (held : s.Held ks) (known : k ∈ ks) : (s.use k).Held ks :=
  ⟨held.owned.use (List.mem_dedup.mpr known), held.counts⟩

theorem release (held : s.Held (k :: ks)) : (s.release k).Held ks := by
  have counted : s.count k = ks.count k + 1 := by rw [held.counts, List.count_cons_self]
  refine ⟨?_, fun j => ?_⟩
  · change (if s.count k = 1 then s.heap.free k else s.heap.use k).Owned _
    by_cases kept : k ∈ ks
    · have positive := List.count_pos_iff.mpr kept
      rw [if_neg (by omega)]
      have owned := held.owned
      rw [List.dedup_cons_of_mem kept] at owned
      exact owned.use (List.mem_dedup.mpr kept)
    · rw [if_pos (by rw [counted, List.count_eq_zero_of_not_mem kept])]
      have owned := held.owned
      rw [List.dedup_cons_of_notMem kept] at owned
      exact owned.free
  · change (if j = k then s.count j - 1 else s.count j) = _
    by_cases same : j = k
    · subst same
      rw [if_pos rfl, counted, Nat.add_sub_cancel]
    · rw [if_neg same, held.counts, List.count_cons_of_ne (Ne.symm same)]

end Held

end Shared

end CameraRs.Lib

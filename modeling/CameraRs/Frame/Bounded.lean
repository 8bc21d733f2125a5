/-
The bounded pool.

The slots never exceed the budget in number or in bytes, and a slot whose storage
is out on a lease is empty and belongs to that lease alone. The bytes recorded for
a slot bound the capacity of what it holds, so storage that is reused never
overshoots what the budget leaves for its slot.
-/

import CameraRs.Frame.Access
import Mathlib.Algebra.Order.BigOperators.Group.List
import Mathlib.Algebra.Order.Group.Nat

namespace CameraRs.Frame

/-! ### The heap under allocation and reuse -/

namespace Heap

/-- `later` differs from `earlier` in new allocations and in the bytes of `reused`. -/
structure Grows (earlier later : Heap) (reused : Option ArcId) : Prop where
  next : earlier.next ≤ later.next
  capacity : ∀ arc < earlier.next,
    (later.buffers arc).capacity = (earlier.buffers arc).capacity
  buffers : ∀ arc < earlier.next, reused ≠ some arc → later.buffers arc = earlier.buffers arc

theorem Grows.refl (heap : Heap) (reused : Option ArcId) : Grows heap heap reused :=
  ⟨Nat.le_refl _, fun _ _ => rfl, fun _ _ _ => rfl⟩

theorem grows_alloc (heap : Heap) (buffer : Buffer) (reused : Option ArcId) :
    Grows heap (heap.alloc buffer).1 reused where
  next := Nat.le_succ _
  capacity arc old := by
    simp only [alloc, Function.update_of_ne (Nat.ne_of_lt old)]
  buffers arc old _ := by
    simp only [alloc, Function.update_of_ne (Nat.ne_of_lt old)]

theorem grows_store (heap : Heap) (arc : ArcId) (bytes : List UInt8) :
    Grows heap (heap.store arc bytes) (some arc) where
  next := Nat.le_refl _
  capacity other _ := by
    by_cases same : other = arc
    · subst same
      simp [store]
    · simp [store, Function.update_of_ne same]
  buffers other _ different := by
    have ne : other ≠ arc := fun same => different (by rw [same])
    simp only [store, Function.update_of_ne ne]

end Heap

/-- The storage exists and, if it can be resized, its capacity is at most `bytes`. -/
def Storage.Fits (heap : Heap) (bytes : Nat) : Storage → Prop
  | .rgb arc _ _ => arc < heap.next
  | .bytes arc => arc < heap.next ∧ (heap.buffers arc).capacity ≤ bytes

theorem Storage.Fits.arc_lt {heap : Heap} {bytes : Nat} {data : Storage}
    (fits : data.Fits heap bytes) : data.arc < heap.next := by
  cases data with
  | rgb arc h w => exact fits
  | bytes arc => exact fits.1

theorem Storage.Fits.grows {earlier later : Heap} {reused : Option ArcId} {bytes : Nat}
    {data : Storage} (fits : data.Fits earlier bytes) (grows : earlier.Grows later reused) :
    data.Fits later bytes := by
  cases data with
  | rgb arc h w => exact Nat.lt_of_lt_of_le fits grows.next
  | bytes arc =>
      refine ⟨Nat.lt_of_lt_of_le fits.1 grows.next, ?_⟩
      rw [grows.capacity arc fits.1]
      exact fits.2

/-- What `refit` hands out: the storage it was given, or a new allocation. -/
structure Refitted (heap : Heap) (existing : Option Storage) (length : Nat)
    (after : Heap × Storage) : Prop where
  grows : heap.Grows after.1 (existing.map (·.arc))
  arc : existing.map (·.arc) = some after.2.arc ∨ heap.next ≤ after.2.arc
  inHeap : after.2.arc < after.1.next
  capacity : ∀ arc, after.2 = .bytes arc →
    (after.1.buffers arc).capacity = length ∨
    ∃ old, existing = some (.bytes old) ∧ length ≤ (heap.buffers old).capacity ∧
      (after.1.buffers arc).capacity = (heap.buffers old).capacity

namespace Heap

variable {heap : Heap} {existing : Option Storage} {layout : FrameLayout} {length : Nat}

theorem refitted_pixels : Refitted heap existing length (heap.pixels layout) where
  grows := grows_alloc heap _ _
  arc := .inr (Nat.le_refl _)
  inHeap := Nat.lt_succ_self _
  capacity _ same := by cases same

theorem refitted_zeros :
    Refitted heap existing length ((heap.zeros length).1, .bytes (heap.zeros length).2) where
  grows := grows_alloc heap _ _
  arc := .inr (Nat.le_refl _)
  inHeap := Nat.lt_succ_self _
  capacity arc same := by
    injection same with same
    subst same
    left
    simp [zeros, alloc]

theorem refitted (exist : ∀ data, existing = some data → data.arc < heap.next) (rgb : Bool) :
    Refitted heap existing length (heap.refit existing layout rgb length) := by
  unfold refit
  split
  · next arc h w =>
      split
      · exact ⟨.refl heap _, .inl rfl, exist _ rfl, fun _ same => by cases same⟩
      · exact refitted_pixels
  · next arc =>
      dsimp only
      split
      · exact refitted_zeros
      · next large =>
          refine ⟨grows_store heap arc _, .inl rfl, exist _ rfl, ?_⟩
          intro other same
          injection same with same
          subst same
          refine .inr ⟨arc, rfl, by omega, ?_⟩
          exact (grows_store heap arc _).capacity arc (exist _ rfl)
  · exact refitted_pixels
  · exact refitted_zeros

end Heap

/-! ### The pool section of `reserve` -/

namespace Pool

variable {pool : Pool} {heap : Heap}

theorem used_set {slots : List Slot} {index : Nat} {slot new : Slot}
    (found : slots[index]? = some slot) :
    ((slots.set index new).map (·.bytes)).sum + slot.bytes =
      (slots.map (·.bytes)).sum + new.bytes := by
  induction slots generalizing index with
  | nil => simp at found
  | cons head tail ih =>
      cases index with
      | zero =>
          have same : head = slot := by simpa using found
          subst same
          simp only [List.set_cons_zero, List.map_cons, List.sum_cons]
          omega
      | succ index =>
          have later := ih (by simpa using found)
          simp only [List.set_cons_succ, List.map_cons, List.sum_cons]
          omega

theorem bytes_le_used {slots : List Slot} {index : Nat} {slot : Slot}
    (found : slots[index]? = some slot) : slot.bytes ≤ (slots.map (·.bytes)).sum := by
  have emptied := @used_set _ _ _ ⟨none, 0⟩ found
  dsimp only at emptied
  omega

structure WithinBudget (pool : Pool) (heap : Heap) : Prop where
  buffers : pool.slots.length ≤ pool.budget.buffers
  bytes : pool.used ≤ pool.budget.bytes
  positive : ∀ slot ∈ pool.slots, 0 < slot.bytes
  fits : ∀ slot ∈ pool.slots, ∀ data, slot.data = some data → data.Fits heap slot.bytes

structure Chosen (pool : Pool) (unique : Storage → Bool) (after : Pool) (index : Nat)
    (slot : Slot) : Prop where
  budget : after.budget = pool.budget
  found : after.slots[index]? = some slot
  used : after.used = pool.used
  which : after.slots = pool.slots ∧ (∃ data, slot.data = some data ∧ unique data = true) ∨
    after.slots = pool.slots ++ [⟨none, 0⟩] ∧ index = pool.slots.length ∧ slot = ⟨none, 0⟩ ∧
      pool.slots.length < pool.budget.buffers

theorem choose_chosen {unique : Storage → Bool} {after : Pool} {index : Nat}
    (chosen : pool.choose unique = some (after, index)) :
    ∃ slot, Chosen pool unique after index slot := by
  unfold choose at chosen
  split at chosen
  · next position =>
      obtain ⟨rfl, rfl⟩ := Prod.mk.inj (Option.some.inj chosen)
      obtain ⟨inside, reusable, _⟩ := List.findIdx?_eq_some_iff_getElem.mp position
      obtain ⟨data, holds, unique⟩ := (Option.any_eq_true _ _).mp reusable
      exact ⟨_, rfl, List.getElem?_eq_getElem inside, rfl, .inl ⟨rfl, data, holds, unique⟩⟩
  · split at chosen
    · next room =>
        obtain ⟨rfl, rfl⟩ := Prod.mk.inj (Option.some.inj chosen)
        exact ⟨⟨none, 0⟩, rfl, by simp, by simp [used], .inr ⟨rfl, rfl, rfl, room⟩⟩
    · contradiction

/-- What the pool section of `reserve` leaves: the slots as they were, or one of them
emptied for a lease whose storage fits in what the budget leaves. -/
inductive Reserved (pool : Pool) (heap : Heap) (unique : Storage → Bool)
    (layout : FrameLayout) (rgb : Bool) (length : Nat) : Pool × Heap × Option Lease → Prop
  | refused {after : Pool} (slots : after.slots = pool.slots)
      (budget : after.budget = pool.budget) : Reserved pool heap unique layout rgb length
        (after, heap, none)
  | granted {middle after : Pool} {index allocated : Nat} {slot : Slot}
      (chosen : Chosen pool unique middle index slot)
      (slots : after.slots = middle.slots.set index ⟨none, allocated⟩)
      (budget : after.budget = pool.budget)
      (room : allocated ≤ pool.budget.bytes - (pool.used - slot.bytes))
      (large : length ≤ allocated)
      (fits : (heap.refit slot.data layout rgb length).2.Fits
        (heap.refit slot.data layout rgb length).1 allocated) :
      Reserved pool heap unique layout rgb length
        (after, (heap.refit slot.data layout rgb length).1,
          some ⟨index, (heap.refit slot.data layout rgb length).2⟩)

theorem Chosen.within (within : pool.WithinBudget heap) {unique : Storage → Bool}
    {after : Pool} {index : Nat} {slot : Slot} (chosen : Chosen pool unique after index slot) :
    ∀ data, slot.data = some data → slot ∈ pool.slots ∧ data.Fits heap slot.bytes := by
  intro data holds
  rcases chosen.which with ⟨same, _⟩ | ⟨_, _, rfl, _⟩
  · have member : slot ∈ pool.slots := by
      rw [← same]
      exact List.mem_of_getElem? chosen.found
    exact ⟨member, within.fits slot member data holds⟩
  · contradiction

theorem Chosen.allocated (within : pool.WithinBudget heap) {unique : Storage → Bool}
    {after : Pool} {index length : Nat} {slot : Slot} {layout : FrameLayout} {rgb : Bool}
    (chosen : Chosen pool unique after index slot)
    (room : length ≤ pool.budget.bytes - (pool.used - slot.bytes)) :
    let result := heap.refit slot.data layout rgb length
    length ≤ result.1.allocated result.2 length ∧
      result.1.allocated result.2 length ≤ pool.budget.bytes - (pool.used - slot.bytes) ∧
      result.2.Fits result.1 (result.1.allocated result.2 length) := by
  intro result
  have existing := chosen.within within
  have refitted : Refitted heap slot.data length result :=
    Heap.refitted (fun data holds => (existing data holds).2.arc_lt) rgb
  have inHeap := refitted.inHeap
  cases storage : result.2 with
  | rgb arc h w =>
      rw [storage] at inHeap
      simp only [Heap.allocated]
      exact ⟨Nat.le_refl _, room, inHeap⟩
  | bytes arc =>
      rw [storage] at inHeap
      simp only [Heap.allocated]
      rcases refitted.capacity arc storage with fresh | ⟨old, holds, large, same⟩
      · rw [fresh]
        exact ⟨Nat.le_refl _, room, inHeap, Nat.le_of_eq fresh⟩
      · -- reused storage is no larger than its slot, and the slots fit the budget
        have fits := (existing _ holds).2.2
        have part := bytes_le_used chosen.found
        have total := within.bytes
        have same_used : after.used = (after.slots.map (·.bytes)).sum := rfl
        have used_eq := chosen.used
        rw [same]
        refine ⟨large, by omega, inHeap, Nat.le_of_eq same⟩

private theorem take_reserved (within : pool.WithinBudget heap) {unique : Storage → Bool}
    {middle : Pool} {index length : Nat} {layout : FrameLayout} {rgb : Bool} {slot : Slot}
    (chosen : Chosen pool unique middle index slot) :
    Reserved pool heap unique layout rgb length (middle.take heap index layout rgb length) := by
  have room_eq : middle.available slot = pool.budget.bytes - (pool.used - slot.bytes) := by
    rw [available, chosen.budget, chosen.used]
  unfold take
  simp only [chosen.found, Option.getD_some]
  split
  · split
    · next empty =>
        refine .refused ?_ chosen.budget
        rcases chosen.which with ⟨same, data, holds, _⟩ | ⟨appended, _, _, _⟩
        · have member : slot ∈ pool.slots := by
            rw [← same]
            exact List.mem_of_getElem? chosen.found
          have filled := within.positive slot member
          omega
        · simp [dropFrame, appended]
    · next filled =>
        refine .refused ?_ chosen.budget
        rcases chosen.which with ⟨same, _⟩ | ⟨_, _, rfl, _⟩
        · exact same
        · contradiction
  · next large =>
      have room : length ≤ pool.budget.bytes - (pool.used - slot.bytes) := by
        rw [← room_eq]
        omega
      obtain ⟨least, most, fits⟩ :=
        @Chosen.allocated _ _ within _ _ _ _ _ layout rgb chosen room
      rw [room_eq]
      rw [if_neg (Nat.not_lt.mpr most)]
      exact .granted chosen rfl chosen.budget most least fits

private theorem reserve_reserved (within : pool.WithinBudget heap) {unique : Storage → Bool}
    {layout : FrameLayout} {rgb : Bool} {length now : Nat} :
    Reserved pool heap unique layout rgb length
      (pool.reserve heap unique layout rgb length now) := by
  unfold reserve
  dsimp only
  split
  · exact .refused rfl rfl
  · next middle index chosen =>
      obtain ⟨slot, chosen⟩ := choose_chosen chosen
      have same : Chosen pool unique middle index slot :=
        ⟨chosen.budget, chosen.found, chosen.used, chosen.which⟩
      exact take_reserved within same

theorem slots_chargeError (activity : Bool) (now : Nat) :
    (pool.chargeError activity now).slots = pool.slots ∧
      (pool.chargeError activity now).budget = pool.budget := by
  cases activity <;> exact ⟨rfl, rfl⟩

theorem slots_release {lease : Lease} {slot : Slot}
    (found : pool.slots[lease.index]? = some slot) :
    (pool.release lease).slots = pool.slots.set lease.index ⟨some lease.data, slot.bytes⟩ := by
  have inside : lease.index < pool.slots.length := (List.getElem?_eq_some_iff.mp found).1
  refine List.ext_getElem? fun k => ?_
  rw [release, List.getElem?_modify, List.getElem?_set]
  split
  · next here =>
      subst here
      rw [found]
      simp
  · simp

/-- `configure` refuses while a slot is empty; otherwise it keeps some of the slots and
changes the budget only to one that they meet. -/
theorem configure_slots (unique : Storage → Bool) (memory : MemoryBudget) :
    (pool.configure unique memory).2 = pool ∨
    (∀ slot ∈ pool.slots, slot.data = none → slot.bytes = 0) ∧
    (pool.configure unique memory).2.slots.Sublist pool.slots ∧
    ((pool.configure unique memory).2.budget = pool.budget ∨
      (pool.configure unique memory).2.slots.length ≤ memory.buffers ∧
      (pool.configure unique memory).2.used ≤ memory.bytes ∧
      (pool.configure unique memory).2.budget = memory) := by
  unfold configure
  split
  · exact .inl rfl
  · next full =>
      right
      have filled : ∀ slot ∈ pool.slots, slot.data = none → slot.bytes = 0 := by
        simpa using full
      dsimp only
      split
      · exact ⟨filled, List.filter_sublist, .inl rfl⟩
      · next room =>
          push Not at room
          exact ⟨filled, List.filter_sublist, .inr ⟨room.1, room.2, rfl⟩⟩

end Pool

/-- The reservation of a call: nothing that matters here, or a lease. -/
inductive Booked (s : FrameHub) (raced : List ArcId) (job : Job) (length : Nat) :
    FrameHub × Pc → Prop
  | refused {pool : Pool} (slots : pool.slots = s.pool.slots)
      (budget : pool.budget = s.pool.budget) :
      Booked s raced job length ({ s with pool := pool }, job.exhausted)
  | granted {middle pool : Pool} {heap : Heap} {index allocated : Nat} {slot : Slot}
      {lease : Lease} (chosen : Pool.Chosen s.pool (s.unique raced) middle index slot)
      (slots : pool.slots = middle.slots.set index ⟨none, allocated⟩)
      (budget : pool.budget = s.pool.budget)
      (room : allocated ≤ s.pool.budget.bytes - (s.pool.used - slot.bytes))
      (large : length ≤ allocated)
      (refitted : Refitted s.heap slot.data length (heap, lease.data))
      (here : lease.index = index) (fits : lease.data.Fits heap allocated)
      (made : (heap, lease.data) = s.heap.refit slot.data job.layout job.rgb length) :
      Booked s raced job length
        ({ s with
          pool := pool
          heap := heap
          weaks := s.weaks.filter (· != lease.data.arc) }, .converting job lease)

theorem FrameHub.reserve_booked {s : FrameHub} (within : s.pool.WithinBudget s.heap)
    (raced : List ArcId) (job : Job) (length : Nat) :
    Booked s raced job length (s.reserve raced job length) := by
  have outcome := @Pool.reserve_reserved s.pool s.heap within (s.unique raced)
    job.layout job.rgb length s.clock
  unfold FrameHub.reserve
  generalize s.pool.reserve s.heap (s.unique raced) job.layout job.rgb length s.clock = result
    at outcome
  cases outcome with
  | refused slots budget => exact .refused slots budget
  | @granted middle pool index allocated slot chosen slots budget room large fits =>
      have refitted : Refitted s.heap slot.data length
          (s.heap.refit slot.data job.layout job.rgb length) :=
        Heap.refitted (fun data holds => (chosen.within within data holds).2.arc_lt) job.rgb
      exact .granted chosen slots budget room large refitted rfl fits rfl

/-! ### The invariant -/

/-- The pool is within its budget, and each lease has an empty slot of its own. -/
structure Bounded (s : FrameHub) : Prop where
  within : s.pool.WithinBudget s.heap
  leased : ∀ i lease, s.leaseOf i = some lease →
    ∃ slot, s.pool.slots[lease.index]? = some slot ∧ slot.data = none ∧
      lease.data.Fits s.heap slot.bytes
  distinct : ∀ i j lease other, s.leaseOf i = some lease → s.leaseOf j = some other →
    i ≠ j → lease.index ≠ other.index
  sized : ∀ (i : OpId) (job : Job) (length : Nat),
    s.ops[i]? = some (.reservePool job length) → 0 < length

namespace FrameHub

variable {s t : FrameHub} {i : OpId} {pc after : Pc}

theorem leaseOf_set (at_pc : s.ops[i]? = some pc) (moved : t.ops = s.ops.set i after)
    (j : OpId) : t.leaseOf j = if j = i then after.lease else s.leaseOf j := by
  unfold leaseOf
  rw [moved, getElem?_set_ops at_pc]
  by_cases same : j = i
  · simp [same]
  · simp [same]

theorem leaseOf_at (at_pc : s.ops[i]? = some pc) : s.leaseOf i = pc.lease := by
  simp [leaseOf, at_pc]

end FrameHub

namespace Bounded

variable {s t : FrameHub} {i : OpId} {pc after : Pc}

private theorem within_grows {pool : Pool} {slots : List Slot} {earlier later : Heap}
    {reused : Option ArcId} (within : pool.WithinBudget earlier)
    (grows : earlier.Grows later reused) (same : slots = pool.slots) :
    ∀ slot ∈ slots, ∀ data, slot.data = some data → data.Fits later slot.bytes := by
  subst same
  intro slot member data holds
  exact (within.fits slot member data holds).grows grows

theorem quiet (bounded : Bounded s) (at_pc : s.ops[i]? = some pc)
    (moved : t.ops = s.ops.set i after) (slots : t.pool.slots = s.pool.slots)
    (budget : t.pool.budget = s.pool.budget)
    {reused : Option ArcId} (grows : s.heap.Grows t.heap reused)
    (lease : after.lease = pc.lease)
    (sized : ∀ job length, after = .reservePool job length → 0 < length) :
    Bounded t := by
  have same : ∀ j, t.leaseOf j = s.leaseOf j := by
    intro j
    rw [FrameHub.leaseOf_set at_pc moved]
    split
    · next here => rw [here, lease, FrameHub.leaseOf_at at_pc]
    · rfl
  constructor
  · obtain ⟨buffers, bytes, positive, fits⟩ := bounded.within
    refine ⟨?_, ?_, ?_, ?_⟩
    · simpa only [slots, budget] using buffers
    · simpa only [Pool.used, slots, budget] using bytes
    · simpa only [slots] using positive
    · exact within_grows bounded.within grows slots
  · intro j held leased
    rw [same] at leased
    obtain ⟨slot, found, empty, fits⟩ := bounded.leased j held leased
    exact ⟨slot, by rw [slots]; exact found, empty, fits.grows grows⟩
  · intro j k held other leased otherLeased
    rw [same] at leased otherLeased
    exact bounded.distinct j k held other leased otherLeased
  · intro j job length at_job
    rw [moved, FrameHub.getElem?_set_ops at_pc] at at_job
    split at at_job
    · exact sized job length (Option.some.inj at_job)
    · exact bounded.sized j job length at_job

private theorem chosen_free (bounded : Bounded s) {unique : Storage → Bool} {middle : Pool}
    {index : Nat} {slot : Slot} (chosen : Pool.Chosen s.pool unique middle index slot) :
    ∀ j lease, s.leaseOf j = some lease → lease.index ≠ index ∧
      middle.slots[lease.index]? = s.pool.slots[lease.index]? := by
  intro j lease leased
  obtain ⟨other, found, empty, _⟩ := bounded.leased j lease leased
  have inside : lease.index < s.pool.slots.length := (List.getElem?_eq_some_iff.mp found).1
  rcases chosen.which with ⟨same, data, holds, _⟩ | ⟨appended, rfl, _, _⟩
  · refine ⟨?_, by rw [same]⟩
    rintro rfl
    have here := chosen.found
    rw [same, found] at here
    rw [Option.some.inj here, holds] at empty
    contradiction
  · exact ⟨Nat.ne_of_lt inside, by rw [appended, List.getElem?_append_left inside]⟩

private theorem granted_within (within : s.pool.WithinBudget s.heap) {unique : Storage → Bool}
    {middle pool : Pool} {heap : Heap} {index allocated : Nat} {slot : Slot}
    (chosen : Pool.Chosen s.pool unique middle index slot)
    (slots : pool.slots = middle.slots.set index ⟨none, allocated⟩)
    (budget : pool.budget = s.pool.budget)
    (room : allocated ≤ s.pool.budget.bytes - (s.pool.used - slot.bytes))
    (positive : 0 < allocated) {reused : Option ArcId} (grows : s.heap.Grows heap reused) :
    pool.WithinBudget heap := by
  have others : ∀ other ∈ middle.slots.set index ⟨none, allocated⟩,
      other ∈ s.pool.slots ∨ other = ⟨none, allocated⟩ := by
    intro other member
    obtain ⟨k, inside, rfl⟩ := List.mem_iff_getElem.mp member
    rw [List.getElem_set]
    split
    · exact .inr rfl
    · next different =>
        left
        rcases chosen.which with ⟨same, _⟩ | ⟨appended, rfl, _, _⟩
        · simp only [same]
          exact List.getElem_mem _
        · have within_old : k < s.pool.slots.length := by
            rw [appended, List.length_set, List.length_append, List.length_singleton] at inside
            omega
          simp only [appended, List.getElem_append_left within_old]
          exact List.getElem_mem _
  constructor
  · rw [slots, budget, List.length_set]
    rcases chosen.which with ⟨same, _⟩ | ⟨appended, _, _, more⟩
    · rw [same]
      exact within.buffers
    · rw [appended, List.length_append, List.length_singleton]
      exact more
  · have changed := @Pool.used_set _ _ _ ⟨none, allocated⟩ chosen.found
    have part := Pool.bytes_le_used chosen.found
    have total := within.bytes
    have used := chosen.used
    unfold Pool.used at *
    rw [slots, budget]
    dsimp only at changed
    omega
  · intro other member
    rw [slots] at member
    rcases others other member with old | rfl
    · exact within.positive other old
    · exact positive
  · intro other member data holds
    rw [slots] at member
    rcases others other member with old | rfl
    · exact (within.fits other old data holds).grows grows
    · contradiction

theorem granted (bounded : Bounded s) {unique : Storage → Bool} {middle : Pool}
    {index allocated : Nat} {slot : Slot} {job : Job} {lease : Lease}
    (at_pc : s.ops[i]? = some pc) (moved : t.ops = s.ops.set i (.converting job lease))
    (chosen : Pool.Chosen s.pool unique middle index slot)
    (slots : t.pool.slots = middle.slots.set index ⟨none, allocated⟩)
    (budget : t.pool.budget = s.pool.budget)
    (room : allocated ≤ s.pool.budget.bytes - (s.pool.used - slot.bytes))
    (positive : 0 < allocated) {reused : Option ArcId} (grows : s.heap.Grows t.heap reused)
    (here : lease.index = index) (fits : lease.data.Fits t.heap allocated) : Bounded t := by
  have free := bounded.chosen_free chosen
  have inside : index < middle.slots.length :=
    (List.getElem?_eq_some_iff.mp chosen.found).1
  constructor
  · exact granted_within bounded.within chosen slots budget room positive grows
  · intro j held leased
    rw [FrameHub.leaseOf_set at_pc moved] at leased
    rw [slots]
    split at leased
    · obtain rfl := Option.some.inj leased
      rw [here]
      exact ⟨⟨none, allocated⟩, List.getElem?_set_self inside, rfl, fits⟩
    · obtain ⟨different, same⟩ := free j held leased
      obtain ⟨other, found, empty, otherFits⟩ := bounded.leased j held leased
      refine ⟨other, ?_, empty, otherFits.grows grows⟩
      rw [List.getElem?_set_ne (Ne.symm different), same, found]
  · intro j k held other leased otherLeased different
    rw [FrameHub.leaseOf_set at_pc moved] at leased otherLeased
    split at leased
    · next at_i =>
        obtain rfl := Option.some.inj leased
        split at otherLeased
        · next at_i' => exact absurd (at_i.trans at_i'.symm) different
        · rw [here]
          exact Ne.symm (free k other otherLeased).1
    · split at otherLeased
      · obtain rfl := Option.some.inj otherLeased
        rw [here]
        exact (free j held leased).1
      · exact bounded.distinct j k held other leased otherLeased different
  · intro j other size at_job
    rw [moved, FrameHub.getElem?_set_ops at_pc] at at_job
    split at at_job
    · cases Option.some.inj at_job
    · exact bounded.sized j other size at_job

theorem reserved (bounded : Bounded s) {job : Job} {length : Nat}
    (at_pc : s.ops[i]? = some (.reservePool job length)) (raced : List ArcId) :
    Bounded { (s.reserve raced job length).1 with
      ops := s.ops.set i (s.reserve raced job length).2 } := by
  have positive := bounded.sized i job length at_pc
  have booked := FrameHub.reserve_booked bounded.within raced job length
  generalize s.reserve raced job length = result at booked ⊢
  cases booked with
  | refused slots budget =>
      refine bounded.quiet at_pc rfl slots budget (.refl _ none) (exhausted_lease job) ?_
      intro other size impossible
      obtain ⟨answer, same⟩ := exhausted_answers job
      cases same.symm.trans impossible
  | granted chosen slots budget room large refitted here fits =>
      exact bounded.granted at_pc rfl chosen slots budget room
        (Nat.lt_of_lt_of_le positive large) refitted.grows here fits

theorem released (bounded : Bounded s) {lease : Lease} {answer : Answer}
    (at_pc : s.ops[i]? = some (.releasing lease answer))
    (moved : t.ops = s.ops.set i (.returned answer)) (pool : t.pool = s.pool.release lease)
    (heap : t.heap = s.heap) : Bounded t := by
  have here : s.leaseOf i = some lease := FrameHub.leaseOf_at at_pc
  obtain ⟨slot, found, _, fits⟩ := bounded.leased i lease here
  have slots : t.pool.slots = s.pool.slots.set lease.index ⟨some lease.data, slot.bytes⟩ := by
    rw [pool, Pool.slots_release found]
  have budget : t.pool.budget = s.pool.budget := by rw [pool]; rfl
  have member := List.mem_of_getElem? found
  constructor
  · obtain ⟨buffers, bytes, positive, held⟩ := bounded.within
    refine ⟨?_, ?_, ?_, ?_⟩
    · rwa [slots, budget, List.length_set]
    · have same := @Pool.used_set _ _ _ ⟨some lease.data, slot.bytes⟩ found
      rw [Pool.used, slots, budget, Nat.add_right_cancel same]
      exact bytes
    · intro other inside
      rw [slots] at inside
      rcases List.mem_or_eq_of_mem_set inside with old | rfl
      · exact positive other old
      · exact positive slot member
    · intro other inside data holds
      rw [slots] at inside
      rw [heap]
      rcases List.mem_or_eq_of_mem_set inside with old | rfl
      · exact held other old data holds
      · obtain rfl := Option.some.inj holds
        exact fits
  · intro j other leased
    rw [FrameHub.leaseOf_set at_pc moved] at leased
    split at leased
    · cases leased
    · next different =>
        have apart := bounded.distinct i j lease other here leased (Ne.symm different)
        rw [slots, heap, List.getElem?_set_ne apart]
        exact bounded.leased j other leased
  · intro j k held other leased otherLeased different
    rw [FrameHub.leaseOf_set at_pc moved] at leased otherLeased
    split at leased
    · cases leased
    · split at otherLeased
      · cases otherLeased
      · exact bounded.distinct j k held other leased otherLeased different
  · intro j job length at_job
    rw [moved, FrameHub.getElem?_set_ops at_pc] at at_job
    split at at_job
    · cases Option.some.inj at_job
    · exact bounded.sized j job length at_job

theorem configured (bounded : Bounded s) {request : StreamRequest} {answer : Answer}
    (at_pc : s.ops[i]? = some (.configurePool request))
    (moved : t.ops = s.ops.set i (.returned answer)) (unique : Storage → Bool)
    (pool : t.pool = (s.pool.configure unique request.memory).2)
    (heap : t.heap = s.heap) : Bounded t := by
  have changed := @Pool.configure_slots s.pool unique request.memory
  rw [← pool] at changed
  rcases changed with same | ⟨filled, sub, budget⟩
  · have grows : s.heap.Grows t.heap none := by
      rw [heap]
      exact .refl _ none
    exact bounded.quiet at_pc moved (by rw [same]) (by rw [same]) grows rfl (by simp)
  · have idle : ∀ j lease, s.leaseOf j ≠ some lease := by
      intro j lease leased
      obtain ⟨slot, found, empty, _⟩ := bounded.leased j lease leased
      have member := List.mem_of_getElem? found
      exact absurd (filled slot member empty)
        (Nat.ne_of_gt (bounded.within.positive slot member))
    have unleased : ∀ j lease, t.leaseOf j ≠ some lease := by
      intro j lease leased
      rw [FrameHub.leaseOf_set at_pc moved] at leased
      split at leased
      · cases leased
      · exact idle j lease leased
    have less : t.pool.used ≤ s.pool.used :=
      List.Sublist.sum_le_sum (sub.map _) fun _ _ => Nat.zero_le _
    constructor
    · refine ⟨?_, ?_, ?_, ?_⟩
      · rcases budget with same | ⟨buffers, _, same⟩
        · rw [same]
          exact Nat.le_trans sub.length_le bounded.within.buffers
        · rwa [same]
      · rcases budget with same | ⟨_, bytes, same⟩
        · rw [same]
          exact Nat.le_trans less bounded.within.bytes
        · rwa [same]
      · intro slot member
        exact bounded.within.positive slot (sub.subset member)
      · intro slot member data holds
        rw [heap]
        exact bounded.within.fits slot (sub.subset member) data holds
    · intro j lease leased
      exact absurd leased (unleased j lease)
    · intro j k lease other leased
      exact absurd leased (unleased j lease)
    · intro j job length at_job
      rw [moved, FrameHub.getElem?_set_ops at_pc] at at_job
      split at at_job
      · cases Option.some.inj at_job
      · exact bounded.sized j job length at_job

end Bounded

theorem frameLength_pos {layout : FrameLayout} {rgb : Bool} {length : Nat}
    (fits : frameLength layout rgb = .ok length) : 0 < length := by
  unfold frameLength at fits
  dsimp only at fits
  split at fits
  · next passed =>
      obtain rfl := Except.ok.inj fits
      obtain ⟨_, bounds⟩ := Option.filter_eq_some_iff.mp passed
      simp only [Bool.and_eq_true, decide_eq_true_eq] at bounds
      exact bounds.1
  · cases fits

namespace Bounded

variable {s t : FrameHub} {i : OpId} {pc after : Pc}

theorem access (bounded : Bounded s) (at_pc : s.ops[i]? = some pc)
    (access : Access s pc t after) : Bounded { t with ops := s.ops.set i after } := by
  cases access with
  | reserved raced unlocked current => exact bounded.reserved at_pc raced
  | released unlocked => exact bounded.released at_pc rfl rfl rfl
  | configured raced native answer unlocked =>
      exact bounded.configured at_pc rfl (s.unique raced) rfl rfl
  | lookPassed current fits =>
      refine bounded.quiet at_pc rfl rfl rfl (.refl _ none) rfl ?_
      rintro other size ⟨⟩
      exact frameLength_pos fits
  | @lookRefused job stale =>
      refine bounded.quiet at_pc rfl rfl rfl (.refl _ none) (exhausted_lease job) ?_
      intro other size impossible
      obtain ⟨answer, same⟩ := exhausted_answers job
      cases same.symm.trans impossible
  | @poolRefused job length stale =>
      refine bounded.quiet at_pc rfl rfl rfl (.refl _ none) (exhausted_lease job) ?_
      intro other size impossible
      obtain ⟨answer, same⟩ := exhausted_answers job
      cases same.symm.trans impossible
  | wrote bytes size =>
      exact bounded.quiet at_pc rfl rfl rfl (Heap.grows_store _ _ _) rfl (by simp)
  | filled fill =>
      exact bounded.quiet at_pc rfl rfl rfl (Heap.grows_store _ _ _) rfl (by simp)
  | @recordRefused session activity failed =>
      exact bounded.quiet at_pc rfl rfl rfl (.refl _ none) (recorded_lease failed)
        fun _ _ impossible => absurd impossible recorded_ne_reservePool
  | @woken failed =>
      exact bounded.quiet at_pc rfl rfl rfl (.refl _ none) (recorded_lease failed)
        fun _ _ impossible => absurd impossible recorded_ne_reservePool
  | @charged session activity failed after unlocked goes =>
      obtain ⟨slots, budget⟩ := @Pool.slots_chargeError s.pool activity s.clock
      rcases goes with rfl | rfl
      · exact bounded.quiet at_pc rfl slots budget (.refl _ none) rfl (by simp)
      · exact bounded.quiet at_pc rfl slots budget (.refl _ none) (recorded_lease failed)
          fun _ _ impossible => absurd impossible recorded_ne_reservePool
  | budgetRead goes =>
      rcases goes with rfl | ⟨error, rfl⟩
      · exact bounded.quiet at_pc rfl rfl rfl (.refl _ none) rfl (by simp)
      · exact bounded.quiet at_pc rfl rfl rfl (.refl _ none) rfl (by simp)
  | _ => exact bounded.quiet at_pc rfl rfl rfl (.refl _ none) rfl (by simp)

theorem unchanged (bounded : Bounded s) (pool : t.pool = s.pool) (heap : t.heap = s.heap)
    (ops : t.ops = s.ops) : Bounded t := by
  have same : ∀ j, t.leaseOf j = s.leaseOf j := by
    intro j
    rw [FrameHub.leaseOf, FrameHub.leaseOf, ops]
  constructor
  · rw [pool, heap]
    exact bounded.within
  · intro j lease leased
    rw [same] at leased
    rw [pool, heap]
    exact bounded.leased j lease leased
  · intro j k held other leased otherLeased
    rw [same] at leased otherLeased
    exact bounded.distinct j k held other leased otherLeased
  · rw [ops]
    exact bounded.sized

theorem called (bounded : Bounded s) (entry : pc.Entry) (pool : t.pool = s.pool)
    (heap : t.heap = s.heap) (ops : t.ops = s.ops ++ [pc]) : Bounded t := by
  have same : ∀ j lease, t.leaseOf j = some lease → s.leaseOf j = some lease := by
    intro j lease leased
    rw [FrameHub.leaseOf, ops, FrameHub.getElem?_append_ops] at leased
    split at leased
    · rw [Option.bind_some, entry.lease] at leased
      contradiction
    · exact leased
  constructor
  · rw [pool, heap]
    exact bounded.within
  · intro j lease leased
    rw [pool, heap]
    exact bounded.leased j lease (same j lease leased)
  · intro j k held other leased otherLeased
    exact bounded.distinct j k held other (same j held leased) (same k other otherLeased)
  · intro j job length at_job
    rw [ops, FrameHub.getElem?_append_ops] at at_job
    split at at_job
    · rw [Option.some.inj at_job] at entry
      cases entry
    · exact bounded.sized j job length at_job

theorem step {a : Action} (taken : s.step a = some t) (bounded : Bounded s) : Bounded t := by
  cases step_stepped taken with
  | called call => exact bounded.called (Call.entry_entry s.clock call) rfl rfl rfl
  | ran at_pc access => exact bounded.access at_pc access
  | flagged call => exact bounded.unchanged rfl rfl rfl
  | raised flag => exact bounded.unchanged rfl rfl rfl
  | otherHub => exact bounded.unchanged rfl rfl rfl
  | ticked ns => exact bounded.unchanged rfl rfl rfl
  | consumed consumed =>
      have keeps := consumed.keeps
      exact bounded.unchanged (by rw [keeps]) (by rw [keeps]) (by rw [keeps])

theorem initially (start : machine.initial s) : Bounded s := by
  obtain ⟨capacity, drawn, rfl⟩ := start
  refine ⟨⟨Nat.zero_le _, Nat.zero_le _, ?_, ?_⟩, ?_, ?_, ?_⟩
  · simp [FrameHub.new]
  · simp [FrameHub.new]
  · simp [FrameHub.leaseOf, FrameHub.new]
  · simp [FrameHub.leaseOf, FrameHub.new]
  · simp [FrameHub.new]

theorem reachable {admits : FrameHub → Action → Prop} (reached : machine.Reachable admits s) :
    Bounded s :=
  reached.invariant (fun _ start => initially start)
    fun _ _ _ _ taken bounded => bounded.step taken

end Bounded

/-- The pool is within its budget in every reachable state, and every outstanding
lease names an empty slot that no other lease names. -/
theorem pool_bounded {s : FrameHub} (reached : machine.Reachable Lib.Machine.anything s) :
    s.pool.slots.length ≤ s.pool.budget.buffers ∧
    (s.pool.slots.map (·.bytes)).sum ≤ s.pool.budget.bytes ∧
    (∀ i lease, s.leaseOf i = some lease →
      ∃ slot, s.pool.slots[lease.index]? = some slot ∧ slot.data = none) ∧
    ∀ i j lease other, s.leaseOf i = some lease → s.leaseOf j = some other → i ≠ j →
      lease.index ≠ other.index := by
  have bounded : Bounded s := .reachable reached
  refine ⟨bounded.within.buffers, bounded.within.bytes, ?_, bounded.distinct⟩
  intro i lease leased
  obtain ⟨slot, found, empty, _⟩ := bounded.leased i lease leased
  exact ⟨slot, found, empty⟩

theorem pool_bounded_writing :
    ∃ s, machine.Reachable Lib.Machine.anything s ∧
      ((s.leaseOf 1).isSome ∧ (s.leaseOf 2).isSome) ∧
      s.pool.slots.length ≤ s.pool.budget.buffers ∧
      (s.pool.slots.map (·.bytes)).sum ≤ s.pool.budget.bytes ∧
      (∀ i lease, s.leaseOf i = some lease →
        ∃ slot, s.pool.slots[lease.index]? = some slot ∧ slot.data = none) ∧
      ∀ i j lease other, s.leaseOf i = some lease → s.leaseOf j = some other → i ≠ j →
        lease.index ≠ other.index := by
  have passed : ((machine.exec (fun _ _ => true) (FrameHub.new 3) ([Action.call .start] ++
      List.replicate 4 (Action.run 0 {}) ++
      [Action.call (.publishRgb 1 2 2 none), .run 1 {}, .run 1 {},
        .call (.writableNative 1 (.packed 2 2 .gray8 2 4)), .run 2 {}, .run 2 {}])).any fun s =>
      decide ((s.leaseOf 1).isSome ∧ (s.leaseOf 2).isSome)) = true := by
    decide +kernel
  obtain ⟨s, reached, leased⟩ := Lib.Machine.Reachable.of_exec (machine_new 3) passed
  have anyhow := reached.mono fun _ _ _ => (trivial : Lib.Machine.anything _ _)
  exact ⟨s, anyhow, of_decide_eq_true leased, pool_bounded anyhow⟩

end CameraRs.Frame

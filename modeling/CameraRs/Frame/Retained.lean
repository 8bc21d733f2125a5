/-
Retained frames are immutable.

Only the call that converts a frame may write its storage, and while it does nobody
else refers to that storage: no slot, no other lease, no frame, no clone and no weak
reference. What `reserve` hands out is new, or was in a slot as the only reference.
-/

import CameraRs.Frame.Bounded
import CameraRs.Frame.Queues

namespace CameraRs.Frame

inductive Ref
  | slot
  | lease (i : OpId)
  | frame
  | clone
  | weak

namespace FrameHub

variable {s t : FrameHub} {i : OpId} {pc after : Pc} {arc : ArcId}

def Refers (s : FrameHub) (arc : ArcId) : Ref → Prop
  | .slot => ∃ slot ∈ s.pool.slots, ∃ data, slot.data = some data ∧ data.arc = arc
  | .lease i => ∃ lease, s.leaseOf i = some lease ∧ lease.data.arc = arc
  | .frame => ∃ f ∈ s.frames, f.storage.arc = arc
  | .clone => arc ∈ s.clones
  | .weak => arc ∈ s.weaks

/-- A frame or a clone of its pixels holds the allocation. -/
def Retains (s : FrameHub) (arc : ArcId) : Prop :=
  s.Refers arc .frame ∨ s.Refers arc .clone

/-- Call `i` may write to the storage of its lease. -/
def Writes (s : FrameHub) (i : OpId) (lease : Lease) : Prop :=
  ∃ job, s.ops[i]? = some (.converting job lease)

theorem Writes.leased {lease : Lease} (writes : s.Writes i lease) :
    s.leaseOf i = some lease := by
  obtain ⟨job, at_pc⟩ := writes
  rw [leaseOf_at at_pc]
  rfl

private theorem leaseOf_mem {lease : Lease} (leased : s.leaseOf i = some lease) :
    ∃ pc ∈ s.ops, pc.lease = some lease := by
  obtain ⟨pc, at_pc, holds⟩ := Option.bind_eq_some_iff.mp leased
  exact ⟨pc, List.mem_of_getElem? at_pc, holds⟩

theorem unique_alone {raced : List ArcId} {index bytes : Nat} {slot : Slot} {data : Storage}
    (found : s.pool.slots[index]? = some slot) (holds : slot.data = some data)
    (unique : s.unique raced data = true) :
    (∀ i lease, s.leaseOf i = some lease → lease.data.arc ≠ data.arc) ∧
    (∀ f ∈ s.frames, f.storage.arc ≠ data.arc) ∧ data.arc ∉ s.clones ∧
    ∀ other ∈ s.pool.slots.set index ⟨none, bytes⟩, ∀ stored, other.data = some stored →
      stored.arc ≠ data.arc := by
  have inside : index < s.pool.slots.length := (List.getElem?_eq_some_iff.mp found).1
  have here : s.pool.slots[index] = slot := (List.getElem?_eq_some_iff.mp found).2
  simp only [FrameHub.unique, Bool.and_eq_true, beq_iff_eq] at unique
  have one : s.strongCount data.arc = 1 := unique.1
  unfold strongCount at one
  have mine : slot.data.any (fun stored => stored.arc == data.arc) = true := by
    simp [holds]
  have emptied := @List.countP_set _ (fun slot : Slot => slot.data.any (·.arc == data.arc))
    s.pool.slots index ⟨none, bytes⟩ inside
  simp only [here, mine, if_true, Option.any_none, Bool.false_eq_true, if_false,
    Nat.add_zero] at emptied
  have counted : 0 < s.pool.slots.countP (fun slot => slot.data.any (·.arc == data.arc)) :=
    List.countP_pos_iff.mpr ⟨slot, List.mem_of_getElem? found, mine⟩
  have noLease : s.ops.countP (fun pc => pc.lease.any (·.data.arc == data.arc)) = 0 := by omega
  have noFrame : s.frames.dedup.countP (·.storage.arc == data.arc) = 0 := by omega
  have noClone : s.clones.count data.arc = 0 := by omega
  have noSlot : (s.pool.slots.set index ⟨none, bytes⟩).countP
      (fun slot => slot.data.any (·.arc == data.arc)) = 0 := by omega
  refine ⟨?_, ?_, List.count_eq_zero.mp noClone, ?_⟩
  · intro i lease leased same
    obtain ⟨pc, member, holds⟩ := leaseOf_mem leased
    have apart := List.countP_eq_zero.mp noLease pc member
    simp [holds, same] at apart
  · intro f exist same
    have apart := List.countP_eq_zero.mp noFrame f (List.mem_dedup.mpr exist)
    simp [same] at apart
  · intro other member stored holds same
    have apart := List.countP_eq_zero.mp noSlot other member
    simp [holds, same] at apart

end FrameHub

/-- Every reference is to an allocation, and storage that is being written has no
reference but the lease. -/
structure Isolated (s : FrameHub) : Prop where
  inHeap : ∀ arc ref, s.Refers arc ref → arc < s.heap.next
  alone : ∀ i lease, s.Writes i lease → ∀ ref, s.Refers lease.data.arc ref → ref = .lease i

namespace Isolated

variable {s t : FrameHub} {i : OpId} {pc after : Pc}

/-- References that come from references, where a lease that is still being written
passes its reference to nobody. -/
theorem derived (isolated : Isolated s) (next : s.heap.next ≤ t.heap.next)
    (origin : ∀ arc ref, t.Refers arc ref → ∃ old, s.Refers arc old ∧
      ∀ j, old = .lease j → ref = .lease j ∨ ∀ lease, ¬ t.Writes j lease)
    (writes : ∀ j lease, t.Writes j lease → s.Writes j lease) : Isolated t := by
  constructor
  · intro arc ref refers
    obtain ⟨old, before, _⟩ := origin arc ref refers
    exact Nat.lt_of_lt_of_le (isolated.inHeap arc old before) next
  · intro j lease writing ref refers
    obtain ⟨old, before, kept⟩ := origin _ ref refers
    have same := isolated.alone j lease (writes j lease writing) old before
    rcases kept j same with kept | idle
    · exact kept
    · exact absurd writing (idle lease)

end Isolated

inductive Grants (s : FrameHub) : Pc → FrameHub → Pc → Prop
  | intro {raced : List ArcId} {job : Job} {length : Nat} {middle pool : Pool} {heap : Heap}
      {index allocated : Nat} {slot : Slot} {lease : Lease}
      (chosen : Pool.Chosen s.pool (s.unique raced) middle index slot)
      (slots : pool.slots = middle.slots.set index ⟨none, allocated⟩)
      (refitted : Refitted s.heap slot.data length (heap, lease.data))
      (made : (heap, lease.data) = s.heap.refit slot.data job.layout job.rgb length) :
      Grants s (.reservePool job length)
        { s with
          pool := pool
          heap := heap
          weaks := s.weaks.filter (· != lease.data.arc) } (.converting job lease)

/-- What any other access does with references and storage. -/
structure Moves (s : FrameHub) (pc : Pc) (t : FrameHub) (after : Pc) : Prop where
  slots : ∀ slot ∈ t.pool.slots, ∀ data, slot.data = some data →
    (∃ old ∈ s.pool.slots, old.data = some data) ∨
    ∃ lease, pc.lease = some lease ∧ lease.data = data ∧ after.lease = none
  leases : ∀ lease, after.lease = some lease → pc.lease = some lease
  writes : ∀ job lease, after = .converting job lease → ∃ old, pc = .converting old lease
  clones : t.clones = s.clones
  weaks : t.weaks = s.weaks
  heap : t.heap = s.heap ∨ ∃ job lease bytes, pc = .converting job lease ∧
    bytes.length = (s.heap.buffers lease.data.arc).bytes.length ∧
    t.heap = s.heap.store lease.data.arc bytes

theorem Moves.next {s t : FrameHub} {pc after : Pc} (moves : Moves s pc t after) :
    t.heap.next = s.heap.next := by
  rcases moves.heap with same | ⟨_, _, _, _, _, same⟩
  · rw [same]
  · rw [same]
    rfl

theorem moves_quiet {s t : FrameHub} {pc after : Pc} (slots : t.pool.slots = s.pool.slots)
    (leases : ∀ lease, after.lease = some lease → pc.lease = some lease)
    (writes : ∀ job lease, after = .converting job lease → ∃ old, pc = .converting old lease)
    (clones : t.clones = s.clones) (weaks : t.weaks = s.weaks)
    (heap : t.heap = s.heap) : Moves s pc t after where
  slots slot member _ holds := .inl ⟨slot, slots ▸ member, holds⟩
  leases := leases
  writes := writes
  clones := clones
  weaks := weaks
  heap := .inl heap

theorem moves_recorded {s t : FrameHub} {pc : Pc} {failed : Option (Lease × CameraError)}
    (lease : pc.lease = failed.map (·.1)) (slots : t.pool.slots = s.pool.slots)
    (clones : t.clones = s.clones) (weaks : t.weaks = s.weaks)
    (heap : t.heap = s.heap) : Moves s pc t (FrameHub.recorded failed) := by
  refine moves_quiet slots ?_ ?_ clones weaks heap
  · intro held same
    rw [lease, ← recorded_lease, same]
  · cases failed <;> simp [FrameHub.recorded]

private theorem copyParts_length {parts : List (List UInt8)} {offset : Nat} {out bytes : List UInt8}
    (copied : copyParts parts offset out = some bytes) : bytes.length = out.length := by
  induction parts generalizing offset out with
  | nil =>
      obtain rfl := Option.some.inj copied
      rfl
  | cons part rest ih =>
      rw [copyParts] at copied
      split at copied
      · next inside =>
          rw [ih copied]
          simp only [List.length_append, List.length_take, List.length_drop]
          omega
      · contradiction

theorem Access.grants_or_moves {s u : FrameHub} {i : OpId} {pc after : Pc}
    (access : Access s pc u after) (bounded : Bounded s) (at_pc : s.ops[i]? = some pc) :
    Grants s pc u after ∨ Moves s pc u after := by
  cases access with
  | @reserved job length raced unlocked current =>
      have booked := FrameHub.reserve_booked bounded.within raced job length
      generalize s.reserve raced job length = result at booked ⊢
      cases booked with
      | refused slots budget =>
          obtain ⟨answer, same⟩ := exhausted_answers job
          refine .inr (moves_quiet slots ?_ ?_ rfl rfl rfl)
          · simp [exhausted_lease]
          · simp [same]
      | granted chosen slots budget room large refitted here fits made =>
          exact .inl (.intro chosen slots refitted made)
  | @wrote job lease bytes size =>
      refine .inr ⟨fun slot member _ holds => .inl ⟨slot, member, holds⟩, fun _ same => same, ?_,
        rfl, rfl, .inr ⟨job, lease, bytes, rfl, size, rfl⟩⟩
      exact fun _ _ same => ⟨_, same⟩
  | @filled job lease parts elapsed bytes fill copied =>
      exact .inr ⟨fun slot member _ holds => .inl ⟨slot, member, holds⟩, fun _ same => same,
        by simp, rfl, rfl, .inr ⟨job, lease, bytes, rfl, copyParts_length copied, rfl⟩⟩
  | @released lease answer unlocked =>
      refine .inr ⟨?_, by simp [Pc.lease], by simp, rfl, rfl, .inl rfl⟩
      intro slot member data holds
      have leased : s.leaseOf i = some lease := FrameHub.leaseOf_at at_pc
      obtain ⟨old, found, _⟩ := bounded.leased i lease leased
      have returned : slot ∈ (s.pool.release lease).slots := member
      rw [Pool.slots_release found] at returned
      rcases List.mem_or_eq_of_mem_set returned with before | rfl
      · exact .inl ⟨slot, before, holds⟩
      · exact .inr ⟨lease, rfl, Option.some.inj holds, rfl⟩
  | @configured request raced native answer unlocked =>
      refine .inr ⟨?_, fun _ same => same, by simp, rfl, rfl, .inl rfl⟩
      intro slot member data holds
      rcases @Pool.configure_slots s.pool (s.unique raced) request.memory with
        same | ⟨_, sub, _⟩
      · dsimp only at member
        rw [same] at member
        exact .inl ⟨slot, member, holds⟩
      · exact .inl ⟨slot, sub.subset member, holds⟩
  | @lookRefused job stale =>
      obtain ⟨answer, same⟩ := exhausted_answers job
      exact .inr (moves_quiet rfl (by simp [exhausted_lease]) (by simp [same]) rfl rfl rfl)
  | @poolRefused job length stale =>
      obtain ⟨answer, same⟩ := exhausted_answers job
      exact .inr (moves_quiet rfl (by simp [exhausted_lease]) (by simp [same]) rfl rfl rfl)
  | stamped timestamp =>
      refine .inr (moves_quiet rfl (fun _ same => same) ?_ rfl rfl rfl)
      rintro _ _ ⟨⟩
      exact ⟨_, rfl⟩
  | recordRefused => exact .inr (moves_recorded rfl rfl rfl rfl rfl)
  | woken => exact .inr (moves_recorded rfl rfl rfl rfl rfl)
  | @charged session activity failed after unlocked goes =>
      have slots := (@Pool.slots_chargeError s.pool activity s.clock).1
      rcases goes with rfl | rfl
      · exact .inr (moves_quiet slots (fun _ same => same) (by simp) rfl rfl rfl)
      · exact .inr (moves_recorded rfl slots rfl rfl rfl)
  | budgetRead goes =>
      rcases goes with rfl | ⟨error, rfl⟩
      · exact .inr (moves_quiet rfl (fun _ same => same) (by simp) rfl rfl rfl)
      · exact .inr (moves_quiet rfl (fun _ same => same) (by simp) rfl rfl rfl)
  | _ => exact .inr (moves_quiet rfl (fun _ same => same) (by simp) rfl rfl rfl)

namespace Isolated

variable {s t u : FrameHub} {i : OpId} {pc after : Pc}

theorem moved (isolated : Isolated s) (at_pc : s.ops[i]? = some pc)
    (access : Access s pc u after) (moves : Moves s pc u after) :
    Isolated { u with ops := s.ops.set i after } := by
  have writes : ∀ j lease,
      FrameHub.Writes { u with ops := s.ops.set i after } j lease → s.Writes j lease := by
    rintro j lease ⟨job, at_job⟩
    dsimp only at at_job
    rw [FrameHub.getElem?_set_ops at_pc] at at_job
    split at at_job
    · next here =>
        obtain ⟨old, same⟩ := moves.writes job lease (Option.some.inj at_job)
        exact ⟨old, by rw [here, at_pc, same]⟩
    · exact ⟨job, at_job⟩
  have idle : (∀ job lease, after ≠ .converting job lease) →
      ∀ lease, ¬ FrameHub.Writes { u with ops := s.ops.set i after } i lease := by
    rintro finished lease ⟨job, at_job⟩
    dsimp only at at_job
    rw [FrameHub.getElem?_set_ops at_pc, if_pos rfl] at at_job
    exact finished job lease (Option.some.inj at_job)
  refine isolated.derived (Nat.le_of_eq moves.next.symm) ?_ writes
  intro arc ref refers
  cases ref with
  | slot =>
      obtain ⟨slot, member, data, holds, rfl⟩ := refers
      rcases moves.slots slot member data holds with ⟨old, before, held⟩ | ⟨lease, given, rfl, none⟩
      · exact ⟨.slot, ⟨old, before, data, held, rfl⟩, by simp⟩
      · refine ⟨.lease i, ⟨lease, by rw [FrameHub.leaseOf_at at_pc, given], rfl⟩, ?_⟩
        rintro _ ⟨⟩
        refine .inr (idle ?_)
        rintro job lease rfl
        contradiction
  | lease j =>
      obtain ⟨lease, leased, rfl⟩ := refers
      rw [FrameHub.leaseOf_set at_pc rfl] at leased
      refine ⟨.lease j, ⟨lease, ?_, rfl⟩, fun _ same => .inl same⟩
      split at leased
      · next here => rw [here, FrameHub.leaseOf_at at_pc, moves.leases lease leased]
      · exact leased
  | frame =>
      obtain ⟨f, exist, rfl⟩ := refers
      rcases access.frames exist with old | delivered
      · exact ⟨.frame, ⟨f, old, rfl⟩, by simp⟩
      · -- the frame shares the storage with the lease, which is not written any more
        cases delivered with
        | @intro job lease elapsed ns current captured =>
            refine ⟨.lease i, ⟨lease, FrameHub.leaseOf_at at_pc, by rw [captured]; rfl⟩, ?_⟩
            rintro _ ⟨⟩
            exact .inr (idle (by simp))
  | clone =>
      refine ⟨.clone, ?_, by simp⟩
      have cloned : arc ∈ u.clones := refers
      rwa [moves.clones] at cloned
  | weak =>
      refine ⟨.weak, ?_, by simp⟩
      have weak : arc ∈ u.weaks := refers
      rwa [moves.weaks] at weak

section Grant

variable {raced : List ArcId} {middle : Pool} {index allocated length : Nat} {slot : Slot}
  {job : Job} {lease : Lease} {arc : ArcId} {ref : Ref}

private theorem granted_kept (at_pc : s.ops[i]? = some pc)
    (ops : t.ops = s.ops.set i (.converting job lease))
    (chosen : Pool.Chosen s.pool (s.unique raced) middle index slot)
    (slots : t.pool.slots = middle.slots.set index ⟨none, allocated⟩)
    (frames : t.frames = s.frames) (clones : t.clones = s.clones)
    (weaks : t.weaks = s.weaks.filter (· != lease.data.arc)) (refers : t.Refers arc ref) :
    ref = .lease i ∧ arc = lease.data.arc ∨ s.Refers arc ref := by
  cases ref with
  | slot =>
      right
      obtain ⟨other, member, data, holds, rfl⟩ := refers
      rw [slots] at member
      rcases List.mem_or_eq_of_mem_set member with old | rfl
      · refine ⟨other, ?_, data, holds, rfl⟩
        rcases chosen.which with ⟨same, _⟩ | ⟨appended, _⟩
        · rwa [same] at old
        · rw [appended] at old
          rcases List.mem_append.mp old with old | new
          · exact old
          · rw [List.mem_singleton.mp new] at holds
            contradiction
      · contradiction
  | lease j =>
      obtain ⟨other, leased, rfl⟩ := refers
      rw [FrameHub.leaseOf_set at_pc ops] at leased
      split at leased
      · next here =>
          obtain rfl := Option.some.inj leased
          exact .inl ⟨by rw [here], rfl⟩
      · exact .inr ⟨other, leased, rfl⟩
  | frame =>
      right
      unfold FrameHub.Refers at refers ⊢
      rwa [frames] at refers
  | clone =>
      right
      unfold FrameHub.Refers at refers ⊢
      rwa [clones] at refers
  | weak =>
      right
      unfold FrameHub.Refers at refers ⊢
      rw [weaks] at refers
      exact (List.mem_filter.mp refers).1

private theorem granted_refers (isolated : Isolated s) (at_pc : s.ops[i]? = some pc)
    (ops : t.ops = s.ops.set i (.converting job lease))
    (chosen : Pool.Chosen s.pool (s.unique raced) middle index slot)
    (slots : t.pool.slots = middle.slots.set index ⟨none, allocated⟩)
    (refitted : Refitted s.heap slot.data length (t.heap, lease.data))
    (frames : t.frames = s.frames) (clones : t.clones = s.clones)
    (weaks : t.weaks = s.weaks.filter (· != lease.data.arc)) (refers : t.Refers arc ref) :
    ref = .lease i ∧ arc = lease.data.arc ∨ s.Refers arc ref ∧ arc ≠ lease.data.arc := by
  rcases granted_kept at_pc ops chosen slots frames clones weaks refers with given | before
  · exact .inl given
  · by_cases here : ref = .lease i ∧ arc = lease.data.arc
    · exact .inl here
    · refine .inr ⟨before, ?_⟩
      rcases refitted.arc with reused | fresh
      · obtain ⟨data, holds, same⟩ := Option.map_eq_some_iff.mp reused
        rcases chosen.which with ⟨slots_eq, stored, holds', unique⟩ | ⟨_, _, rfl, _⟩
        · obtain rfl := Option.some.inj (holds.symm.trans holds')
          have found := chosen.found
          rw [slots_eq] at found slots
          obtain ⟨noLease, noFrame, noClone, noSlot⟩ :=
            @FrameHub.unique_alone s raced index allocated slot data found holds unique
          rw [← same]
          cases ref with
          | slot =>
              obtain ⟨other, member, stored, holds, rfl⟩ := refers
              rw [slots] at member
              exact noSlot other member stored holds
          | lease j =>
              obtain ⟨other, leased, rfl⟩ := before
              exact noLease j other leased
          | frame =>
              obtain ⟨f, exist, rfl⟩ := before
              exact noFrame f exist
          | clone =>
              rintro rfl
              exact noClone before
          | weak =>
              unfold FrameHub.Refers at refers
              rw [weaks] at refers
              rw [same]
              simpa using (List.mem_filter.mp refers).2
        · contradiction
      · rintro rfl
        exact absurd (isolated.inHeap _ ref before) (Nat.not_lt.mpr fresh)

theorem granted (isolated : Isolated s) (at_pc : s.ops[i]? = some pc)
    (ops : t.ops = s.ops.set i (.converting job lease))
    (chosen : Pool.Chosen s.pool (s.unique raced) middle index slot)
    (slots : t.pool.slots = middle.slots.set index ⟨none, allocated⟩)
    (refitted : Refitted s.heap slot.data length (t.heap, lease.data))
    (frames : t.frames = s.frames) (clones : t.clones = s.clones)
    (weaks : t.weaks = s.weaks.filter (· != lease.data.arc)) : Isolated t := by
  have others : ∀ arc ref, t.Refers arc ref →
      ref = .lease i ∧ arc = lease.data.arc ∨ s.Refers arc ref ∧ arc ≠ lease.data.arc :=
    fun arc ref refers =>
      isolated.granted_refers at_pc ops chosen slots refitted frames clones weaks refers
  constructor
  · intro arc ref refers
    rcases others arc ref refers with ⟨_, rfl⟩ | ⟨before, _⟩
    · exact refitted.inHeap
    · exact Nat.lt_of_lt_of_le (isolated.inHeap arc ref before) refitted.grows.next
  · rintro j held ⟨job', at_job⟩ ref refers
    have mine : t.Refers held.data.arc (.lease j) := by
      refine ⟨held, ?_, rfl⟩
      rw [FrameHub.leaseOf_at at_job]
      rfl
    rw [ops, FrameHub.getElem?_set_ops at_pc] at at_job
    split at at_job
    · next here =>
        obtain ⟨_, rfl⟩ := Pc.converting.inj (Option.some.inj at_job)
        rcases others _ ref refers with ⟨same, _⟩ | ⟨_, apart⟩
        · rw [same, here]
        · exact absurd rfl apart
    · next different =>
        rcases others _ ref refers with ⟨_, same⟩ | ⟨before, _⟩
        · rcases others _ _ mine with ⟨taken, _⟩ | ⟨_, apart⟩
          · exact absurd (Ref.lease.inj taken) different
          · exact absurd same apart
        · exact isolated.alone j held ⟨job', at_job⟩ ref before

end Grant

theorem access (isolated : Isolated s) (bounded : Bounded s) (at_pc : s.ops[i]? = some pc)
    (access : Access s pc u after) : Isolated { u with ops := s.ops.set i after } := by
  rcases access.grants_or_moves bounded at_pc with grants | moves
  · cases grants with
    | intro chosen slots refitted made =>
        exact isolated.granted at_pc rfl chosen slots refitted rfl rfl rfl
  · exact isolated.moved at_pc access moves

theorem outside (isolated : Isolated s) (pool : t.pool = s.pool) (heap : t.heap = s.heap)
    (leases : ∀ j lease, t.leaseOf j = some lease → s.leaseOf j = some lease)
    (writes : ∀ j lease, t.Writes j lease → s.Writes j lease)
    (frames : ∀ f ∈ t.frames, f ∈ s.frames)
    (clones : ∀ arc ∈ t.clones,
      arc ∈ s.clones ∨ arc ∈ s.weaks ∨ ∃ f ∈ s.frames, f.storage.arc = arc)
    (weaks : ∀ arc ∈ t.weaks, arc ∈ s.weaks ∨ arc ∈ s.clones) : Isolated t := by
  refine isolated.derived (Nat.le_of_eq (by rw [heap])) ?_ writes
  intro arc ref refers
  cases ref with
  | slot =>
      refine ⟨.slot, ?_, by simp⟩
      unfold FrameHub.Refers at refers ⊢
      rwa [pool] at refers
  | lease j =>
      obtain ⟨lease, leased, same⟩ := refers
      exact ⟨.lease j, ⟨lease, leases j lease leased, same⟩, fun _ same => .inl same⟩
  | frame =>
      obtain ⟨f, exist, same⟩ := refers
      exact ⟨.frame, ⟨f, frames f exist, same⟩, by simp⟩
  | clone =>
      rcases clones arc refers with clone | weak | frame
      · exact ⟨.clone, clone, by simp⟩
      · exact ⟨.weak, weak, by simp⟩
      · exact ⟨.frame, frame, by simp⟩
  | weak =>
      rcases weaks arc refers with weak | clone
      · exact ⟨.weak, weak, by simp⟩
      · exact ⟨.clone, clone, by simp⟩

theorem called (isolated : Isolated s) (entry : pc.Entry) :
    Isolated { s with ops := s.ops ++ [pc] } := by
  refine isolated.outside rfl rfl ?_ ?_ (fun _ exist => exist) (fun _ => .inl) (fun _ => .inl)
  · intro j lease leased
    rw [FrameHub.leaseOf, FrameHub.getElem?_append_ops] at leased
    split at leased
    · rw [Option.bind_some, entry.lease] at leased
      contradiction
    · exact leased
  · rintro j lease ⟨job, at_job⟩
    dsimp only at at_job
    rw [FrameHub.getElem?_append_ops] at at_job
    split at at_job
    · rw [Option.some.inj at_job] at entry
      cases entry
    · exact ⟨job, at_job⟩

theorem step {a : Action} (taken : s.step a = some t) (bounded : Bounded s)
    (isolated : Isolated s) : Isolated t := by
  have same : ∀ u : FrameHub, u.pool = s.pool → u.heap = s.heap → u.ops = s.ops →
      u.frames = s.frames → u.clones = s.clones → u.weaks = s.weaks → Isolated u := by
    intro u pool heap ops frames clones weaks
    refine isolated.outside pool heap ?_ ?_ ?_ ?_ ?_
    · simp [FrameHub.leaseOf, ops]
    · simp [FrameHub.Writes, ops]
    · simp [frames]
    · simp +contextual [clones]
    · simp +contextual [weaks]
  cases step_stepped taken with
  | called call => exact isolated.called (Call.entry_entry s.clock call)
  | ran at_pc access => exact isolated.access bounded at_pc access
  | flagged call =>
      refine same _ rfl rfl rfl ?_ rfl rfl
      cases call <;> rfl
  | raised flag => exact same _ rfl rfl rfl rfl rfl rfl
  | otherHub => exact same _ rfl rfl rfl rfl rfl rfl
  | ticked ns => exact same _ rfl rfl rfl rfl rfl rfl
  | consumed consumed =>
      have keeps := consumed.keeps
      have ops : t.ops = s.ops := by rw [keeps]
      refine isolated.outside (by rw [keeps]) (by rw [keeps]) ?_ ?_ consumed.frames
        consumed.clones consumed.weaks
      · simp [FrameHub.leaseOf, ops]
      · simp [FrameHub.Writes, ops]

theorem initially (start : machine.initial s) : Isolated s := by
  obtain ⟨capacity, drawn, rfl⟩ := start
  constructor
  · intro arc ref refers
    cases ref <;>
      simp [FrameHub.Refers, FrameHub.new, FrameHub.leaseOf, FrameHub.frames] at refers
  · rintro i lease ⟨job, at_pc⟩
    simp [FrameHub.new] at at_pc

theorem reachable {admits : FrameHub → Action → Prop} (reached : machine.Reachable admits s) :
    Isolated s :=
  reached.invariant_under (fun _ reached => Bounded.reachable reached)
    (fun _ start => initially start)
    fun _ _ _ _ bounded _ taken isolated => isolated.step taken bounded

end Isolated

/-! ### The bytes of retained frames -/

namespace FrameHub

variable {s t u : FrameHub} {i : OpId} {pc after : Pc} {arc : ArcId}

theorem Retains.lt_next (isolated : Isolated s) (retains : s.Retains arc) :
    arc < s.heap.next := by
  rcases retains with frame | clone
  · exact isolated.inHeap arc .frame frame
  · exact isolated.inHeap arc .clone clone

theorem Retains.not_written (isolated : Isolated s) (retains : s.Retains arc) {lease : Lease}
    (writes : s.Writes i lease) : lease.data.arc ≠ arc := by
  rintro rfl
  rcases retains with frame | clone
  · cases isolated.alone i lease writes .frame frame
  · cases isolated.alone i lease writes .clone clone

theorem Retains.not_chosen (retains : s.Retains arc) {raced : List ArcId} {middle : Pool}
    {index : Nat} {slot : Slot}
    (chosen : Pool.Chosen s.pool (s.unique raced) middle index slot) :
    slot.data.map (·.arc) ≠ some arc := by
  intro reused
  obtain ⟨data, holds, rfl⟩ := Option.map_eq_some_iff.mp reused
  rcases chosen.which with ⟨slots, stored, holds', unique⟩ | ⟨_, _, rfl, _⟩
  · obtain rfl := Option.some.inj (holds.symm.trans holds')
    have found := chosen.found
    rw [slots] at found
    obtain ⟨_, noFrame, noClone, _⟩ := @unique_alone s raced index 0 slot data found holds unique
    rcases retains with ⟨f, exist, same⟩ | clone
    · exact noFrame f exist same
    · exact noClone clone
  · contradiction

theorem access_buffers (isolated : Isolated s) (bounded : Bounded s)
    (at_pc : s.ops[i]? = some pc) (access : Access s pc u after) (retains : s.Retains arc) :
    u.heap.buffers arc = s.heap.buffers arc := by
  have old := retains.lt_next isolated
  rcases access.grants_or_moves bounded at_pc with grants | moves
  · cases grants with
    | intro chosen slots refitted made =>
        exact refitted.grows.buffers arc old (retains.not_chosen chosen)
  · rcases moves.heap with same | ⟨job, lease, bytes, rfl, _, same⟩
    · rw [same]
    · have apart := retains.not_written isolated ⟨job, at_pc⟩
      rw [same]
      exact (Heap.grows_store s.heap _ bytes).buffers arc old
        fun same => apart (Option.some.inj same)

private theorem step_buffers {a : Action} (isolated : Isolated s) (bounded : Bounded s)
    (taken : s.step a = some t) (retains : s.Retains arc) :
    t.heap.buffers arc = s.heap.buffers arc := by
  cases step_stepped taken with
  | ran at_pc access =>
      have same := access_buffers isolated bounded at_pc access retains
      exact same
  | consumed consumed => rw [consumed.keeps]
  | _ => rfl

end FrameHub

def CapturedFrame.bytes (f : CapturedFrame) (heap : Heap) : List UInt8 :=
  (heap.buffers f.storage.arc).bytes

/-- While something strong refers to the storage of a frame, no call may write it, no
reservation gets it, and its bytes stay as they are. -/
theorem retained_immutable {s : FrameHub} {f : CapturedFrame}
    (reached : machine.Reachable Lib.Machine.anything s) (retains : s.Retains f.storage.arc) :
    (∀ i lease, s.Writes i lease → lease.data.arc ≠ f.storage.arc) ∧
    (∀ raced job length t lease, s.reserve raced job length = (t, .converting job lease) →
      lease.data.arc ≠ f.storage.arc) ∧
    ∀ actions t, machine.Run (fun u _ => u.Retains f.storage.arc) s actions t →
      f.bytes t.heap = f.bytes s.heap := by
  have isolated : Isolated s := .reachable reached
  have bounded : Bounded s := .reachable reached
  refine ⟨fun i lease writes => retains.not_written isolated writes, ?_, ?_⟩
  · intro raced job length t lease granted same
    have booked := FrameHub.reserve_booked bounded.within raced job length
    generalize s.reserve raced job length = result at booked granted
    cases booked with
    | refused slots budget =>
        obtain ⟨answer, exhausted⟩ := exhausted_answers job
        rw [exhausted] at granted
        cases (Prod.mk.inj granted).2
    | granted chosen slots budget room large refitted here fits =>
        obtain ⟨_, rfl⟩ := Pc.converting.inj (Prod.mk.inj granted).2
        rcases refitted.arc with reused | fresh
        · exact retains.not_chosen chosen (by rw [reused, same])
        · rw [same] at fresh
          exact absurd (retains.lt_next isolated) (Nat.not_lt.mpr fresh)
  · intro actions t run
    have buffers : t.heap.buffers f.storage.arc = s.heap.buffers f.storage.arc := by
      induction run with
      | nil => rfl
      | @snoc middle finish actions action before held taken ih =>
          have there := reached.extend (before.mono fun _ _ _ => trivial)
          rw [FrameHub.step_buffers (.reachable there) (.reachable there) taken held, ih]
    rw [CapturedFrame.bytes, buffers]
    rfl

theorem retained_immutable_published :
    ∃ (s : FrameHub) (f : CapturedFrame),
      (machine.Reachable Lib.Machine.anything s ∧ s.Retains f.storage.arc) ∧
      ((∀ i lease, s.Writes i lease → lease.data.arc ≠ f.storage.arc) ∧
      (∀ raced job length t lease, s.reserve raced job length = (t, .converting job lease) →
        lease.data.arc ≠ f.storage.arc) ∧
      ∀ actions t, machine.Run (fun u _ => u.Retains f.storage.arc) s actions t →
        f.bytes t.heap = f.bytes s.heap) := by
  have passed : ((machine.exec (fun _ _ => true) (FrameHub.new 2) ([Action.call .start] ++
      List.replicate 4 (Action.run 0 {}) ++
      [Action.call (.publishRgb 1 1 1 none), .run 1 {}, .run 1 {},
        .run 1 { choice := .write [7, 8, 9] },
        .run 1 { choice := .finish 1 }, .run 1 {}, .latest])).any fun s =>
      decide (s.held.map (·.bytes s.heap) = [[7, 8, 9]])) = true := by
    decide +kernel
  obtain ⟨s, reached, held⟩ := Lib.Machine.Reachable.of_exec (machine_new 2) passed
  have anyhow := reached.mono fun _ _ _ => (trivial : Lib.Machine.anything _ _)
  cases frames : s.held with
  | nil => simp [frames] at held
  | cons f rest =>
      have exist : f ∈ s.frames :=
        FrameHub.mem_frames.mpr (.inr (.inr (by simp [frames])))
      have retains : s.Retains f.storage.arc := .inl ⟨f, exist, rfl⟩
      exact ⟨s, f, ⟨anyhow, retains⟩, retained_immutable anyhow retains⟩

end CameraRs.Frame

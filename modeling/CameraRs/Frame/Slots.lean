/-
Whether a reservation finds a slot.

Every slot that no call has out on a lease holds storage of its own. What keeps a slot from
being reused, while consumers hold nothing, is a frame in a queue or the latest frame.
-/

import CameraRs.Frame.Metrics
import CameraRs.Frame.Offers
import CameraRs.Frame.Retained

namespace CameraRs.Frame

variable {s t u : FrameHub} {i : OpId} {pc after : Pc} {arc : ArcId}

/-! ### Where storage is kept -/

def Slot.holds (arc : ArcId) (slot : Slot) : Bool := slot.data.any (·.arc == arc)

def Pc.holds (arc : ArcId) (pc : Pc) : Bool := pc.lease.any (·.data.arc == arc)

/-- In how many slots and leases an allocation is. -/
def FrameHub.houses (s : FrameHub) (arc : ArcId) : Nat :=
  s.pool.slots.countP (Slot.holds arc) + s.ops.countP (Pc.holds arc)

theorem Slot.holds_iff {slot : Slot} :
    slot.holds arc = true ↔ ∃ data, slot.data = some data ∧ data.arc = arc := by
  simp [Slot.holds, Option.any_eq_true]

theorem Pc.holds_iff : pc.holds arc = true ↔ ∃ lease, pc.lease = some lease ∧
    lease.data.arc = arc := by
  simp [Pc.holds, Option.any_eq_true]

theorem houses_fresh (isolated : Isolated s) (fresh : s.heap.next ≤ arc) : s.houses arc = 0 := by
  have noSlot : s.pool.slots.countP (Slot.holds arc) = 0 := by
    rw [List.countP_eq_zero]
    intro slot member holding
    obtain ⟨data, holds, same⟩ := Slot.holds_iff.mp holding
    have old := isolated.inHeap arc .slot ⟨slot, member, data, holds, same⟩
    exact absurd old (Nat.not_lt.mpr fresh)
  have noLease : s.ops.countP (Pc.holds arc) = 0 := by
    rw [List.countP_eq_zero]
    intro pc member holding
    obtain ⟨lease, holds, same⟩ := Pc.holds_iff.mp holding
    obtain ⟨j, at_pc⟩ := List.mem_iff_getElem?.mp member
    have old := isolated.inHeap arc (.lease j)
      ⟨lease, by rw [FrameHub.leaseOf_at at_pc, holds], same⟩
    exact absurd old (Nat.not_lt.mpr fresh)
  rw [FrameHub.houses, noSlot, noLease]

/-- No storage is in two places, and an empty slot is out on a lease. -/
structure Housed (s : FrameHub) : Prop where
  once : ∀ arc, s.houses arc ≤ 1
  leased : ∀ (k : Nat) (slot : Slot), s.pool.slots[k]? = some slot → slot.data = none →
    ∃ i lease, s.leaseOf i = some lease ∧ lease.index = k

namespace Housed

theorem quiet (housed : Housed s) (at_pc : s.ops[i]? = some pc)
    (moved : t.ops = s.ops.set i after) (slots : t.pool.slots = s.pool.slots)
    (lease : after.lease = pc.lease) : Housed t where
  once arc := by
    have same : after.holds arc = pc.holds arc := by rw [Pc.holds, Pc.holds, lease]
    have counted := countP_set_add (p := Pc.holds arc) at_pc after
    have before := housed.once arc
    rw [FrameHub.houses, moved, slots]
    rw [FrameHub.houses] at before
    rw [same] at counted
    omega
  leased k slot found empty := by
    rw [slots] at found
    obtain ⟨j, held, leased, here⟩ := housed.leased k slot found empty
    refine ⟨j, held, ?_, here⟩
    rw [FrameHub.leaseOf_set at_pc moved]
    split
    · next same => rw [lease, ← leased, same, FrameHub.leaseOf_at at_pc]
    · exact leased

theorem granted (housed : Housed s) (isolated : Isolated s) {unique : Storage → Bool}
    {middle : Pool} {heap : Heap} {index allocated length : Nat} {slot : Slot} {job : Job}
    {lease : Lease} (at_pc : s.ops[i]? = some pc) (idle : pc.lease = none)
    (moved : t.ops = s.ops.set i (.converting job lease))
    (chosen : Pool.Chosen s.pool unique middle index slot)
    (slots : t.pool.slots = middle.slots.set index ⟨none, allocated⟩)
    (refitted : Refitted s.heap slot.data length (heap, lease.data))
    (here : lease.index = index) : Housed t where
  once arc := by
    have before := housed.once arc
    have leases := countP_set_add (p := Pc.holds arc) at_pc (.converting job lease)
    have stored := countP_set_add (p := Slot.holds arc) chosen.found ⟨none, allocated⟩
    have nothing : pc.holds arc = false := by rw [Pc.holds, idle]; rfl
    have emptied : Slot.holds arc ⟨none, allocated⟩ = false := rfl
    have kept : middle.slots.countP (Slot.holds arc) = s.pool.slots.countP (Slot.holds arc) := by
      rcases chosen.which with ⟨same, _⟩ | ⟨appended, _⟩
      · rw [same]
      · rw [appended, List.countP_append]
        rfl
    rw [nothing] at leases
    rw [emptied, kept] at stored
    rw [FrameHub.houses, moved, slots]
    by_cases mine : lease.data.arc = arc
    · rcases refitted.arc with reused | fresh
      · have held : slot.holds arc = true := by
          obtain ⟨data, holds, same⟩ := Option.map_eq_some_iff.mp reused
          exact Slot.holds_iff.mpr ⟨data, holds, same.trans mine⟩
        rw [FrameHub.houses] at before
        rw [held] at stored
        simp only [Bool.false_eq_true, if_false, if_true] at stored leases
        split at leases <;> omega
      · rw [mine] at fresh
        have none_before := houses_fresh isolated fresh
        rw [FrameHub.houses] at none_before
        simp only [Bool.false_eq_true, if_false] at stored leases
        split at leases <;> split at stored <;> omega
    · have other : Pc.holds arc (.converting job lease) = false := by
        simp [Pc.holds, Pc.lease, mine]
      rw [FrameHub.houses] at before
      rw [other] at leases
      simp only [Bool.false_eq_true, if_false] at stored leases
      split at stored <;> omega
  leased k other found empty := by
    by_cases taken : k = index
    · refine ⟨i, lease, ?_, here.trans taken.symm⟩
      rw [FrameHub.leaseOf_set at_pc moved, if_pos rfl]
      rfl
    · rw [slots, List.getElem?_set_ne (Ne.symm taken)] at found
      have old : s.pool.slots[k]? = some other := by
        rcases chosen.which with ⟨same, _⟩ | ⟨appended, last, _, _⟩
        · rwa [same] at found
        · rw [appended] at found
          have inside := (List.getElem?_eq_some_iff.mp found).1
          rw [List.length_append, List.length_singleton] at inside
          rwa [List.getElem?_append_left (by omega)] at found
      obtain ⟨j, held, leased, there⟩ := housed.leased k other old empty
      refine ⟨j, held, ?_, there⟩
      rw [FrameHub.leaseOf_set at_pc moved]
      split
      · next same =>
          rw [same, FrameHub.leaseOf_at at_pc, idle] at leased
          contradiction
      · exact leased

theorem released (housed : Housed s) (bounded : Bounded s) {lease : Lease} {answer : Answer}
    (at_pc : s.ops[i]? = some (.releasing lease answer))
    (moved : t.ops = s.ops.set i (.returned answer)) (pool : t.pool = s.pool.release lease) :
    Housed t := by
  have leased : s.leaseOf i = some lease := FrameHub.leaseOf_at at_pc
  obtain ⟨slot, found, empty, _⟩ := bounded.leased i lease leased
  have slots : t.pool.slots = s.pool.slots.set lease.index ⟨some lease.data, slot.bytes⟩ := by
    rw [pool, Pool.slots_release found]
  constructor
  · intro arc
    have before := housed.once arc
    have leases := countP_set_add (p := Pc.holds arc) at_pc (.returned answer)
    have stored := countP_set_add (p := Slot.holds arc) found ⟨some lease.data, slot.bytes⟩
    have nothing : slot.holds arc = false := by rw [Slot.holds, empty]; rfl
    have gone : Pc.holds arc (.returned answer) = false := rfl
    have same : Slot.holds arc ⟨some lease.data, slot.bytes⟩ =
        Pc.holds arc (.releasing lease answer) := rfl
    rw [FrameHub.houses] at before
    rw [nothing, same] at stored
    rw [gone] at leases
    rw [FrameHub.houses, moved, slots]
    simp only [Bool.false_eq_true, if_false] at stored leases
    omega
  · intro k other found' empty'
    have apart : k ≠ lease.index := by
      rintro rfl
      rw [slots, List.getElem?_set_self (List.getElem?_eq_some_iff.mp found).1] at found'
      obtain rfl := Option.some.inj found'
      contradiction
    rw [slots, List.getElem?_set_ne (Ne.symm apart)] at found'
    obtain ⟨j, held, there, here⟩ := housed.leased k other found' empty'
    refine ⟨j, held, ?_, here⟩
    rw [FrameHub.leaseOf_set at_pc moved]
    split
    · next same =>
        rw [same, leased] at there
        obtain rfl := Option.some.inj there
        exact absurd here.symm apart
    · exact there

theorem configured (housed : Housed s) (bounded : Bounded s) {request : StreamRequest}
    {answer : Answer} (at_pc : s.ops[i]? = some (.configurePool request))
    (moved : t.ops = s.ops.set i (.returned answer)) (unique : Storage → Bool)
    (pool : t.pool = (s.pool.configure unique request.memory).2) : Housed t := by
  rcases @Pool.configure_slots s.pool unique request.memory with same | ⟨filled, sub, _⟩
  · exact housed.quiet at_pc moved (by rw [pool, same]) rfl
  · rw [← pool] at sub
    constructor
    · intro arc
      have before := housed.once arc
      have fewer := sub.countP_le (p := Slot.holds arc)
      have leases := countP_set_add (p := Pc.holds arc) at_pc (.returned answer)
      have nothing : Pc.holds arc (.configurePool request) = false := rfl
      have gone : Pc.holds arc (.returned answer) = false := rfl
      rw [nothing, gone] at leases
      rw [FrameHub.houses] at before
      rw [FrameHub.houses, moved]
      omega
    · intro k slot found empty
      have member := sub.subset (List.mem_of_getElem? found)
      exact absurd (filled slot member empty)
        (Nat.ne_of_gt (bounded.within.positive slot member))

theorem access (housed : Housed s) (bounded : Bounded s) (isolated : Isolated s)
    (at_pc : s.ops[i]? = some pc) (access : Access s pc t after) :
    Housed { t with ops := s.ops.set i after } := by
  cases access with
  | @reserved job length raced unlocked current =>
      have booked := FrameHub.reserve_booked bounded.within raced job length
      generalize s.reserve raced job length = result at booked ⊢
      cases booked with
      | refused slots budget => exact housed.quiet at_pc rfl slots (exhausted_lease job)
      | granted chosen slots budget room large refitted here fits made =>
          exact housed.granted isolated at_pc rfl rfl chosen slots refitted here
  | released unlocked => exact housed.released bounded at_pc rfl rfl
  | configured raced native answer unlocked =>
      exact housed.configured bounded at_pc rfl (s.unique raced) rfl
  | @lookRefused job stale => exact housed.quiet at_pc rfl rfl (exhausted_lease job)
  | @poolRefused job length stale => exact housed.quiet at_pc rfl rfl (exhausted_lease job)
  | recordRefused => exact housed.quiet at_pc rfl rfl (recorded_lease _)
  | woken => exact housed.quiet at_pc rfl rfl (recorded_lease _)
  | @charged session activity failed after unlocked goes =>
      have slots := (@Pool.slots_chargeError s.pool activity s.clock).1
      rcases goes with rfl | rfl
      · exact housed.quiet at_pc rfl slots rfl
      · exact housed.quiet at_pc rfl slots (recorded_lease failed)
  | budgetRead goes =>
      rcases goes with rfl | ⟨error, rfl⟩
      · exact housed.quiet at_pc rfl rfl rfl
      · exact housed.quiet at_pc rfl rfl rfl
  | _ => exact housed.quiet at_pc rfl rfl rfl

theorem unchanged (housed : Housed s) (slots : t.pool.slots = s.pool.slots)
    (ops : t.ops = s.ops) : Housed t where
  once arc := by
    rw [FrameHub.houses, slots, ops]
    exact housed.once arc
  leased k slot found empty := by
    rw [slots] at found
    obtain ⟨j, held, leased, here⟩ := housed.leased k slot found empty
    refine ⟨j, held, ?_, here⟩
    rw [FrameHub.leaseOf, ops]
    exact leased

theorem called (housed : Housed s) (entry : pc.Entry) (slots : t.pool.slots = s.pool.slots)
    (ops : t.ops = s.ops ++ [pc]) : Housed t where
  once arc := by
    have before := housed.once arc
    have nothing : [pc].countP (Pc.holds arc) = 0 := by
      simp [Pc.holds, entry.lease]
    rw [FrameHub.houses] at before
    rw [FrameHub.houses, slots, ops, List.countP_append, nothing]
    exact before
  leased k slot found empty := by
    rw [slots] at found
    obtain ⟨j, held, leased, here⟩ := housed.leased k slot found empty
    obtain ⟨other, at_other, holds⟩ := Option.bind_eq_some_iff.mp leased
    refine ⟨j, held, ?_, here⟩
    have inside := (List.getElem?_eq_some_iff.mp at_other).1
    rw [FrameHub.leaseOf, ops, List.getElem?_append_left inside]
    exact leased

theorem step {a : Action} (taken : s.step a = some t) (bounded : Bounded s)
    (isolated : Isolated s) (housed : Housed s) : Housed t := by
  cases step_stepped taken with
  | called call => exact housed.called (Call.entry_entry s.clock call) rfl rfl
  | ran at_pc access => exact housed.access bounded isolated at_pc access
  | flagged call => exact housed.unchanged rfl rfl
  | raised flag => exact housed.unchanged rfl rfl
  | otherHub => exact housed.unchanged rfl rfl
  | ticked ns => exact housed.unchanged rfl rfl
  | consumed consumed =>
      have keeps := consumed.keeps
      exact housed.unchanged (by rw [keeps]) (by rw [keeps])

theorem initially (start : machine.initial s) : Housed s := by
  obtain ⟨capacity, drawn, rfl⟩ := start
  exact ⟨fun arc => Nat.zero_le 1, fun k slot found => by simp [FrameHub.new] at found⟩

theorem reachable {admits : FrameHub → Action → Prop} (reached : machine.Reachable admits s) :
    Housed s :=
  reached.invariant_under
    (fun _ reached => And.intro (Bounded.reachable reached) (Isolated.reachable reached))
    (fun _ start => initially start)
    fun _ _ _ _ known _ taken housed => housed.step taken known.1 known.2

end Housed

/-! ### What queues keep -/

/-- A receiver within its bound. Without a maximum rate, a queue that keeps the newest frames
ends with the latest one. -/
structure Follows (latest : Option CapturedFrame) (r : Receiver) : Prop where
  room : 0 < r.delivery.policy.capacity
  fits : r.queue.length ≤ r.delivery.policy.capacity
  gone : r.registered = false ∨ r.alive = false → r.queue = []
  newest : r.maxRate = none → r.delivery.policy.overflow = .keepNewest →
    ∀ f, latest = some f → r.queue = [] ∨ r.queue.getLast? = some f

namespace Follows

variable {latest : Option CapturedFrame} {r r' : Receiver} {f : CapturedFrame}

theorem loses (follows : Follows latest r) (loses : r.Loses r')
    {later : Option CapturedFrame} (same : ∀ f, later = some f → latest = some f) :
    Follows later r' where
  room := by
    rw [loses.delivery]
    exact follows.room
  fits := by
    rw [loses.delivery]
    exact Nat.le_trans loses.queue.length_le follows.fits
  gone ended := by
    rcases loses.gone ended with empty | before
    · exact empty
    · have suffix := loses.queue
      rw [follows.gone before] at suffix
      exact List.suffix_nil.mp suffix
  newest unlimited keeps f now := by
    have rate : r'.maxRate = r.maxRate := congrArg Prod.fst loses.rate
    rw [rate] at unlimited
    rw [loses.delivery] at keeps
    obtain ⟨front, split⟩ := loses.queue
    by_cases empty : r'.queue = []
    · exact .inl empty
    · right
      rcases follows.newest unlimited keeps f (same f now) with none | last
      · rw [none] at split
        exact absurd (List.append_eq_nil_iff.mp split).2 empty
      · rwa [← split, List.getLast?_append_of_ne_nil _ empty] at last

theorem opened {options : SubscriptionOptions}
    (room : 0 < options.delivery.policy.capacity) {later : Option CapturedFrame}
    (same : ∀ f, later = some f → latest = some f) :
    Follows later (.opened options latest) where
  room := room
  fits := by
    cases latest with
    | none => exact Nat.zero_le _
    | some f => exact room
  gone ended := by
    rcases ended with impossible | impossible
    · contradiction
    · contradiction
  newest _ _ f now := by
    right
    rw [same f now]
    rfl

theorem enqueue (follows : Follows latest r) (listening : r.registered = true ∧ r.alive = true) :
    Follows (some f) (r.enqueue f) := by
  have kept := @Receiver.enqueue_keeps r f follows.room follows.fits
  refine ⟨?_, ?_, ?_, ?_⟩
  · rw [kept]
    exact follows.room
  · rw [kept]
    dsimp only
    rw [Lib.QueuePolicy.keep_length]
    exact Nat.min_le_right _ _
  · rw [kept]
    intro ended
    dsimp only at ended
    rw [listening.1, listening.2] at ended
    simp at ended
  · intro unlimited keeps g now
    obtain rfl := Option.some.inj now
    rw [kept] at keeps
    refine .inr (Receiver.enqueue_last ?_)
    unfold Receiver.refuses
    split
    · next capacity delivery =>
        rw [delivery] at keeps
        contradiction
    · rfl

theorem offer (follows : Follows latest r) (raised : List FlagId) :
    Follows (some f) (r.offer raised f) := by
  cases listening : r.listens raised with
  | false =>
      obtain ⟨loses, ended⟩ := @Receiver.offer_deaf r raised f listening
      have after := @Follows.loses _ _ _ follows loses none (fun f impossible => by contradiction)
      have empty := after.gone (.inl ended)
      exact ⟨after.room, after.fits, after.gone, fun _ _ _ _ => .inl empty⟩
  | true =>
      cases early : r.tooEarly f with
      | true =>
          rw [Receiver.offer_early listening early]
          refine ⟨follows.room, follows.fits, follows.gone, fun unlimited => ?_⟩
          have limited : r.maxRate = none := unlimited
          rw [Receiver.tooEarly, limited] at early
          contradiction
      | false =>
          obtain ⟨last, same⟩ := Receiver.offer_open listening early
          rw [same]
          simp only [Receiver.listens, Bool.and_eq_true] at listening
          have before : Follows latest { r with lastEnqueued := last } :=
            ⟨follows.room, follows.fits, follows.gone, follows.newest⟩
          exact before.enqueue listening.1

theorem step {a : Action} (taken : s.step a = some t)
    (checked : ∀ (i : OpId) (options : SubscriptionOptions),
      s.ops[i]? = some (.subscribePush options) →
      0 < options.delivery.policy.capacity)
    (follow : ∀ r ∈ s.receivers, Follows s.state.latest r) :
    ∀ r ∈ t.receivers, Follows t.state.latest r := by
  intro r' member
  rcases step_offers taken with ⟨f, offers⟩ | ⟨_, calm⟩
  · rw [offers.receivers] at member
    obtain ⟨r, before, rfl⟩ := List.mem_map.mp member
    rw [offers.latest]
    exact (follow r before).offer s.raised
  · obtain ⟨id, present⟩ := List.mem_iff_getElem?.mp member
    cases before : s.receivers[id]? with
    | some r =>
        obtain ⟨r'', after, loses⟩ := calm.old id r before
        obtain rfl := Option.some.inj (after.symm.trans present)
        exact (follow r (List.mem_of_getElem? before)).loses loses calm.latest
    | none =>
        obtain ⟨i, options, at_pc, rfl⟩ := calm.fresh id r' before present
        exact .opened (checked i options at_pc) calm.latest

theorem reachable (reached : machine.Reachable Lib.Machine.anything s) :
    ∀ r ∈ s.receivers, Follows s.state.latest r := by
  refine reached.invariant_under
    (P := fun s => ∀ (i : OpId) (options : SubscriptionOptions),
      s.ops[i]? = some (.subscribePush options) →
      0 < options.delivery.policy.capacity)
    (fun s reached i options at_pc => subscribing_checked reached at_pc) ?_
    (fun s a t _ checked _ taken follow => step taken checked follow)
  rintro s ⟨capacity, drawn, rfl⟩ r member
  contradiction

end Follows

/-! ### Reservations -/

theorem choose_none {pool : Pool} {unique : Storage → Bool} (none : pool.choose unique = none) :
    (∀ slot ∈ pool.slots, slot.data.any unique = false) ∧
      pool.budget.buffers ≤ pool.slots.length := by
  unfold Pool.choose at none
  split at none
  · contradiction
  · next kept =>
      split at none
      · contradiction
      · next full => exact ⟨List.findIdx?_eq_none_iff.mp kept, Nat.le_of_not_lt full⟩

private theorem frame_of_kept (housed : Housed s) (clones : s.clones = []) {slot : Slot}
    (member : slot ∈ s.pool.slots) {data : Storage} (holds : slot.data = some data)
    (kept : s.unique [] data = false) : ∃ f ∈ s.frames, f.storage.arc = data.arc := by
  have once := housed.once data.arc
  have stored : 0 < s.pool.slots.countP (Slot.holds data.arc) :=
    List.countP_pos_iff.mpr ⟨slot, member, Slot.holds_iff.mpr ⟨data, holds, rfl⟩⟩
  have shared : s.strongCount data.arc ≠ 1 := by
    intro one
    rw [FrameHub.unique, one] at kept
    contradiction
  have counted : s.strongCount data.arc = s.houses data.arc +
      s.frames.dedup.countP (·.storage.arc == data.arc) := by
    rw [FrameHub.strongCount, clones, List.count_nil]
    rfl
  have some_frame : 0 < s.frames.dedup.countP (·.storage.arc == data.arc) := by
    rw [FrameHub.houses] at once counted
    omega
  obtain ⟨f, exist, same⟩ := List.countP_pos_iff.mp some_frame
  exact ⟨f, List.mem_dedup.mp exist, by simpa using same⟩

def FrameHub.keeps (s : FrameHub) (arc : ArcId) : Bool := s.frames.any (·.storage.arc == arc)

/-- How many calls have a buffer that is not the one of a frame: those that are writing
one, and those on their way to give it back. -/
def FrameHub.writing (s : FrameHub) : Nat :=
  s.ops.countP fun pc => pc.lease.any fun lease => !s.keeps lease.data.arc

private theorem leases_length (s : FrameHub) : (s.ops.filterMap Pc.lease).length = s.writing +
    ((s.ops.filterMap Pc.lease).filter fun lease => s.keeps lease.data.arc).length := by
  have apart : s.writing =
      (s.ops.filterMap Pc.lease).countP fun lease => !s.keeps lease.data.arc := by
    rw [FrameHub.writing, List.countP_filterMap]
    refine List.countP_congr fun pc _ => ?_
    cases pc.lease <;> simp
  rw [apart, ← List.countP_eq_length_filter,
    List.length_eq_countP_add_countP fun lease : Lease => s.keeps lease.data.arc, Nat.add_comm]
  simp only [Bool.not_eq_true, Bool.decide_eq_false]

private theorem empty_slots_le (housed : Housed s) :
    s.pool.slots.countP (·.data.isNone) ≤ (s.ops.filterMap Pc.lease).length := by
  let empties := s.pool.slots.zipIdx.filter (·.1.data.isNone)
  have same : s.pool.slots.countP (·.data.isNone) = (empties.map Prod.snd).length := by
    rw [List.length_map, ← List.countP_eq_length_filter]
    conv => lhs; rw [← List.zipIdx_map_fst 0 s.pool.slots]
    rw [List.countP_map]
    rfl
  have distinct : (empties.map Prod.snd).Nodup := by
    have all : (s.pool.slots.zipIdx.map Prod.snd).Nodup := by
      rw [List.zipIdx_map_snd]
      exact List.nodup_range'
    exact all.sublist (List.filter_sublist.map Prod.snd)
  have leased : empties.map Prod.snd ⊆ (s.ops.filterMap Pc.lease).map Lease.index := by
    intro k member
    obtain ⟨⟨slot, index⟩, chosen, rfl⟩ := List.mem_map.mp member
    obtain ⟨present, empty⟩ := List.mem_filter.mp chosen
    have found := List.mem_zipIdx_iff_getElem?.mp present
    obtain ⟨i, lease, held, here⟩ :=
      housed.leased index slot found (Option.isNone_iff_eq_none.mp empty)
    obtain ⟨pc, at_pc, holds⟩ := Option.bind_eq_some_iff.mp held
    exact List.mem_map.mpr
      ⟨lease, List.mem_filterMap.mpr ⟨pc, List.mem_of_getElem? at_pc, holds⟩, here⟩
  rw [same]
  have fewer := (List.subperm_of_subset distinct leased).length_le
  rwa [List.length_map (f := Lease.index)] at fewer

/-- When no slot is reusable, each one is out on a lease or holds a frame, and leases of
published frames count once with them. -/
private theorem slots_used (housed : Housed s) (clones : s.clones = [])
    (kept : ∀ slot ∈ s.pool.slots, slot.data.any (s.unique []) = false) :
    s.pool.slots.length ≤ s.writing + s.frames.dedup.length := by
  let stored := s.pool.slots.filterMap fun slot => slot.data.map Storage.arc
  let delivered := (s.ops.filterMap Pc.lease).filter fun lease => s.keeps lease.data.arc
  let leased := delivered.map fun lease => lease.data.arc
  have split : s.pool.slots.length = stored.length + s.pool.slots.countP (·.data.isNone) := by
    rw [List.length_filterMap_eq_countP,
      List.length_eq_countP_add_countP fun slot : Slot => slot.data.isSome]
    congr 1
    · refine List.countP_congr fun slot _ => ?_
      cases slot.data <;> simp
    · refine List.countP_congr fun slot _ => ?_
      cases slot.data <;> simp
  have distinct : (stored ++ leased).Nodup := by
    rw [List.nodup_iff_count_le_one]
    intro arc
    have once := housed.once arc
    have slots : stored.count arc = s.pool.slots.countP (Slot.holds arc) := by
      rw [List.count_filterMap]
      refine List.countP_congr fun slot _ => ?_
      cases holds : slot.data <;> simp [Slot.holds, holds]
    have calls : leased.count arc ≤ s.ops.countP (Pc.holds arc) := by
      have sub : leased.Sublist ((s.ops.filterMap Pc.lease).map fun lease => lease.data.arc) :=
        List.filter_sublist.map _
      refine Nat.le_trans (sub.count_le arc) (Nat.le_of_eq ?_)
      rw [List.count_eq_countP, List.countP_map, List.countP_filterMap]
      refine List.countP_congr fun pc _ => ?_
      cases holds : pc.lease <;> simp [Pc.holds, holds]
    rw [FrameHub.houses] at once
    rw [List.count_append]
    omega
  have owned : stored ++ leased ⊆ s.frames.dedup.map (·.storage.arc) := by
    intro arc member
    rcases List.mem_append.mp member with inSlot | onLease
    · obtain ⟨slot, there, some_data⟩ := List.mem_filterMap.mp inSlot
      obtain ⟨data, holds, rfl⟩ := Option.map_eq_some_iff.mp some_data
      have shared : s.unique [] data = false := by
        have any := kept slot there
        rw [holds] at any
        exact any
      obtain ⟨f, exist, same⟩ := frame_of_kept housed clones there holds shared
      exact List.mem_map.mpr ⟨f, List.mem_dedup.mpr exist, same⟩
    · obtain ⟨lease, there, rfl⟩ := List.mem_map.mp onLease
      have keeps := (List.mem_filter.mp there).2
      obtain ⟨f, exist, same⟩ := List.any_eq_true.mp keeps
      exact List.mem_map.mpr ⟨f, List.mem_dedup.mpr exist, by simpa using same⟩
  have fewer := (List.subperm_of_subset distinct owned).length_le
  have empties := empty_slots_le housed
  have leases := leases_length s
  rw [List.length_append, List.length_map, List.length_map] at fewer
  change _ = _ + delivered.length at leases
  omega

/-- The reservation gives a buffer out, and counts no drop. -/
def FrameHub.Grants (s : FrameHub) (raced : List ArcId) (job : Job) (length : Nat) : Prop :=
  (∃ lease, (s.reserve raced job length).2 = .converting job lease) ∧
    (s.reserve raced job length).1.pool.metrics.poolDrops = s.pool.metrics.poolDrops

/-- The byte budget has room for a frame of this length in every slot. -/
def Pool.Affords (pool : Pool) (length : Nat) : Prop :=
  ∃ most, length ≤ most ∧ (∀ slot ∈ pool.slots, slot.bytes ≤ most) ∧
    pool.budget.buffers * most ≤ pool.budget.bytes

theorem Pool.Chosen.room {pool middle : Pool} {unique : Storage → Bool} {index : Nat}
    {slot : Slot} (chosen : Pool.Chosen pool unique middle index slot)
    (buffers : pool.slots.length ≤ pool.budget.buffers) {length : Nat}
    (affords : pool.Affords length) : length ≤ middle.available slot := by
  obtain ⟨most, fits, each, total⟩ := affords
  have every : ∀ other ∈ middle.slots, other.bytes ≤ most := by
    intro other member
    rcases chosen.which with ⟨same, _⟩ | ⟨appended, _⟩
    · rw [same] at member
      exact each other member
    · rw [appended] at member
      rcases List.mem_append.mp member with old | new
      · exact each other old
      · rw [List.mem_singleton.mp new]
        exact Nat.zero_le _
  have bounded : middle.slots.length ≤ pool.budget.buffers := by
    rcases chosen.which with ⟨same, _⟩ | ⟨appended, _, _, space⟩
    · rwa [same]
    · rw [appended, List.length_append]
      exact space
  have filled := @Pool.used_set _ _ _ ⟨none, most⟩ chosen.found
  have sum : ((middle.slots.set index ⟨none, most⟩).map (·.bytes)).sum ≤
      middle.slots.length * most := by
    have least := List.sum_le_card_nsmul ((middle.slots.set index ⟨none, most⟩).map (·.bytes))
      most (by
        intro bytes member
        obtain ⟨other, there, rfl⟩ := List.mem_map.mp member
        rcases List.mem_or_eq_of_mem_set there with old | rfl
        · exact every other old
        · exact Nat.le_refl _)
    simpa using least
  have capped := Nat.mul_le_mul_right most bounded
  have used : middle.used = (middle.slots.map (·.bytes)).sum := rfl
  have part := Pool.bytes_le_used chosen.found
  rw [Pool.available, chosen.budget]
  dsimp only at filled
  omega

theorem grants_of_choose (bounded : Bounded s) {raced : List ArcId} {job : Job} {length : Nat}
    (affords : s.pool.Affords length)
    (finds : ((s.pool.receive s.clock).choose (s.unique raced)).isSome = true) :
    s.Grants raced job length := by
  have within : (s.pool.receive s.clock).WithinBudget s.heap :=
    ⟨bounded.within.buffers, bounded.within.bytes, bounded.within.positive, bounded.within.fits⟩
  obtain ⟨⟨middle, index⟩, picked⟩ := Option.isSome_iff_exists.mp finds
  obtain ⟨slot, chosen⟩ := Pool.choose_chosen picked
  have room := chosen.room within.buffers affords
  have available : middle.available slot = (s.pool.receive s.clock).budget.bytes -
      ((s.pool.receive s.clock).used - slot.bytes) := by
    rw [Pool.available, chosen.budget, chosen.used]
  rw [available] at room
  have fits := (@Pool.Chosen.allocated _ _ within _ _ _ _ _ job.layout job.rgb chosen room).2.1
  have granted : ∃ lease, (s.reserve raced job length).2 = .converting job lease := by
    unfold FrameHub.reserve Pool.reserve
    dsimp only
    rw [picked]
    dsimp only
    unfold Pool.take
    simp only [chosen.found, Option.getD_some, available, if_neg (Nat.not_lt.mpr room),
      if_neg (Nat.not_lt.mpr fits)]
    exact ⟨_, rfl⟩
  refine ⟨granted, ?_⟩
  rcases s.reserve_metrics raced job length with ⟨_, _, metrics⟩ | ⟨refused, _⟩
  · rw [metrics]
    rfl
  · obtain ⟨lease, granted⟩ := granted
    obtain ⟨answer, answers⟩ := exhausted_answers job
    rw [refused, answers] at granted
    contradiction

/-- A reservation in a run with one subscriber that was admitted with these options, while
consumers hold no frame and no pixels. -/
structure Lone (options : SubscriptionOptions) (raced : List ArcId) (s : FrameHub) : Prop where
  single : s.receivers.length ≤ 1
  subscribed : ∀ r ∈ s.receivers,
    r.delivery = options.delivery ∧ r.maxRate = options.maxRate
  budget : s.pool.budget.validate = .ok ()
  valid : options.validate s.pool.budget = .ok ()
  unheld : s.held = [] ∧ s.clones = [] ∧ raced = []

/-- The buffers suffice for the frames that are being written and those that are kept; or
the queue keeps the newest frames and, when it is full, still leaves as many buffers as
are being written and one more. -/
def LeavesSlot (options : SubscriptionOptions) (s : FrameHub) : Prop :=
  s.writing + s.frames.dedup.length < s.pool.budget.buffers ∨
    options.maxRate = none ∧ options.delivery.policy.overflow = .keepNewest ∧
      s.writing + options.delivery.policy.capacity < s.pool.budget.buffers

private theorem two_le_buffers {budget : MemoryBudget} (sound : budget.validate = .ok ()) :
    2 ≤ budget.buffers := by
  unfold MemoryBudget.validate at sound
  split at sound
  · contradiction
  · omega

private theorem capacity_lt {options : SubscriptionOptions} {budget : MemoryBudget}
    (sound : budget.validate = .ok ()) (valid : options.validate budget = .ok ()) :
    options.delivery.policy.capacity < budget.buffers := by
  have two := two_le_buffers sound
  unfold SubscriptionOptions.validate at valid
  split at valid
  · next capacity overflow delivery =>
      split at valid
      · contradiction
      · next fits =>
          have below : capacity < budget.buffers := by omega
          rw [delivery]
          cases overflow with
          | dropOldest => exact below
          | dropNewest => exact below
  · next delivery =>
      rw [delivery]
      exact two

private theorem capacity_pos {options : SubscriptionOptions} {budget : MemoryBudget}
    (valid : options.validate budget = .ok ()) : 0 < options.delivery.policy.capacity := by
  unfold SubscriptionOptions.validate at valid
  split at valid
  · next capacity overflow delivery =>
      split at valid
      · contradiction
      · next fits =>
          have above : 0 < capacity := by omega
          rw [delivery]
          cases overflow with
          | dropOldest => exact above
          | dropNewest => exact above
  · next delivery =>
      rw [delivery]
      exact Nat.one_pos

/-- What `validate` admits leaves a slot as long as no other frame is being written. -/
theorem leaves_unwritten {options : SubscriptionOptions} {raced : List ArcId}
    (lone : Lone options raced s) (unlimited : options.maxRate = none)
    (keeps : options.delivery.policy.overflow = .keepNewest) (alone : s.writing = 0) :
    LeavesSlot options s := by
  refine .inr ⟨unlimited, keeps, ?_⟩
  rw [alone, Nat.zero_add]
  exact capacity_lt lone.budget lone.valid

private theorem dedup_length_le {frames : List CapturedFrame}
    (covers : ∀ f ∈ s.frames, f ∈ frames) : s.frames.dedup.length ≤ frames.length :=
  (List.subperm_of_subset (List.nodup_dedup _)
    fun f member => covers f (List.mem_dedup.mp member)).length_le

private theorem Lone.latest_or_queued {options : SubscriptionOptions} {raced : List ArcId}
    (lone : Lone options raced s) {g : CapturedFrame} (exist : g ∈ s.frames) :
    s.state.latest = some g ∨ ∃ r ∈ s.receivers, g ∈ r.queue := by
  rcases FrameHub.mem_frames.mp exist with latest | queued | held
  · exact .inl latest
  · exact .inr queued
  · rw [lone.unheld.1] at held
    contradiction

private theorem kept_le {options : SubscriptionOptions} {raced : List ArcId}
    (lone : Lone options raced s) (unlimited : options.maxRate = none)
    (keeps : options.delivery.policy.overflow = .keepNewest)
    (follow : ∀ r ∈ s.receivers, Follows s.state.latest r) :
    s.frames.dedup.length ≤ options.delivery.policy.capacity := by
  have room : s.state.latest.toList.length ≤ options.delivery.policy.capacity :=
    Nat.le_trans Option.length_toList_le (capacity_pos lone.valid)
  cases receivers : s.receivers with
  | nil =>
      refine Nat.le_trans (dedup_length_le fun g exist => ?_) room
      rcases lone.latest_or_queued exist with latest | ⟨r, member, _⟩
      · exact Option.mem_toList.mpr latest
      · rw [receivers] at member
        contradiction
  | cons r rest =>
      have here : r ∈ s.receivers := by
        rw [receivers]
        exact List.mem_cons_self
      have alone : ∀ q ∈ s.receivers, q = r := by
        have short := lone.single
        rw [receivers, List.length_cons] at short
        obtain rfl := List.length_eq_zero_iff.mp (Nat.le_zero.mp (Nat.le_of_succ_le_succ short))
        intro q member
        rw [receivers] at member
        exact List.mem_singleton.mp member
      have queue : ∀ g, (∃ q ∈ s.receivers, g ∈ q.queue) → g ∈ r.queue := by
        intro g queued
        obtain ⟨q, member, inside⟩ := queued
        rw [alone q member] at inside
        exact inside
      obtain ⟨delivery, rate⟩ := lone.subscribed r here
      have follows := follow r here
      have fits := follows.fits
      rw [delivery] at fits
      by_cases empty : r.queue = []
      · refine Nat.le_trans (dedup_length_le fun g exist => ?_) room
        rcases lone.latest_or_queued exist with now | queued
        · exact Option.mem_toList.mpr now
        · have inside := queue g queued
          rw [empty] at inside
          contradiction
      · refine Nat.le_trans (dedup_length_le fun g exist => ?_) fits
        rcases lone.latest_or_queued exist with now | queued
        · have last := follows.newest (rate.trans unlimited) (by rw [delivery]; exact keeps) g now
          exact List.mem_of_getLast? (last.resolve_left empty)
        · exact queue g queued

/-- In a run with one admitted subscriber, while consumers hold nothing and the bytes
suffice for every slot, a reservation gets a buffer and no drop is counted, if the buffers
suffice for the frames being written and those kept, or the queue keeps the newest frames
and leaves a buffer beside those being written. -/
theorem slot_left {options : SubscriptionOptions} {raced : List ArcId} {job : Job}
    {length : Nat} (reached : machine.Reachable Lib.Machine.anything s)
    (lone : Lone options raced s) (affords : s.pool.Affords length)
    (leaves : LeavesSlot options s) : s.Grants raced job length := by
  have bounded := Bounded.reachable reached
  refine grants_of_choose bounded affords ?_
  have few : s.writing + s.frames.dedup.length < s.pool.budget.buffers := by
    rcases leaves with few | ⟨unlimited, keeps, few⟩
    · exact few
    · have kept := kept_le lone unlimited keeps (Follows.reachable reached)
      omega
  cases found : (s.pool.receive s.clock).choose (s.unique raced) with
  | some picked => rfl
  | none =>
      obtain ⟨kept, full⟩ := choose_none found
      rw [lone.unheld.2.2] at kept
      have many := slots_used (.reachable reached) lone.unheld.2.1 kept
      exact absurd (Nat.lt_of_le_of_lt many few) (Nat.not_lt.mpr full)

/-- Session 1 runs with one subscriber that has a queue of two frames, call `i` publishes a
frame of it and gives the lease back. -/
def subscribedTwo (overflow : OverflowPolicy) : List Action :=
  [Action.call .start] ++ List.replicate 4 (Action.run 0 {}) ++
  [Action.call (.subscribe { delivery := .buffered 2 overflow }), .run 1 {}, .run 1 {}]

def publishedCall (i : OpId) : List Action := publishingCall i ++ [Action.run i {}, .run i {}]

/-- Three frames have been published and the fourth is about to be reserved. -/
def fourthFrame (overflow : OverflowPolicy) : List Action :=
  subscribedTwo overflow ++ publishedCall 2 ++ publishedCall 3 ++ publishedCall 4 ++
    [Action.call (.publishRgb 1 1 1 none), .run 5 {}]

/-- With four buffers, while that frame is being written a fifth one is about to be
reserved. -/
def fifthFrame (overflow : OverflowPolicy) : List Action :=
  fourthFrame overflow ++ [Action.run 5 {}, .call (.publishRgb 1 1 1 none), .run 6 {}]

/-- One subscriber with these options, so many buffers and frames being written, no handle
of a consumer, and three bytes for each slot. -/
def waitsAlone (buffers writing : Nat) (overflow : OverflowPolicy) (s : FrameHub) : Bool :=
  decide (s.receivers.map (fun r => (r.delivery, r.maxRate)) =
      [(.buffered 2 overflow, none)]) &&
    decide (s.pool.budget = { buffers := buffers }) && decide (s.writing = writing) &&
    s.held.isEmpty && s.clones.isEmpty && s.pool.slots.all (·.bytes ≤ 3)

theorem waitsAlone_lone {buffers writing : Nat} {overflow : OverflowPolicy}
    (waits : waitsAlone buffers writing overflow s = true) (more : 2 < buffers)
    (most : buffers ≤ 256) : Lone { delivery := .buffered 2 overflow } [] s ∧
      s.pool.budget.buffers = buffers ∧ s.writing = writing ∧ s.pool.Affords 3 := by
  simp only [waitsAlone, Bool.and_eq_true, decide_eq_true_eq, List.isEmpty_iff,
    List.all_eq_true] at waits
  obtain ⟨⟨⟨⟨⟨receivers, budget⟩, writes⟩, held⟩, clones⟩, small⟩ := waits
  refine ⟨⟨?_, ?_, ?_, ?_, held, clones, rfl⟩, by rw [budget], writes, 3, Nat.le_refl 3,
    small, ?_⟩
  · have one := congrArg List.length receivers
    rw [List.length_map] at one
    exact Nat.le_of_eq one
  · intro r member
    have there := List.mem_map_of_mem (f := fun r : Receiver => (r.delivery, r.maxRate)) member
    rw [receivers] at there
    have same := List.mem_singleton.mp there
    exact ⟨congrArg Prod.fst same, congrArg Prod.snd same⟩
  · rw [budget, MemoryBudget.validate, if_neg]
    dsimp only
    omega
  · rw [budget, SubscriptionOptions.validate]
    dsimp only
    rw [if_neg (by omega)]
  · rw [budget]
    dsimp only
    omega

/-- Call `i` is about to reserve three bytes for the current session; this gives it a
buffer or not. -/
def reserving (i : OpId) (granted : Bool) (s : FrameHub) : Bool :=
  match s.ops[i]? with
  | some (.reservePool job length) =>
      s.isCurrent job.session && decide (length = 3) &&
        (s.reserve [] job length).2.lease.isSome == granted
  | _ => false

theorem reserving_at {granted : Bool} (reserves : reserving i granted s = true) :
    ∃ job, s.ops[i]? = some (.reservePool job 3) ∧ s.isCurrent job.session = true ∧
      (s.reserve [] job 3).2.lease.isSome = granted := by
  unfold reserving at reserves
  split at reserves
  · next job length at_pc =>
      simp only [Bool.and_eq_true, decide_eq_true_eq, beq_iff_eq] at reserves
      obtain ⟨⟨current, rfl⟩, result⟩ := reserves
      exact ⟨job, at_pc, current, result⟩
  · contradiction

theorem slot_left_oldest :
    ∃ s, machine.Reachable Lib.Machine.anything s ∧ s.writing = 1 ∧
      s.receivers.map (fun r => r.queue.map (·.key.sequence)) = [[2, 3]] ∧
      ∃ job, s.ops[6]? = some (.reservePool job 3) ∧ s.Grants [] job 3 := by
  have passed : ((machine.exec (fun _ _ => true) (FrameHub.new 4) (fifthFrame .dropOldest)).any
      fun s => waitsAlone 4 1 .dropOldest s && reserving 6 true s &&
        decide (s.receivers.map (fun r => r.queue.map (·.key.sequence)) = [[2, 3]])) = true := by
    decide +kernel
  obtain ⟨s, reached, holds⟩ := Lib.Machine.Reachable.of_exec (machine_new 4) passed
  simp only [Bool.and_eq_true, decide_eq_true_eq] at holds
  obtain ⟨⟨waits, reserves⟩, queue⟩ := holds
  obtain ⟨lone, buffers, writing, affords⟩ := waitsAlone_lone waits (by omega) (by omega)
  obtain ⟨job, at_pc, _⟩ := reserving_at reserves
  have anyhow := reached.mono fun _ _ _ => (trivial : Lib.Machine.anything _ _)
  have room : s.writing + 2 < s.pool.budget.buffers := by omega
  exact ⟨s, anyhow, writing, queue, job, at_pc,
    slot_left anyhow lone affords (.inr ⟨rfl, rfl, room⟩)⟩

/-- The third frame is the latest one and not in the full queue: three frames, three buffers. -/
theorem not_always_a_slot :
    ¬ ∀ (options : SubscriptionOptions) (raced : List ArcId) (s : FrameHub) (i : OpId) (job : Job)
      (length : Nat), machine.Reachable Lib.Machine.anything s →
      s.ops[i]? = some (.reservePool job length) → s.isCurrent job.session = true →
      Lone options raced s → s.pool.Affords length → s.writing = 0 →
      s.Grants raced job length := by
  intro always
  have passed : ((machine.exec (fun _ _ => true) (FrameHub.new 3) (fourthFrame .dropNewest)).any
      fun s => waitsAlone 3 0 .dropNewest s && reserving 5 false s) = true := by
    decide +kernel
  obtain ⟨s, reached, holds⟩ := Lib.Machine.Reachable.of_exec (machine_new 3) passed
  obtain ⟨waits, reserves⟩ := Bool.and_eq_true_iff.mp holds
  obtain ⟨lone, _, idle, affords⟩ := waitsAlone_lone waits (by omega) (by omega)
  obtain ⟨job, at_pc, current, refused⟩ := reserving_at reserves
  have anyhow := reached.mono fun _ _ _ => (trivial : Lib.Machine.anything _ _)
  obtain ⟨⟨lease, granted⟩, _⟩ := always _ [] s 5 job 3 anyhow at_pc current lone affords idle
  rw [granted] at refused
  exact Bool.false_ne_true refused.symm

end CameraRs.Frame

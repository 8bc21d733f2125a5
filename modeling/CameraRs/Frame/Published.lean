/-
Published frames are well-formed.

Each entry point checks its layout against a length of its own making. That length is
the one `reserve` computes, so the storage of a lease is exactly as long as its layout
was checked for, whatever the slot held before, and stays so until the frame is
delivered.
-/

import CameraRs.Frame.Views

namespace CameraRs.Frame

/-! ### The length that was checked -/

section Length

variable {layout : FrameLayout} {length : Nat}

theorem frameLength_ok {rgb : Bool} (fits : frameLength layout rgb = .ok length) :
    length ≤ maxFrameBytes ∧
      (if rgb then (checkedMul layout.width.toNat layout.height.toNat).bind (checkedMul · 3)
        else (layout.planes.filterMap fun p => checkedAdd p.offset p.length).max?) =
        some length := by
  unfold frameLength at fits
  dsimp only at fits
  split at fits
  · next found =>
      obtain rfl := Except.ok.inj fits
      obtain ⟨same, bounds⟩ := Option.filter_eq_some_iff.mp found
      simp only [Bool.and_eq_true, decide_eq_true_eq] at bounds
      exact ⟨bounds.2, same⟩
  · contradiction

theorem frameLength_rgb (fits : frameLength layout true = .ok length) :
    length = layout.height.toNat * layout.width.toNat * 3 := by
  have product := (frameLength_ok fits).2
  simp only [if_true, Option.bind_eq_some_iff, checkedMul_eq_some] at product
  obtain ⟨_, ⟨_, rfl⟩, _, rfl⟩ := product
  rw [Nat.mul_comm layout.width.toNat]

theorem frameLength_native (fits : frameLength layout false = .ok length) :
    (layout.planes.filterMap fun p => checkedAdd p.offset p.length).max? = some length := by
  have ends := (frameLength_ok fits).2
  simpa using ends

private theorem foldlM_ends {planes : List PlaneLayout} {n : Nat}
    (folded : planes.foldlM (fun n p => (checkedAdd p.offset p.length).map (max n ·)) n =
      some length) :
    (planes.filterMap fun p => checkedAdd p.offset p.length).foldl max n = length := by
  induction planes generalizing n with
  | nil => exact Option.some.inj folded
  | cons p rest ih =>
      rw [List.foldlM_cons] at folded
      cases ends : checkedAdd p.offset p.length with
      | none => simp [ends] at folded
      | some stop =>
          rw [ends] at folded
          simp only [List.filterMap_cons, ends, List.foldl_cons]
          exact ih folded

private theorem planeExtent_max {extent : Nat} (folded : planeExtent layout = some extent)
    (largest : (layout.planes.filterMap fun p => checkedAdd p.offset p.length).max? =
      some length) : extent = length := by
  have same := foldlM_ends folded
  generalize layout.planes.filterMap (fun p => checkedAdd p.offset p.length) = ends
    at same largest
  cases ends with
  | nil => contradiction
  | cons first rest =>
      rw [List.max?_cons'] at largest
      rw [List.foldl_cons, Nat.zero_max] at same
      exact same.symm.trans (Option.some.inj largest)

private theorem ends_of_valid {size : Nat} (valid : layout.validate size = .ok ()) :
    (layout.planes.filterMap fun p => checkedAdd p.offset p.length) =
      layout.planes.map fun p => p.offset + p.length := by
  rw [← List.filterMap_eq_map]
  refine List.filterMap_congr fun p described => ?_
  exact checkedAdd_eq_some.mpr ⟨(FrameLayout.validate_inside valid described).1, rfl⟩

private theorem parts_sum {parts : List (List UInt8)} {start : Nat}
    (summed : parts.foldlM (fun n p => checkedAdd n p.length) start = some length) :
    length = start + parts.flatten.length := by
  induction parts generalizing start with
  | nil => exact (Option.some.inj summed).symm
  | cons part rest ih =>
      rw [List.foldlM_cons] at summed
      obtain ⟨next, first, later⟩ := Option.bind_eq_some_iff.mp summed
      obtain ⟨_, rfl⟩ := checkedAdd_eq_some.mp first
      rw [ih later, List.flatten_cons, List.length_append]
      omega

private theorem rgb_validate {w h : UInt32} (fits : frameLength (.rgb w h) true = .ok length) :
    (FrameLayout.rgb w h).validate length = .ok () := by
  have positive := frameLength_pos fits
  have small := (frameLength_ok fits).1
  have product := frameLength_rgb fits
  dsimp only [FrameLayout.rgb] at product
  have wide : 0 < w.toNat := by
    by_contra zero
    have none : w.toNat = 0 := by omega
    rw [none] at product
    omega
  have tall : 0 < h.toNat := by
    by_contra zero
    have none : h.toNat = 0 := by omega
    rw [none] at product
    omega
  have bound : maxFrameBytes < usizeLimit := by decide
  have row : w.toNat * 3 ≤ length := by
    rw [product, Nat.mul_assoc]
    exact Nat.le_mul_of_pos_left _ tall
  have area : w.toNat * h.toNat ≤ length := by
    rw [product, Nat.mul_comm w.toNat]
    exact Nat.le_mul_of_pos_right _ (by decide)
  have whole : w.toNat * h.toNat * 3 = length := by rw [product, Nat.mul_comm w.toNat]
  have planes : (FrameLayout.rgb w h).planes = [⟨0, length, w.toNat * 3, 3⟩] := by
    simp only [FrameLayout.rgb]
    rw [checkedMul_eq_some.mpr ⟨by omega, rfl⟩, Option.bind_some,
      checkedMul_eq_some.mpr ⟨by omega, rfl⟩, checkedMul_eq_some.mpr ⟨by omega, rfl⟩, whole]
    rfl
  have sized : (FrameLayout.rgb w h).Sized :=
    ⟨fun zero => by simp [show w = 0 from zero] at wide,
      fun zero => by simp [show h = 0 from zero] at tall, by simp [FrameLayout.rgb]⟩
  refine (FrameLayout.validate_one_iff sized rfl (by omega) rfl planes).mpr ⟨positive, ?_, ?_⟩
  · have rows : (h.toNat - 1) * (w.toNat * 3) + w.toNat * 3 = length := by
      rw [product, Nat.mul_assoc, ← Nat.succ_mul]
      congr 1
      omega
    have columns : (w.toNat - 1) * 3 + 3 = w.toNat * 3 := by omega
    constructor
    · simp
    · simp
    · simp [FrameLayout.rowBytes, FrameLayout.rgb, columns]
    · simp [FrameLayout.rowBytes, FrameLayout.rgb, columns, rows]
  · simp [FrameLayout.rgb, PixelFormat.isPacked422]

end Length

/-- The layout of the frame was checked for the length that `reserve` will use, and so
were the parts it is made of. -/
def Job.Checked (job : Job) : Prop :=
  ∀ length, frameLength job.layout job.rgb = .ok length →
    job.layout.validate length = .ok () ∧
    ∀ parts, job.fill = .parts parts → parts.flatten.length = length

theorem Job.checked_into {session : Nat} {layout : FrameLayout} {timestamp : Option SourceTimestamp}
    {now extent : Nat} (folded : planeExtent layout = some extent)
    (valid : layout.validate extent = .ok ()) :
    Job.Checked ⟨session, layout, timestamp, none, now, false, .closure⟩ := by
  intro length fits
  obtain rfl := planeExtent_max folded (frameLength_native fits)
  exact ⟨valid, by simp⟩

private theorem checkParts_ok {layout : FrameLayout} {parts : List (List UInt8)}
    (passed : checkParts layout parts = .ok ()) :
    layout.validate parts.flatten.length = .ok () ∧
      (layout.planes.map fun p => p.offset + p.length).max?.getD 0 = parts.flatten.length := by
  unfold checkParts at passed
  cases summed : parts.foldlM (fun n p => checkedAdd n p.length) 0 with
  | none =>
      rw [summed] at passed
      contradiction
  | some total =>
      have sum : total = parts.flatten.length := by
        rw [parts_sum summed, Nat.zero_add]
      rw [summed] at passed
      change (layout.validate total >>= fun _ => if _ ≠ _ then _ else _) = _ at passed
      cases valid : layout.validate total with
      | error error =>
          rw [valid] at passed
          contradiction
      | ok value =>
          rw [valid] at passed
          change (if (layout.planes.map fun p => p.offset + p.length).max?.getD 0 ≠ total
            then _ else _) = _ at passed
          rw [sum] at valid passed
          split at passed
          · contradiction
          · next described => exact ⟨valid, not_not.mp described⟩

private theorem Job.checked_parts {session : Nat} {layout : FrameLayout}
    {timestamp : Option SourceTimestamp} {sequence : Option Nat} {parts : List (List UInt8)}
    {now : Nat} (passed : checkParts layout parts = .ok ()) :
    Job.Checked ⟨session, layout, timestamp, sequence, now, false, .parts parts⟩ := by
  intro length fits
  obtain ⟨valid, described⟩ := checkParts_ok passed
  have largest := frameLength_native fits
  rw [ends_of_valid valid] at largest
  rw [largest, Option.getD_some] at described
  rw [described]
  refine ⟨valid, fun other same => ?_⟩
  obtain rfl := Fill.parts.inj same
  rfl

private theorem Job.checked_lease {session now : Nat} {layout : FrameLayout}
    (passed : (frameLength layout false >>= layout.validate) = .ok ()) :
    Job.Checked ⟨session, layout, none, none, now, false, .lease⟩ := by
  intro length fits
  dsimp only at fits
  rw [fits] at passed
  exact ⟨passed, by simp⟩

theorem Job.checked_rgb {session now : Nat} {w h : UInt32} {timestamp : Option SourceTimestamp}
    {sequence : Option Nat} :
    Job.Checked ⟨session, .rgb w h, timestamp, sequence, now, true, .closure⟩ :=
  fun _ fits => ⟨rgb_validate fits, by simp⟩

theorem Job.start_checked {job other : Job} {checked : CameraResult Unit}
    (passed : checked = .ok () → job.Checked) (same : job.start checked = .reserveLook other) :
    other.Checked := by
  unfold Job.start at same
  cases checked with
  | ok value =>
      obtain rfl := Pc.reserveLook.inj same
      exact passed rfl
  | error error => contradiction

private theorem Call.entry_checked {now : Nat} {call : Call} {job : Job}
    (begins : call.entry now = .reserveLook job) : job.Checked := by
  cases call with
  | publishRgb session w h ns =>
      obtain rfl := Pc.reserveLook.inj begins
      exact Job.checked_rgb
  | publishRgbMetadata session w h timestamp sequence =>
      obtain rfl := Pc.reserveLook.inj begins
      exact Job.checked_rgb
  | publishNativeInto session layout timestamp =>
      refine Job.start_checked ?_ begins
      cases folded : planeExtent layout with
      | none => exact fun impossible => absurd impossible (by simp)
      | some extent => exact fun valid => Job.checked_into folded valid
  | publishNative session layout timestamp sequence parts =>
      exact Job.start_checked Job.checked_parts begins
  | writableNative session layout => exact Job.start_checked Job.checked_lease begins
  | _ => contradiction

/-! ### Storage that is used again -/

def Storage.Shaped (heap : Heap) : Storage → Prop
  | .rgb arc h w => (heap.buffers arc).bytes.length = h * w * 3
  | .bytes _ => True

theorem Storage.Shaped.keeps {heap later : Heap} {data : Storage} (shaped : data.Shaped heap)
    (same : (later.buffers data.arc).bytes.length = (heap.buffers data.arc).bytes.length) :
    data.Shaped later := by
  cases data with
  | rgb arc h w => exact same.trans shaped
  | bytes arc => trivial

namespace Heap

variable {heap : Heap} {existing : Option Storage} {layout : FrameLayout} {length : Nat}

theorem bytes_zeros :
    ((heap.zeros length).1.buffers (heap.zeros length).2).bytes.length = length := by
  simp [zeros, alloc]

theorem pixels_shaped (fits : frameLength layout true = .ok length) :
    ((heap.pixels layout).1.buffers (heap.pixels layout).2.arc).bytes.length = length ∧
      (heap.pixels layout).2.Shaped (heap.pixels layout).1 := by
  rw [frameLength_rgb fits]
  exact ⟨bytes_zeros, bytes_zeros⟩

theorem refit_shaped {rgb : Bool} (fits : frameLength layout rgb = .ok length)
    (shaped : ∀ data, existing = some data → data.Shaped heap) :
    ((heap.refit existing layout rgb length).1.buffers
        (heap.refit existing layout rgb length).2.arc).bytes.length = length ∧
      (heap.refit existing layout rgb length).2.Shaped
        (heap.refit existing layout rgb length).1 := by
  unfold refit
  split
  · next arc h w =>
      split
      · next same =>
          have old := shaped _ rfl
          obtain ⟨rfl, rfl⟩ := same
          rw [frameLength_rgb fits]
          exact ⟨old, old⟩
      · exact pixels_shaped fits
  · next arc =>
      dsimp only
      split
      · exact ⟨bytes_zeros, trivial⟩
      · refine ⟨?_, trivial⟩
        simp only [store, Storage.arc, Function.update_self, List.length_append,
          List.length_take, List.length_replicate]
        omega
  · exact pixels_shaped fits
  · exact ⟨bytes_zeros, trivial⟩

end Heap

namespace FrameHub

variable {s t u : FrameHub} {i j : OpId} {pc after : Pc} {raced : List ArcId} {middle : Pool}
  {index allocated : Nat} {slot : Slot}

theorem chosen_shaped (chosen : Pool.Chosen s.pool (s.unique raced) middle index slot)
    (shaped : ∀ slot ∈ s.pool.slots, ∀ data, slot.data = some data → data.Shaped s.heap) :
    ∀ data, slot.data = some data → data.Shaped s.heap := by
  intro data holds
  rcases chosen.which with ⟨same, _⟩ | ⟨_, _, rfl, _⟩
  · have found := chosen.found
    rw [same] at found
    exact shaped slot (List.mem_of_getElem? found) data holds
  · contradiction

private theorem chosen_slots (chosen : Pool.Chosen s.pool (s.unique raced) middle index slot)
    {other : Slot} (member : other ∈ middle.slots.set index ⟨none, allocated⟩) {data : Storage}
    (holds : other.data = some data) :
    other ∈ s.pool.slots ∧ slot.data.map (·.arc) ≠ some data.arc := by
  rcases chosen.which with ⟨same, stored, kept, unique⟩ | ⟨appended, _, rfl, _⟩
  · have found := chosen.found
    rw [same] at found member
    obtain ⟨_, _, _, noSlot⟩ := @unique_alone s raced index allocated slot stored found kept unique
    constructor
    · rcases List.mem_or_eq_of_mem_set member with old | rfl
      · exact old
      · contradiction
    · rw [kept, Option.map_some]
      exact fun shared => noSlot other member data holds (Option.some.inj shared).symm
  · refine ⟨?_, by simp⟩
    rw [appended] at member
    rcases List.mem_or_eq_of_mem_set member with old | rfl
    · rcases List.mem_append.mp old with old | new
      · exact old
      · rw [List.mem_singleton.mp new] at holds
        contradiction
    · contradiction

private theorem chosen_leases (chosen : Pool.Chosen s.pool (s.unique raced) middle index slot)
    {lease : Lease} (leased : s.leaseOf j = some lease) :
    slot.data.map (·.arc) ≠ some lease.data.arc := by
  rcases chosen.which with ⟨same, stored, kept, unique⟩ | ⟨_, _, rfl, _⟩
  · have found := chosen.found
    rw [same] at found
    obtain ⟨noLease, _, _, _⟩ := @unique_alone s raced index 0 slot stored found kept unique
    rw [kept, Option.map_some]
    exact fun shared => noLease j lease leased (Option.some.inj shared).symm
  · simp

private theorem lease_buffers (isolated : Isolated s) (bounded : Bounded s)
    (at_pc : s.ops[i]? = some pc) (access : Access s pc u after) (different : j ≠ i)
    {lease : Lease} (leased : s.leaseOf j = some lease) :
    u.heap.buffers lease.data.arc = s.heap.buffers lease.data.arc := by
  have old : lease.data.arc < s.heap.next :=
    isolated.inHeap _ (.lease j) ⟨lease, leased, rfl⟩
  rcases access.grants_or_moves bounded at_pc with grants | moves
  · cases grants with
    | intro chosen slots refitted made =>
        exact refitted.grows.buffers _ old (chosen_leases chosen leased)
  · rcases moves.heap with same | ⟨job, written, bytes, rfl, _, same⟩
    · rw [same]
    · have apart : some written.data.arc ≠ some lease.data.arc := by
        intro shared
        have mine := isolated.alone i written ⟨job, at_pc⟩ (.lease j)
          ⟨lease, leased, (Option.some.inj shared).symm⟩
        exact different (Ref.lease.inj mine)
      rw [same]
      exact (Heap.grows_store s.heap _ bytes).buffers _ old apart

end FrameHub

theorem Moves.lengths {s u : FrameHub} {pc after : Pc} (moves : Moves s pc u after)
    (arc : ArcId) : (u.heap.buffers arc).bytes.length = (s.heap.buffers arc).bytes.length := by
  rcases moves.heap with same | ⟨job, lease, bytes, _, size, same⟩
  · rw [same]
  · rw [same]
    by_cases here : arc = lease.data.arc
    · subst here
      simpa [Heap.store] using size
    · simp [Heap.store, Function.update_of_ne here]

/-! ### The invariant -/

/-- The storage of a frame under way is as long as its layout was checked for, and is
what the parts say once they are copied. -/
def Pc.Ready (heap : Heap) : Pc → Prop
  | .reserveLook job => job.Checked
  | .reservePool job length => job.Checked ∧ frameLength job.layout job.rgb = .ok length
  | .converting job lease =>
      job.Checked ∧ frameLength job.layout job.rgb =
        .ok (heap.buffers lease.data.arc).bytes.length
  | .finishing job lease _ =>
      job.Checked ∧ frameLength job.layout job.rgb =
        .ok (heap.buffers lease.data.arc).bytes.length ∧
      ∀ parts, job.fill = .parts parts → (heap.buffers lease.data.arc).bytes = parts.flatten
  | _ => True

theorem Pc.Ready.keeps {heap later : Heap} {pc : Pc} (ready : pc.Ready heap)
    (same : ∀ lease, pc.lease = some lease →
      later.buffers lease.data.arc = heap.buffers lease.data.arc) : pc.Ready later := by
  cases pc with
  | converting job lease =>
      have kept := same lease rfl
      rw [Ready, kept]
      exact ready
  | finishing job lease elapsed =>
      have kept := same lease rfl
      rw [Ready, kept]
      exact ready
  | _ => exact ready

private theorem copyParts_flatten {parts : List (List UInt8)} {offset : Nat} {out : List UInt8}
    (fits : offset + parts.flatten.length = out.length) :
    copyParts parts offset out = some (out.take offset ++ parts.flatten) := by
  induction parts generalizing offset out with
  | nil =>
      rw [copyParts, List.flatten_nil, List.append_nil, List.take_of_length_le]
      simpa using Nat.le_of_eq fits.symm
  | cons part rest ih =>
      rw [List.flatten_cons, List.length_append] at fits
      have before : (out.take offset ++ part).length = offset + part.length := by
        rw [List.length_append, List.length_take]
        omega
      have whole : offset + part.length + rest.flatten.length =
          (out.take offset ++ part ++ out.drop (offset + part.length)).length := by
        rw [List.length_append, before, List.length_drop]
        omega
      rw [copyParts, if_pos (by omega), ih whole, ← before, List.take_left,
        List.flatten_cons, List.append_assoc]

/-- What every frame under way and every frame published rests on. -/
structure Sound (s : FrameHub) : Prop where
  slots : ∀ slot ∈ s.pool.slots, ∀ data, slot.data = some data → data.Shaped s.heap
  leases : ∀ i lease, s.leaseOf i = some lease → lease.data.Shaped s.heap
  calls : ∀ (i : OpId) pc, s.ops[i]? = some pc → pc.Ready s.heap
  frames : ∀ f ∈ s.frames, f.WellFormed s.heap

theorem exhausted_ready {job : Job} {heap : Heap} : job.exhausted.Ready heap := by
  obtain ⟨answer, same⟩ := exhausted_answers job
  rw [same]
  trivial

theorem recorded_ready {failed : Option (Lease × CameraError)} {heap : Heap} :
    (FrameHub.recorded failed).Ready heap := by
  cases failed <;> trivial

namespace Sound

variable {s t u : FrameHub} {i : OpId} {pc after : Pc}

theorem ready (sound : Sound s) (bounded : Bounded s) (at_pc : s.ops[i]? = some pc)
    (access : Access s pc u after) : after.Ready u.heap := by
  have here := sound.calls i pc at_pc
  cases access with
  | lookRefused stale => exact exhausted_ready
  | poolRefused stale => exact exhausted_ready
  | lookPassed current fits => exact ⟨here, fits⟩
  | @reserved job length raced unlocked current =>
      have booked := FrameHub.reserve_booked bounded.within raced job length
      generalize s.reserve raced job length = result at booked ⊢
      cases booked with
      | refused slots budget => exact exhausted_ready
      | granted chosen slots budget room large refitted index fits made =>
          have shaped := Heap.refit_shaped here.2 (FrameHub.chosen_shaped chosen sound.slots)
          rw [← made] at shaped
          refine ⟨here.1, ?_⟩
          rw [shaped.1]
          exact here.2
  | @wrote job lease bytes size =>
      refine ⟨here.1, ?_⟩
      simp only [FrameHub.write, Heap.store, Function.update_self, size]
      exact here.2
  | @filled job lease parts elapsed bytes fill copied =>
      have checked := (here.1 _ here.2).2 parts fill
      rw [copyParts_flatten (by omega), List.take_zero, List.nil_append] at copied
      obtain rfl := Option.some.inj copied
      simp only [Pc.Ready, FrameHub.write, Heap.store, Function.update_self]
      refine ⟨here.1, ?_, ?_⟩
      · rw [checked]
        exact here.2
      · intro other same
        obtain rfl := Fill.parts.inj (fill.symm.trans same)
        rfl
  | converted fill => exact ⟨here.1, here.2, fun parts same => absurd same (fill parts)⟩
  | stamped timestamp => exact here
  | recordRefused => exact recorded_ready
  | woken => exact recorded_ready
  | charged unlocked goes =>
      rcases goes with rfl | rfl
      · trivial
      · exact recorded_ready
  | budgetRead goes checked =>
      rcases goes with rfl | ⟨error, rfl⟩ <;> trivial
  | _ => trivial

private theorem delivered_wellFormed {f : CapturedFrame} (sound : Sound s)
    (at_pc : s.ops[i]? = some pc) (delivers : Delivers s f pc u after) :
    f.WellFormed s.heap := by
  cases delivers with
  | @intro job lease elapsed ns current captured =>
      have here := sound.calls i _ at_pc
      refine CapturedFrame.wellFormed_of_valid ?_
      rw [captured]
      exact (here.1 _ here.2.1).1

private theorem access_shaped (sound : Sound s) (isolated : Isolated s) (bounded : Bounded s)
    (at_pc : s.ops[i]? = some pc) (access : Access s pc u after) :
    (∀ slot ∈ u.pool.slots, ∀ data, slot.data = some data → data.Shaped u.heap) ∧
      ∀ lease, after.lease = some lease → lease.data.Shaped u.heap := by
  rcases access.grants_or_moves bounded at_pc with grants | moves
  · cases grants with
    | @intro raced job length middle pool heap index allocated slot lease chosen slots refitted
        made =>
        have here := sound.calls i _ at_pc
        have shaped := Heap.refit_shaped here.2 (FrameHub.chosen_shaped chosen sound.slots)
        rw [← made] at shaped
        constructor
        · intro other member data holds
          dsimp only at member
          rw [slots] at member
          obtain ⟨before, apart⟩ := FrameHub.chosen_slots chosen member holds
          refine (sound.slots other before data holds).keeps ?_
          have old : data.arc < s.heap.next :=
            isolated.inHeap _ .slot ⟨other, before, data, holds, rfl⟩
          rw [refitted.grows.buffers data.arc old apart]
        · intro granted same
          obtain rfl := Option.some.inj same
          exact shaped.2
  · have mine : ∀ lease, pc.lease = some lease → lease.data.Shaped u.heap := by
      intro lease given
      have leased : s.leaseOf i = some lease := by rw [FrameHub.leaseOf_at at_pc, given]
      exact (sound.leases i lease leased).keeps (moves.lengths _)
    constructor
    · intro slot member data holds
      rcases moves.slots slot member data holds with ⟨old, before, held⟩ | ⟨lease, given, rfl, _⟩
      · exact (sound.slots old before data held).keeps (moves.lengths _)
      · exact mine lease given
    · exact fun lease same => mine lease (moves.leases lease same)

theorem access (sound : Sound s) (isolated : Isolated s) (bounded : Bounded s)
    (at_pc : s.ops[i]? = some pc) (access : Access s pc u after) :
    Sound { u with ops := s.ops.set i after } := by
  obtain ⟨slots, own⟩ := sound.access_shaped isolated bounded at_pc access
  have others {j : OpId} (different : j ≠ i) {lease : Lease} (leased : s.leaseOf j = some lease) :
      u.heap.buffers lease.data.arc = s.heap.buffers lease.data.arc :=
    FrameHub.lease_buffers isolated bounded at_pc access different leased
  refine ⟨slots, ?_, ?_, ?_⟩
  · intro j lease leased
    rw [FrameHub.leaseOf_set at_pc rfl] at leased
    split at leased
    · exact own lease leased
    · next different =>
        refine (sound.leases j lease leased).keeps ?_
        rw [others different leased]
  · intro j other at_other
    dsimp only at at_other
    rw [FrameHub.getElem?_set_ops at_pc] at at_other
    split at at_other
    · obtain rfl := Option.some.inj at_other
      have next := sound.ready bounded at_pc access
      exact next
    · next different =>
        refine (sound.calls j other at_other).keeps fun lease given => ?_
        exact others different (by rw [FrameHub.leaseOf_at at_other, given])
  · intro f exist
    rcases access.frames exist with old | delivers
    · have same := FrameHub.access_buffers isolated bounded at_pc access (.inl ⟨f, old, rfl⟩)
      exact (sound.frames f old).keeps same
    · have published := sound.delivered_wellFormed at_pc delivers
      obtain ⟨_, _, _, _, _, _, rfl⟩ := delivers.shape
      exact published

theorem called (sound : Sound s) {call : Call} :
    Sound { s with ops := s.ops ++ [call.entry s.clock] } := by
  have entry := Call.entry_entry s.clock call
  refine ⟨sound.slots, ?_, ?_, sound.frames⟩
  · intro j lease leased
    rw [FrameHub.leaseOf, FrameHub.getElem?_append_ops] at leased
    split at leased
    · rw [Option.bind_some, entry.lease] at leased
      contradiction
    · exact sound.leases j lease leased
  · intro j pc at_pc
    dsimp only at at_pc
    rw [FrameHub.getElem?_append_ops] at at_pc
    split at at_pc
    · obtain rfl := Option.some.inj at_pc
      cases begins : call.entry s.clock with
      | reserveLook job => exact Call.entry_checked begins
      | reservePool job length =>
          rw [begins] at entry
          contradiction
      | converting job lease =>
          rw [begins] at entry
          contradiction
      | finishing job lease elapsed =>
          rw [begins] at entry
          contradiction
      | _ => trivial
    · exact sound.calls j pc at_pc

theorem step {a : Action} (taken : s.step a = some t) (isolated : Isolated s)
    (bounded : Bounded s) (sound : Sound s) : Sound t := by
  cases step_stepped taken with
  | called call => exact sound.called
  | ran at_pc access => exact sound.access isolated bounded at_pc access
  | flagged call =>
      refine ⟨sound.slots, sound.leases, sound.calls, fun f exist => sound.frames f ?_⟩
      cases call <;> exact exist
  | consumed consumed =>
      have keeps := consumed.keeps
      rw [keeps]
      refine ⟨sound.slots, sound.leases, sound.calls, fun f exist => ?_⟩
      rw [← keeps] at exist
      exact sound.frames f (consumed.frames f exist)
  | _ => exact ⟨sound.slots, sound.leases, sound.calls, sound.frames⟩

theorem initially (start : machine.initial s) : Sound s := by
  obtain ⟨capacity, drawn, rfl⟩ := start
  constructor <;> simp [FrameHub.new, FrameHub.leaseOf, FrameHub.frames]

theorem reachable {admits : FrameHub → Action → Prop} (reached : machine.Reachable admits s) :
    Sound s :=
  reached.invariant_under (fun _ reached => And.intro (Isolated.reachable reached)
      (Bounded.reachable reached))
    (fun _ start => initially start)
    fun _ _ _ _ known _ taken sound => sound.step taken known.1 known.2

end Sound

/-! ### The call that a frame comes from -/

/-- The frame that a call has not delivered yet. -/
def Pc.making : Pc → Option Job
  | .reserveLook job | .reservePool job _ | .converting job _ | .finishing job _ _ => some job
  | _ => none

section Making

variable {s t u : FrameHub} {i : OpId} {pc after : Pc} {job : Job} {layout : FrameLayout}
  {fill : Fill}

theorem exhausted_making : job.exhausted.making = none := by
  obtain ⟨answer, same⟩ := exhausted_answers job
  rw [same]
  rfl

theorem recorded_making {failed : Option (Lease × CameraError)} :
    (FrameHub.recorded failed).making = none := by
  cases failed <;> rfl

theorem Access.making (access : Access s pc u after) (makes : after.making = some job) :
    ∃ old, pc.making = some old ∧ old.layout = job.layout ∧ old.fill = job.fill := by
  cases access with
  | lookRefused stale => simp [exhausted_making] at makes
  | poolRefused stale => simp [exhausted_making] at makes
  | lookPassed current fits => exact ⟨_, rfl, by cases makes; exact ⟨rfl, rfl⟩⟩
  | @reserved begun length raced unlocked current =>
      refine ⟨begun, rfl, ?_⟩
      unfold FrameHub.reserve at makes
      split at makes
      · cases makes
        exact ⟨rfl, rfl⟩
      · simp [exhausted_making] at makes
  | wrote bytes size => exact ⟨_, rfl, by cases makes; exact ⟨rfl, rfl⟩⟩
  | filled from_parts copied => exact ⟨_, rfl, by cases makes; exact ⟨rfl, rfl⟩⟩
  | converted apart => exact ⟨_, rfl, by cases makes; exact ⟨rfl, rfl⟩⟩
  | stamped timestamp => exact ⟨_, rfl, by cases makes; exact ⟨rfl, rfl⟩⟩
  | recordRefused => simp [recorded_making] at makes
  | woken => simp [recorded_making] at makes
  | charged unlocked goes =>
      rcases goes with rfl | rfl
      · contradiction
      · simp [recorded_making] at makes
  | budgetRead goes checked =>
      rcases goes with rfl | ⟨error, rfl⟩ <;> contradiction
  | _ => contradiction

def FrameHub.Makes (s : FrameHub) (i : OpId) (layout : FrameLayout) (fill : Fill) : Prop :=
  ∃ pc, s.ops[i]? = some pc ∧
    ∀ job, pc.making = some job → job.layout = layout ∧ job.fill = fill

theorem FrameHub.Makes.step {a : Action} (makes : s.Makes i layout fill)
    (taken : s.step a = some t) : t.Makes i layout fill := by
  obtain ⟨pc, at_pc, same⟩ := makes
  rcases (step_stepped taken).op at_pc with still | ⟨u, after, access, rfl⟩
  · exact ⟨pc, still, same⟩
  · refine ⟨after, by simp [FrameHub.getElem?_set_ops at_pc], fun job making => ?_⟩
    obtain ⟨old, made, layouts, fills⟩ := access.making making
    obtain ⟨sameLayout, sameFill⟩ := same old made
    exact ⟨layouts.symm.trans sameLayout, fills.symm.trans sameFill⟩

theorem FrameHub.Makes.run {actions : List Action} (makes : s.Makes i layout fill)
    (run : machine.Run Lib.Machine.anything s actions t) : t.Makes i layout fill := by
  induction run with
  | nil => exact makes
  | snoc before admitted taken ih => exact ih.step taken

private theorem start_making {checked : CameraResult Unit} {other : Job}
    (making : (job.start checked).making = some other) : job = other := by
  cases checked with
  | ok value => exact Option.some.inj making
  | error error => contradiction

private theorem makes_called {session : Nat} {timestamp : Option SourceTimestamp}
    {sequence : Option Nat} {parts : List (List UInt8)}
    (taken : s.step (.call (.publishNative session layout timestamp sequence parts)) = some t) :
    t.Makes s.ops.length layout (.parts parts) := by
  obtain rfl := Option.some.inj taken
  refine ⟨_, List.getElem?_concat_length, fun job making => ?_⟩
  rw [← start_making making]
  exact ⟨rfl, rfl⟩

theorem FrameHub.Makes.published {env : Env} {parts : List (List UInt8)} {f : CapturedFrame}
    (makes : s.Makes i layout (.parts parts)) (sound : Sound s)
    (taken : s.step (.run i env) = some t) (delivered : published s (.run i env) t = [f]) :
    f.layout = layout ∧ f ∈ t.frames ∧ f.bytes t.heap = parts.flatten := by
  obtain ⟨other, at_other, same⟩ := makes
  obtain ⟨pc, u, after, at_pc, access, rfl⟩ := step_run taken
  obtain rfl := Option.some.inj (at_other.symm.trans at_pc)
  have outcome := @Access.published s u other after i env
    { u with ops := s.ops.set i after } access at_pc rfl
  rcases outcome with ⟨g, delivers, found⟩ | ⟨_, nothing⟩
  · obtain rfl := List.singleton_inj.mp (found.symm.trans delivered)
    cases delivers with
    | @intro job lease elapsed ns current captured =>
        obtain ⟨sameLayout, sameFill⟩ := same job rfl
        have ready := sound.calls i _ at_pc
        refine ⟨?_, FrameHub.mem_frames.mpr (.inl rfl), ?_⟩
        · rw [captured]
          exact sameLayout
        · rw [captured]
          exact ready.2.2 parts sameFill
  · rw [nothing] at delivered
    contradiction

end Making

/-- Every frame that can be seen is well-formed, and a frame of `publish_native` has the
bytes of its parts for as long as it can be seen. -/
theorem published_wellFormed {s : FrameHub}
    (reached : machine.Reachable Lib.Machine.anything s) :
    (∀ f ∈ s.frames, f.WellFormed s.heap) ∧
    ∀ session layout timestamp sequence parts called actions before env after f later finish,
      s.step (.call (.publishNative session layout timestamp sequence parts)) = some called →
      machine.Run Lib.Machine.anything called actions before →
      before.step (.run s.ops.length env) = some after →
      published before (.run s.ops.length env) after = [f] →
      machine.Run (fun u _ => f ∈ u.frames) after later finish →
      f.layout = layout ∧ f.bytes finish.heap = parts.flatten := by
  refine ⟨(Sound.reachable reached).frames, ?_⟩
  intro session layout timestamp sequence parts called actions before env after f later finish
    begun run taken delivered seen
  have call : machine.Run Lib.Machine.anything s
      [.call (.publishNative session layout timestamp sequence parts)] called :=
    .single trivial begun
  have there := (reached.extend call).extend run
  have delivery : machine.Run Lib.Machine.anything before [.run s.ops.length env] after :=
    .single trivial taken
  have makes := (makes_called begun).run run
  obtain ⟨sameLayout, exist, bytes⟩ := makes.published (.reachable there) taken delivered
  refine ⟨sameLayout, ?_⟩
  rw [← bytes]
  refine (retained_immutable (there.extend delivery) (.inl ⟨f, exist, rfl⟩)).2.2 later finish ?_
  exact seen.mono fun u _ visible => .inl ⟨f, visible, rfl⟩

/-- Two published frames; the slot of the first is free again. -/
private def recycling : List Action :=
  [Action.call .start] ++ List.replicate 4 (Action.run 0 {}) ++
  [Action.call (.publishNative 1 (.packed 2 2 .gray8 2 4) none none [[1, 2], [3, 4]])] ++
    List.replicate 6 (Action.run 1 { choice := .finish 1 }) ++
  [Action.call (.publishNative 1 (.packed 2 2 .gray8 2 4) none none [[5, 6, 7, 8]])] ++
    List.replicate 6 (Action.run 2 { choice := .finish 1 })

theorem published_wellFormed_recycled :
    ∃ s called before after f,
      machine.Reachable Lib.Machine.anything s ∧
      s.step (.call (.publishNative 1 (.packed 2 1 .gray8 2 2) none none [[9], [8]])) =
        some called ∧
      machine.Run Lib.Machine.anything called
        (List.replicate 3 (.run s.ops.length { choice := .finish 1 })) before ∧
      before.step (.run s.ops.length {}) = some after ∧
      (published before (.run s.ops.length {}) after = [f] ∧
        (s.heap.buffers f.storage.arc).bytes = [1, 2, 3, 4]) ∧
      (∀ g ∈ s.frames, g.WellFormed s.heap) ∧ f.bytes after.heap = [9, 8] := by
  have passed : ((machine.exec (fun _ _ => true) (FrameHub.new 2) recycling).any fun s =>
      (s.step (.call (.publishNative 1 (.packed 2 1 .gray8 2 2) none none [[9], [8]]))).any
        fun called => (machine.exec (fun _ _ => true) called
          (List.replicate 3 (.run s.ops.length { choice := .finish 1 }))).any
            fun before => (before.step (.run s.ops.length {})).any fun after =>
              decide ((published before (.run s.ops.length {}) after).map
                (fun f => (s.heap.buffers f.storage.arc).bytes) = [[1, 2, 3, 4]])) = true := by
    decide +kernel
  obtain ⟨s, reached, passed⟩ := Lib.Machine.Reachable.of_exec (machine_new 2) passed
  obtain ⟨called, begun, passed⟩ := (Option.any_eq_true _ _).mp passed
  obtain ⟨before, run, passed⟩ := Lib.Machine.run_of_passed passed
  obtain ⟨after, taken, passed⟩ := (Option.any_eq_true _ _).mp passed
  obtain ⟨f, delivered, old⟩ := List.map_eq_singleton_iff.mp (of_decide_eq_true passed)
  have anyhow := reached.mono fun _ _ _ => (trivial : Lib.Machine.anything _ _)
  have ran := run.mono fun _ _ _ => (trivial : Lib.Machine.anything _ _)
  obtain ⟨wellFormed, parts⟩ := published_wellFormed anyhow
  refine ⟨s, called, before, after, f, anyhow, begun, ran, taken, ⟨delivered, old⟩, wellFormed, ?_⟩
  exact (parts 1 _ none none _ called _ before {} after f [] after begun ran taken delivered .nil).2

end CameraRs.Frame

/-
Who owns the buffers of a V4L2 stream.

A buffer that is not in the driver's queue is the one recorded in `dequeued`, from the return
of `camera_v4l2_start` to the call of `camera_v4l2_stop`. The mappings of a start are the first
entries of its table, in the order in which they were made.
-/

import CameraRs.V4l2.Stream
import Mathlib.Data.List.Nodup

namespace CameraRs.V4l2.Stream

/-- The number of the dequeue whose buffer the worker has in its hands. -/
def Pc.holding : Pc → Option Nat
  | .consume frame => some frame.turn
  | .release frame _ => some frame.turn
  | _ => none

/-- A stream has been handed out and not yet taken back. -/
def Pc.streaming : Pc → Bool
  | .ready | .poll | .dequeue | .consume _ | .release _ _ | .returned _ => true
  | _ => false

private theorem mapM_getElem? {α β : Type} {f : α → Option β} {items : List α} {values : List β}
    (all : items.mapM f = some values) : values.length = items.length ∧
    ∀ (p : Nat) value, values[p]? = some value → ∃ item, items[p]? = some item ∧ f item = some value := by
  induction items generalizing values with
  | nil =>
      obtain rfl := Option.some.inj all
      exact ⟨rfl, fun p value there => by simp at there⟩
  | cons item rest ih =>
      rw [List.mapM_cons] at all
      obtain ⟨first, here, all⟩ := Option.bind_eq_some_iff.mp all
      obtain ⟨later, beyond, all⟩ := Option.bind_eq_some_iff.mp all
      obtain rfl := Option.some.inj all
      obtain ⟨length, each⟩ := ih beyond
      refine ⟨congrArg Nat.succ length, fun p value there => ?_⟩
      cases p with
      | zero => exact ⟨item, rfl, Option.some.inj there ▸ here⟩
      | succ p => exact each p value there

namespace State

variable {s s' : State} {base filled gone i p j : Nat} {answer : Answer} {frame : Frame}

/-- Every mapping has been unmapped, and once. -/
structure Clean (s : State) : Prop where
  released : ∀ a, a ∈ s.unmapped ↔ a < s.mapped
  once : s.unmapped.Nodup

/-- The first `filled` entries of the table hold the mappings of this start, and `gone` entries
have been visited by `camera_v4l2_stop`. -/
structure Table (s : State) (base filled gone : Nat) : Prop where
  within : filled ≤ s.maps.length
  made : s.mapped = base + filled
  entry : ∀ j, j < filled → ∃ length, length ≠ 0 ∧ s.maps[j]? = some ⟨base + j, length⟩
  blank : ∀ j m, filled ≤ j → s.maps[j]? = some m → m.length = 0
  released : ∀ a, a ∈ s.unmapped ↔ a < base + min gone filled
  once : s.unmapped.Nodup

structure Planes (s : State) : Prop where
  one : 1 ≤ s.planes
  two : s.planes ≤ 2

/-- A start that has queued the buffers below `i`. -/
structure Filling (s : State) (i filled : Nat) : Prop where
  index : i < s.count
  planes : s.Planes
  size : s.maps.length = s.count * s.planes
  table : ∃ base, s.Table base filled 0
  queue : ∀ j, j < s.count → (s.queued j = true ↔ j < i)

/-- Between the return of a start and the call of a stop. -/
structure Open (s : State) : Prop where
  planes : s.Planes
  size : s.maps.length = s.count * s.planes
  table : ∃ base, s.Table base (s.count * s.planes) 0
  queue : ∀ j, j < s.count → (s.queued j = true ↔ s.dequeued ≠ some j)
  inside : ∀ j, s.dequeued = some j → j < s.count

/-- The slices of a frame lie in the mappings of its buffer. -/
structure Given (s : State) (frame : Frame) : Prop where
  planes : frame.slices.length = s.planes
  inside : ∀ p slice, frame.slices[p]? = some slice →
    s.maps[frame.index * s.planes + p]? = some slice.mapping ∧
    slice.start + slice.length ≤ slice.mapping.length ∧ slice.mapping.address ∉ s.unmapped

/-- A result that the worker retries leaves no buffer dequeued, unless it is that of `QBUF`. -/
def Retry (s : State) (next : Next) : Prop :=
  ∀ part errno, next = .error part (some errno) → errno = EAGAIN ∨ errno = ETIMEDOUT →
    part ≠ .release → s.dequeued = none

def Fits (s : State) : Pc → Prop
  | .idle | .freeBuffers => s.Clean
  | .captureType _ | .getFormat _ => s.Clean ∧ s.maps = []
  | .requestBuffers _ => (s.Clean ∧ s.maps = []) ∧ s.Planes
  | .allocate => (s.Clean ∧ s.maps = []) ∧ s.Planes ∧ 2 ≤ s.count ∧ s.queued = fun _ => false
  | .queryBuf i => s.Filling i (i * s.planes)
  | .map i p _ => s.Filling i (i * s.planes + p) ∧ p < s.planes
  | .queue i => s.Filling i (i * s.planes + s.planes)
  | .streamOn | .ready | .poll | .dequeue => s.Open ∧ s.dequeued = none
  | .consume frame => s.Open ∧ s.dequeued = some frame.index ∧ s.Given frame
  | .release frame _ => s.Open ∧ s.dequeued = some frame.index
  | .returned next => s.Open ∧ s.Retry next ∧ (next = .ok → s.dequeued = none)
  | .streamOff => ∃ base filled, s.Table base filled 0
  | .unmap j => ∃ base filled, s.Table base filled j

structure Turns (s : State) : Prop where
  once : s.requeued.Nodup
  past : ∀ n, n ∈ s.requeued ∨ n ∈ s.refused ∨ n ∈ s.consumed → n < s.turn
  apart : ∀ n, n ∈ s.requeued → n ∉ s.refused
  current : ∀ n, s.pc.holding = some n → n + 1 = s.turn ∧ n ∉ s.requeued ∧ n ∉ s.refused
  back : ∀ n, n ∈ s.consumed → s.pc.holding ≠ some n → n ∈ s.requeued ∨ n ∈ s.refused

structure Sound (s : State) : Prop where
  fits : s.Fits s.pc
  turns : s.Turns

theorem Turns.same (turns : s.Turns) (unheld : s.pc.holding = none) (turn : s'.turn = s.turn)
    (consumed : s'.consumed = s.consumed) (requeued : s'.requeued = s.requeued)
    (refused : s'.refused = s.refused) (next : s'.pc.holding = none) : s'.Turns where
  once := requeued ▸ turns.once
  past := by
    rw [turn, consumed, requeued, refused]
    exact turns.past
  apart := by
    rw [requeued, refused]
    exact turns.apart
  current := fun n holding => by
    rw [next] at holding
    contradiction
  back := by
    rw [consumed, requeued, refused]
    exact fun n there _ => turns.back n there (by simp [unheld])

theorem Sound.here (sound : s.Sound) {pc : Pc} (here : s.pc = pc) (unheld : pc.holding = none) :
    s.pc.holding = none ∧ s.Fits pc := by
  subst here
  exact ⟨unheld, sound.fits⟩

theorem Sound.to (sound : s.Sound) (unheld : s.pc.holding = none) (turn : s'.turn = s.turn)
    (consumed : s'.consumed = s.consumed) (requeued : s'.requeued = s.requeued)
    (refused : s'.refused = s.refused) (next : s'.pc.holding = none) (fits : s'.Fits s'.pc) :
    s'.Sound :=
  ⟨fits, sound.turns.same unheld turn consumed requeued refused next⟩

theorem Clean.table (clean : s.Clean) (blank : s.maps = []) {pc : Pc} {count : Nat}
    {queued : Nat → Bool} : ∃ base filled,
    { s with pc := pc, count := count, queued := queued }.Table base filled 0 :=
  ⟨s.mapped, 0, {
    within := Nat.zero_le _
    made := rfl
    entry := fun j below => by contradiction
    blank := fun j m _ there => by simp [blank] at there
    released := by simpa using clean.released
    once := clean.once }⟩

theorem Filling.stop (filling : s.Filling i filled) {pc : Pc} {dequeued : Option Nat} :
    ∃ base filled, { s with pc := pc, dequeued := dequeued }.Table base filled 0 := by
  obtain ⟨base, table⟩ := filling.table
  exact ⟨base, filled, { table with }⟩

theorem Open.stop (streaming : s.Open) {pc : Pc} :
    ∃ base filled, { s with pc := pc }.Table base filled 0 := by
  obtain ⟨base, table⟩ := streaming.table
  exact ⟨base, _, { table with }⟩

theorem Table.push (table : s.Table base filled 0) (room : filled < s.maps.length) {length : Nat}
    (some_bytes : length ≠ 0) {pc : Pc} :
    { s with
      maps := s.maps.set filled ⟨s.mapped, length⟩
      mapped := s.mapped + 1
      pc := pc }.Table base (filled + 1) 0 where
  within := by
    simp only [List.length_set]
    exact room
  made := by
    change s.mapped + 1 = base + (filled + 1)
    rw [table.made]
    rfl
  entry := fun j below => by
    rcases Nat.lt_succ_iff_lt_or_eq.mp below with earlier | rfl
    · obtain ⟨old, bytes, there⟩ := table.entry j earlier
      refine ⟨old, bytes, ?_⟩
      change (s.maps.set filled _)[j]? = _
      rw [List.getElem?_set_ne (Nat.ne_of_gt earlier)]
      exact there
    · refine ⟨length, some_bytes, ?_⟩
      change (s.maps.set j _)[j]? = _
      rw [List.getElem?_set_self room, table.made]
  blank := fun j m above there => by
    change (s.maps.set filled _)[j]? = _ at there
    rw [List.getElem?_set_ne (Nat.ne_of_lt above)] at there
    exact table.blank j m (Nat.le_of_succ_le above) there
  released := by simpa using table.released
  once := table.once

theorem Table.visit (table : s.Table base filled j) {m : Mapping} (there : s.maps[j]? = some m)
    {pc : Pc} : { s with
      unmapped := if m.length ≠ 0 then s.unmapped ++ [m.address] else s.unmapped
      pc := pc }.Table base filled (j + 1) := by
  by_cases below : j < filled
  · obtain ⟨length, bytes, here⟩ := table.entry j below
    obtain rfl := Option.some.inj (there.symm.trans here)
    rw [if_pos bytes]
    have seen : min j filled = j := Nat.min_eq_left (Nat.le_of_lt below)
    have next : min (j + 1) filled = j + 1 := Nat.min_eq_left below
    exact { table with
      released := fun a => by
        rw [List.mem_append, List.mem_singleton, table.released, seen, next]
        change a < base + j ∨ a = base + j ↔ a < base + (j + 1)
        omega
      once := by
        rw [List.nodup_append]
        refine ⟨table.once, List.nodup_singleton _, fun a old b new => ?_⟩
        rw [List.mem_singleton.mp new]
        have before := (table.released a).mp old
        rw [seen] at before
        exact Nat.ne_of_lt before }
  · have none := table.blank j m (Nat.not_lt.mp below) there
    rw [if_neg (by simp [none])]
    have seen : min j filled = filled := Nat.min_eq_right (Nat.not_lt.mp below)
    have next : min (j + 1) filled = filled := Nat.min_eq_right (by omega)
    exact { table with
      released := fun a => by
        rw [next]
        exact seen ▸ table.released a }

theorem Table.finish (table : s.Table base filled j) (beyond : s.maps[j]? = none) {pc : Pc} :
    { s with pc := pc }.Clean where
  released := fun a => by
    have past : filled ≤ j := Nat.le_trans table.within (List.getElem?_eq_none_iff.mp beyond)
    have before := table.released a
    rw [Nat.min_eq_right past, ← table.made] at before
    exact before
  once := table.once

theorem Filling.first (clean : s.Clean) (planes : s.Planes) (some_buffers : 2 ≤ s.count)
    (unqueued : s.queued = fun _ => false) :
    { s with
      maps := List.replicate (s.count * s.planes) {}
      pc := .queryBuf 0 }.Filling 0 (0 * s.planes) where
  index := Nat.lt_of_lt_of_le (by decide) some_buffers
  planes := { planes with }
  size := List.length_replicate
  table := ⟨s.mapped, {
    within := by simp
    made := by simp
    entry := fun j below => by simp at below
    blank := fun j m _ there => by
      rw [List.eq_of_mem_replicate (List.mem_of_getElem? there)]
    released := by simpa using clean.released
    once := clean.once }⟩
  queue := fun j _ => by simp [unqueued]

theorem Filling.room (filling : s.Filling i (i * s.planes + p)) (plane : p < s.planes) :
    i * s.planes + p < s.maps.length := by
  have row : i * s.planes + s.planes ≤ s.count * s.planes := by
    rw [← Nat.succ_mul]
    exact Nat.mul_le_mul_right _ filling.index
  rw [filling.size]
  omega

theorem Filling.push (filling : s.Filling i (i * s.planes + p)) (plane : p < s.planes)
    {length : Nat} (some_bytes : length ≠ 0) {pc : Pc} :
    { s with
      maps := s.maps.set (i * s.planes + p) ⟨s.mapped, length⟩
      mapped := s.mapped + 1
      pc := pc }.Filling i (i * s.planes + (p + 1)) := by
  obtain ⟨base, table⟩ := filling.table
  exact {
    index := filling.index
    planes := { filling.planes with }
    size := List.length_set.trans filling.size
    table := ⟨base, table.push (filling.room plane) some_bytes⟩
    queue := filling.queue }

theorem release_taken (taken : s.dequeued = some i) (inside : i < s.count) :
    s.release i answer = if answer.errno = 0 then
      ({ s with dequeued := none, queued := Function.update s.queued i true }, 0)
    else (s, answer.errno) := by
  unfold State.release
  rw [if_neg (by simp [taken, inside])]

theorem queue_update {b : Bool} : Function.update s.queued i b j = true ↔
    if j = i then b = true else s.queued j = true := by
  by_cases same : j = i
  · rw [same, Function.update_self, if_pos rfl]
  · rw [Function.update_of_ne same, if_neg same]

theorem Filling.next (filling : s.Filling i (i * s.planes + s.planes)) (more : i + 1 < s.count)
    {pc : Pc} : { s with
      dequeued := none
      queued := Function.update s.queued i true
      pc := pc }.Filling (i + 1) ((i + 1) * s.planes) where
  index := more
  planes := { filling.planes with }
  size := filling.size
  table := by
    obtain ⟨base, table⟩ := filling.table
    rw [Nat.succ_mul]
    exact ⟨base, { table with }⟩
  queue := fun j below => by
    rw [queue_update]
    split
    · next same => simp [same]
    · next other =>
        rw [filling.queue j below]
        omega

theorem Filling.finish (filling : s.Filling i (i * s.planes + s.planes)) (last : ¬ i + 1 < s.count)
    {pc : Pc} : { s with
      dequeued := none
      queued := Function.update s.queued i true
      pc := pc }.Open where
  planes := { filling.planes with }
  size := filling.size
  table := by
    obtain ⟨base, table⟩ := filling.table
    have all : i + 1 = s.count := Nat.le_antisymm filling.index (Nat.not_lt.mp last)
    refine ⟨base, ?_⟩
    change Table _ base (s.count * s.planes) 0
    rw [← all, Nat.succ_mul]
    exact { table with }
  queue := fun j below => by
    rw [queue_update]
    have all : i + 1 = s.count := Nat.le_antisymm filling.index (Nat.not_lt.mp last)
    have before := filling.queue j below
    change j < s.count at below
    split
    · simp
    · next other =>
        simp only [before, ne_eq, reduceCtorEq, not_false_eq_true, iff_true]
        omega
  inside := fun j there => by contradiction

theorem Open.take (streaming : s.Open) (none : s.dequeued = none) (inside : i < s.count)
    {pc : Pc} {turn : Nat} : { s with
      dequeued := some i
      queued := Function.update s.queued i false
      turn := turn
      pc := pc }.Open where
  planes := { streaming.planes with }
  size := streaming.size
  table := by
    obtain ⟨base, table⟩ := streaming.table
    exact ⟨base, { table with }⟩
  queue := fun j below => by
    rw [queue_update]
    split
    · next same => simp [same]
    · next other =>
        have before := streaming.queue j below
        simp [before, none, Ne.symm other]
  inside := fun j there => Option.some.inj there ▸ inside

private theorem Open.give (streaming : s.Open) (taken : s.dequeued = some i) {pc : Pc}
    {requeued : List Nat} : { s with
      dequeued := none
      queued := Function.update s.queued i true
      requeued := requeued
      pc := pc }.Open where
  planes := { streaming.planes with }
  size := streaming.size
  table := by
    obtain ⟨base, table⟩ := streaming.table
    exact ⟨base, { table with }⟩
  queue := fun j below => by
    rw [queue_update]
    split
    · simp
    · next other =>
        have before := streaming.queue j below
        rw [taken] at before
        simp [before, Ne.symm other]
  inside := fun j there => by contradiction

theorem Open.keep (streaming : s.Open) {pc : Pc} {active : Bool} {consumed refused : List Nat} :
    { s with pc := pc, active := active, consumed := consumed, refused := refused }.Open where
  planes := { streaming.planes with }
  size := streaming.size
  table := by
    obtain ⟨base, table⟩ := streaming.table
    exact ⟨base, { table with }⟩
  queue := streaming.queue
  inside := streaming.inside

/-! ### The turns of the buffers -/

theorem Turns.take (turns : s.Turns) (unheld : s.pc.holding = none) (turn : s'.turn = s.turn + 1)
    (consumed : s'.consumed = s.consumed) (requeued : s'.requeued = s.requeued)
    (refused : s'.refused = s.refused)
    (next : ∀ n, s'.pc.holding = some n → n = s.turn) : s'.Turns where
  once := requeued ▸ turns.once
  past := by
    rw [turn, consumed, requeued, refused]
    exact fun n there => Nat.lt_succ_of_lt (turns.past n there)
  apart := by
    rw [requeued, refused]
    exact turns.apart
  current := by
    rw [turn, requeued, refused]
    intro n holding
    obtain rfl := next n holding
    exact ⟨rfl, fun there => Nat.lt_irrefl _ (turns.past _ (.inl there)),
      fun there => Nat.lt_irrefl _ (turns.past _ (.inr (.inl there)))⟩
  back := by
    rw [consumed, requeued, refused]
    exact fun n there _ => turns.back n there (by simp [unheld])

theorem Turns.consume (turns : s.Turns) (here : s.pc = .consume frame) {after : After} :
    { s with consumed := s.consumed ++ [frame.turn], pc := .release frame after }.Turns := by
  have holding : s.pc.holding = some frame.turn := by rw [here]; rfl
  obtain ⟨latest, unqueued, unrefused⟩ := turns.current frame.turn holding
  exact {
    once := turns.once
    past := fun n there => by
      rcases there with queued | refused | consumed
      · exact turns.past n (.inl queued)
      · exact turns.past n (.inr (.inl refused))
      · rcases List.mem_append.mp consumed with earlier | now
        · exact turns.past n (.inr (.inr earlier))
        · rw [List.mem_singleton.mp now]
          exact Nat.lt_of_succ_le (Nat.le_of_eq latest)
    apart := turns.apart
    current := fun n same => by
      obtain rfl := Option.some.inj same
      exact ⟨latest, unqueued, unrefused⟩
    back := fun n consumed other => by
      rcases List.mem_append.mp consumed with earlier | now
      · exact turns.back n earlier (holding ▸ other)
      · exact absurd (congrArg some (List.mem_singleton.mp now).symm) other }

theorem Turns.release (turns : s.Turns) {after : After} (here : s.pc = .release frame after)
    (turn : s'.turn = s.turn) (consumed : s'.consumed = s.consumed)
    (either : s'.requeued = s.requeued ++ [frame.turn] ∧ s'.refused = s.refused ∨
      s'.requeued = s.requeued ∧ s'.refused = s.refused ++ [frame.turn])
    (next : s'.pc.holding = none) : s'.Turns := by
  have holding : s.pc.holding = some frame.turn := by rw [here]; rfl
  obtain ⟨latest, unqueued, unrefused⟩ := turns.current frame.turn holding
  have past : frame.turn < s.turn := Nat.lt_of_succ_le (Nat.le_of_eq latest)
  have back : ∀ n, n ∈ s.consumed → n = frame.turn ∨ n ∈ s.requeued ∨ n ∈ s.refused := by
    intro n there
    by_cases same : n = frame.turn
    · exact .inl same
    · exact .inr (turns.back n there (by simp [holding, Ne.symm same]))
  have unheld : ∀ n, s'.pc.holding ≠ some n := fun n holding => by
    rw [next] at holding
    contradiction
  rcases either with ⟨requeued, refused⟩ | ⟨requeued, refused⟩
  · constructor
    · rw [requeued, List.nodup_append]
      refine ⟨turns.once, List.nodup_singleton _, fun a old b new => ?_⟩
      rw [List.mem_singleton.mp new]
      exact fun same => unqueued (same ▸ old)
    · rw [turn, consumed, requeued, refused]
      intro n there
      rcases there with queued | either
      · rcases List.mem_append.mp queued with earlier | now
        · exact turns.past n (.inl earlier)
        · exact List.mem_singleton.mp now ▸ past
      · exact turns.past n (.inr either)
    · rw [requeued, refused]
      intro n there
      rcases List.mem_append.mp there with earlier | now
      · exact turns.apart n earlier
      · exact List.mem_singleton.mp now ▸ unrefused
    · exact fun n holding => absurd holding (unheld n)
    · rw [consumed, requeued, refused]
      intro n there _
      rcases back n there with rfl | queued | refused
      · exact .inl (List.mem_append_right _ List.mem_cons_self)
      · exact .inl (List.mem_append_left _ queued)
      · exact .inr refused
  · constructor
    · exact requeued ▸ turns.once
    · rw [turn, consumed, requeued, refused]
      intro n there
      rcases there with queued | refused | consumed
      · exact turns.past n (.inl queued)
      · rcases List.mem_append.mp refused with earlier | now
        · exact turns.past n (.inr (.inl earlier))
        · exact List.mem_singleton.mp now ▸ past
      · exact turns.past n (.inr (.inr consumed))
    · rw [requeued, refused]
      intro n queued there
      rcases List.mem_append.mp there with earlier | now
      · exact turns.apart n queued earlier
      · exact unqueued (List.mem_singleton.mp now ▸ queued)
    · exact fun n holding => absurd holding (unheld n)
    · rw [consumed, requeued, refused]
      intro n there _
      rcases back n there with rfl | queued | refused
      · exact .inr (List.mem_append_right _ List.mem_cons_self)
      · exact .inl queued
      · exact .inr (List.mem_append_left _ refused)

/-! ### Steps -/

theorem Sound.failed (sound : s.Sound) (unheld : s.pc.holding = none) (streaming : s.Open)
    {part : Part} {errno : Errno}
    (retry : errno = EAGAIN ∨ errno = ETIMEDOUT → s.dequeued = none) :
    (s.fail part errno).Sound := by
  refine sound.to unheld rfl rfl rfl rfl rfl ⟨streaming.keep, ?_, by simp⟩
  intro other number same retried _
  simp only [Next.error.injEq, Option.some.injEq] at same
  obtain ⟨rfl, rfl⟩ := same
  exact retry retried

theorem Sound.next (sound : s.Sound) (unheld : s.pc.holding = none) (streaming : s.Open) :
    s.next.Sound := by
  unfold State.next
  split
  · exact sound.failed unheld streaming (by simp [EBUSY, EAGAIN, ETIMEDOUT])
  · next none =>
      refine sound.to unheld rfl rfl rfl rfl rfl ⟨streaming.keep, ?_⟩
      exact Option.not_isSome_iff_eq_none.mp none

theorem Sound.start (sound : s.Sound) (here : s.pc = .idle) {count : Nat} : { s with
    multi := false
    active := false
    count := 0
    planes := 0
    dequeued := none
    maps := []
    pc := .captureType count }.Sound := by
  have clean := sound.fits
  rw [here] at clean
  exact sound.to (by rw [here]; rfl) rfl rfl rfl rfl rfl ⟨⟨clean.released, clean.once⟩, rfl⟩

theorem slice_inside {slice : Slice} (made : s.slice answer p = some slice) :
    slice.mapping = s.maps.getD (answer.index * s.planes + p) {} ∧
      slice.start + slice.length ≤ slice.mapping.length := by
  obtain ⟨fits, made⟩ := Option.ite_none_left_eq_some.mp made
  obtain rfl := Option.some.inj made
  refine ⟨rfl, ?_⟩
  dsimp only
  omega

theorem Open.given (streaming : s.Open) (inside : answer.index < s.count) {slices : List Slice}
    (all : (List.range s.planes).mapM (s.slice answer) = some slices) {turn : Nat} :
    s.Given ⟨answer.index, s.planes, slices, turn⟩ := by
  obtain ⟨length, each⟩ := mapM_getElem? all
  obtain ⟨base, table⟩ := streaming.table
  refine ⟨length.trans List.length_range, fun p slice there => ?_⟩
  obtain ⟨plane, listed, made⟩ := each p slice there
  obtain ⟨below, same⟩ := List.getElem?_eq_some_iff.mp listed
  rw [List.length_range] at below
  rw [List.getElem_range] at same
  subst same
  obtain ⟨mapping, fits⟩ := slice_inside made
  have row : answer.index * s.planes + s.planes ≤ s.count * s.planes := by
    rw [← Nat.succ_mul]
    exact Nat.mul_le_mul_right _ inside
  obtain ⟨bytes, _, entry⟩ := table.entry (answer.index * s.planes + p) (by omega)
  have same : slice.mapping = ⟨base + (answer.index * s.planes + p), bytes⟩ := by
    rw [mapping, List.getD_eq_getElem?_getD, entry]
    rfl
  refine ⟨same ▸ entry, fits, fun gone => ?_⟩
  have before := (table.released _).mp gone
  rw [same] at before
  dsimp only at before
  omega

theorem Sound.dequeue (sound : s.Sound) (here : s.pc = .dequeue) : (s.dequeue answer).Sound := by
  obtain ⟨unheld, streaming, none⟩ := sound.here here rfl
  unfold State.dequeue
  split
  · exact sound.failed unheld streaming (by simp [EAGAIN, EIO, ETIMEDOUT])
  · next inside =>
      have taken := @Open.take s answer.index streaming none (Nat.not_le.mp inside)
      have failed : ∀ errno, errno ≠ EAGAIN → errno ≠ ETIMEDOUT → { s with
          dequeued := some answer.index
          queued := Function.update s.queued answer.index false
          turn := s.turn + 1
          pc := .returned (.error .frame (some errno)) }.Sound := by
        intro errno again timedOut
        refine ⟨⟨taken, ?_, by simp⟩,
          sound.turns.take unheld rfl rfl rfl rfl fun n holding => by contradiction⟩
        intro part number same retried _
        simp only [Next.error.injEq, Option.some.injEq] at same
        obtain ⟨_, rfl⟩ := same
        exact absurd retried (by simp [again, timedOut])
      dsimp only
      split
      · exact failed EIO (by decide) (by decide)
      · split
        · exact failed EIO (by decide) (by decide)
        · next slices all =>
            have given := @Open.given s answer streaming (Nat.not_le.mp inside) slices all s.turn
            have turns : ∀ n, some s.turn = some n → n = s.turn := fun n same =>
              (Option.some.inj same).symm
            split
            · exact ⟨⟨taken, rfl, { given with }⟩,
                sound.turns.take unheld rfl rfl rfl rfl turns⟩
            · exact ⟨⟨taken, rfl⟩, sound.turns.take unheld rfl rfl rfl rfl turns⟩

theorem Sound.release (sound : s.Sound) {after : After} (here : s.pc = .release frame after)
    (taken : s.drive answer = some s') : s'.Sound := by
  have fits := sound.fits
  rw [here] at fits
  obtain ⟨streaming, dequeued⟩ := fits
  simp only [State.drive, here, release_taken dequeued (streaming.inside _ dequeued)] at taken
  by_cases ok : answer.errno = 0
  · have given := @Open.give s frame.index streaming dequeued
    simp only [ok, if_true, ne_eq, not_true_eq_false, if_false] at taken
    cases after with
    | result errno =>
        cases errno with
        | none =>
            obtain rfl := Option.some.inj taken
            exact ⟨⟨given, by simp [Retry], fun _ => rfl⟩,
              sound.turns.release here rfl rfl (.inl ⟨rfl, rfl⟩) rfl⟩
        | some errno =>
            obtain rfl := Option.some.inj taken
            refine ⟨⟨given, ?_, by simp⟩,
              sound.turns.release here rfl rfl (.inl ⟨rfl, rfl⟩) rfl⟩
            exact fun _ _ _ _ _ => rfl
    | invalid =>
        obtain rfl := Option.some.inj taken
        exact ⟨⟨given, by simp [Retry], by simp⟩,
          sound.turns.release here rfl rfl (.inl ⟨rfl, rfl⟩) rfl⟩
    | unwind =>
        obtain rfl := Option.some.inj taken
        exact ⟨(@given .streamOff _).stop,
          sound.turns.release here rfl rfl (.inl ⟨rfl, rfl⟩) rfl⟩
  · simp only [ok, if_false, ne_eq, not_false_eq_true, if_true] at taken
    cases after with
    | result errno =>
        obtain rfl := Option.some.inj taken
        refine ⟨⟨streaming.keep, ?_, by simp⟩,
          sound.turns.release here rfl rfl (.inr ⟨rfl, rfl⟩) rfl⟩
        intro part number same _ other
        simp only [Next.error.injEq] at same
        exact absurd same.1.symm other
    | invalid =>
        obtain rfl := Option.some.inj taken
        exact ⟨⟨streaming.keep, by simp [Retry], by simp⟩,
          sound.turns.release here rfl rfl (.inr ⟨rfl, rfl⟩) rfl⟩
    | unwind =>
        obtain rfl := Option.some.inj taken
        obtain ⟨base, table⟩ := streaming.table
        exact ⟨⟨base, _, { table with }⟩,
          sound.turns.release here rfl rfl (.inr ⟨rfl, rfl⟩) rfl⟩

theorem Sound.requestBuffers (sound : s.Sound) {count : Nat} (here : s.pc = .requestBuffers count)
    (taken : s.drive answer = some s') : s'.Sound := by
  obtain ⟨unheld, ⟨clean, blank⟩, planes⟩ := sound.here here rfl
  simp only [State.drive, here] at taken
  split at taken
  · obtain rfl := Option.some.inj taken
    exact sound.to unheld rfl rfl rfl rfl rfl { clean with }
  · obtain rfl := Option.some.inj taken
    split
    · exact sound.to unheld rfl rfl rfl rfl rfl (clean.table blank)
    · next valid =>
        have enough : 2 ≤ answer.count := by omega
        exact sound.to unheld rfl rfl rfl rfl rfl
          ⟨⟨{ clean with }, blank⟩, { planes with }, enough, rfl⟩

theorem Sound.map (sound : s.Sound) {buf : Answer} (here : s.pc = .map i p buf)
    (taken : s.drive answer = some s') : s'.Sound := by
  obtain ⟨unheld, filling, plane⟩ := sound.here here rfl
  simp only [State.drive, here] at taken
  generalize (if s.multi then buf.planeLength p else buf.length) = length at taken
  split at taken
  · obtain rfl := Option.some.inj taken
    exact sound.to unheld rfl rfl rfl rfl rfl
      (@Filling.stop s _ _ filling .streamOff s.dequeued)
  · next valid =>
      obtain rfl := Option.some.inj taken
      have pushed := @Filling.push s i p filling plane length (by omega)
      split
      · next more => exact sound.to unheld rfl rfl rfl rfl rfl ⟨pushed, more⟩
      · next last =>
          have full : p + 1 = s.planes := by omega
          refine sound.to unheld rfl rfl rfl rfl rfl ?_
          have done := @pushed (.queue i)
          rw [full] at done
          exact done

theorem Sound.queue (sound : s.Sound) (here : s.pc = .queue i)
    (taken : s.drive answer = some s') : s'.Sound := by
  obtain ⟨unheld, fits⟩ := sound.here here rfl
  have released := @release_taken { s with dequeued := some i } i answer rfl fits.index
  rw [here] at released
  simp only [State.drive, here, released] at taken
  by_cases ok : answer.errno = 0
  · simp only [ok, if_true, ne_eq, not_true_eq_false, if_false] at taken
    obtain rfl := Option.some.inj taken
    split
    · next more => exact sound.to unheld rfl rfl rfl rfl rfl (fits.next more)
    · next last => exact sound.to unheld rfl rfl rfl rfl rfl ⟨fits.finish last, rfl⟩
  · simp only [ok, if_false, ne_eq, not_false_eq_true, if_true] at taken
    obtain rfl := Option.some.inj taken
    exact sound.to unheld rfl rfl rfl rfl rfl
      (@Filling.stop s _ _ fits .streamOff (some i))

theorem Sound.poll (sound : s.Sound) (here : s.pc = .poll)
    (taken : s.drive answer = some s') : s'.Sound := by
  obtain ⟨unheld, streaming, none⟩ := sound.here here rfl
  have failed : ∀ errno, (s.fail .poll errno).Sound := fun errno =>
    sound.failed unheld streaming fun _ => none
  simp only [State.drive, here] at taken
  split at taken
  · exact Option.some.inj taken ▸ failed answer.errno
  · split at taken
    · exact Option.some.inj taken ▸ failed ETIMEDOUT
    · split at taken
      · exact Option.some.inj taken ▸ failed ECANCELED
      · split at taken
        · exact Option.some.inj taken ▸ failed ENODEV
        · split at taken
          · exact Option.some.inj taken ▸ failed EIO
          · obtain rfl := Option.some.inj taken
            exact sound.to unheld rfl rfl rfl rfl rfl ⟨streaming.keep, none⟩

theorem Sound.unmap (sound : s.Sound) (here : s.pc = .unmap j)
    (taken : s.drive answer = some s') : s'.Sound := by
  obtain ⟨unheld, base, filled, table⟩ := sound.here here rfl
  simp only [State.drive, here] at taken
  split at taken
  · next beyond =>
      obtain rfl := Option.some.inj taken
      exact sound.to unheld rfl rfl rfl rfl rfl (table.finish beyond)
  · next m there =>
      have visited := @Table.visit s base filled j table m there (.unmap (j + 1))
      split at taken
      · next bytes =>
          obtain rfl := Option.some.inj taken
          rw [if_pos bytes] at visited
          exact sound.to unheld rfl rfl rfl rfl rfl ⟨base, filled, visited⟩
      · next blank =>
          obtain rfl := Option.some.inj taken
          rw [if_neg blank] at visited
          exact sound.to unheld rfl rfl rfl rfl rfl ⟨base, filled, visited⟩

theorem Sound.drive (sound : s.Sound) (taken : s.drive answer = some s') : s'.Sound := by
  cases here : s.pc with
  | idle => simp [State.drive, here] at taken
  | ready => simp [State.drive, here] at taken
  | consume frame => simp [State.drive, here] at taken
  | returned next => simp [State.drive, here] at taken
  | release frame after => exact sound.release here taken
  | captureType count =>
      obtain ⟨unheld, clean, blank⟩ := sound.here here rfl
      simp only [State.drive, here] at taken
      split at taken
      · obtain rfl := Option.some.inj taken
        exact sound.to unheld rfl rfl rfl rfl rfl { clean with }
      · obtain rfl := Option.some.inj taken
        exact sound.to unheld rfl rfl rfl rfl rfl ⟨{ clean with }, blank⟩
  | getFormat count =>
      obtain ⟨unheld, clean, blank⟩ := sound.here here rfl
      simp only [State.drive, here] at taken
      generalize (if s.multi then answer.numPlanes else 1) = planes at taken
      split at taken
      · obtain rfl := Option.some.inj taken
        exact sound.to unheld rfl rfl rfl rfl rfl { clean with }
      · next valid =>
          obtain rfl := Option.some.inj taken
          refine sound.to unheld rfl rfl rfl rfl rfl ⟨⟨{ clean with }, blank⟩, ?_, ?_⟩
          all_goals
            dsimp only
            omega
  | requestBuffers count => exact sound.requestBuffers here taken
  | allocate =>
      obtain ⟨unheld, ⟨clean, blank⟩, planes, enough, unqueued⟩ := sound.here here rfl
      simp only [State.drive, here] at taken
      split at taken
      · obtain rfl := Option.some.inj taken
        exact sound.to unheld rfl rfl rfl rfl rfl
          (@Clean.table s clean blank .streamOff s.count s.queued)
      · obtain rfl := Option.some.inj taken
        exact sound.to unheld rfl rfl rfl rfl rfl (Filling.first clean planes enough unqueued)
  | queryBuf i =>
      obtain ⟨unheld, fits⟩ := sound.here here rfl
      simp only [State.drive, here] at taken
      split at taken
      · obtain rfl := Option.some.inj taken
        exact sound.to unheld rfl rfl rfl rfl rfl (@Filling.stop s _ _ fits .streamOff s.dequeued)
      · obtain rfl := Option.some.inj taken
        refine sound.to unheld rfl rfl rfl rfl rfl ⟨?_, fits.planes.one⟩
        exact { fits with
          planes := { fits.planes with }
          table := by
            obtain ⟨base, table⟩ := fits.table
            exact ⟨base, { table with }⟩ }
  | map i p buf => exact sound.map here taken
  | queue i => exact sound.queue here taken
  | streamOn =>
      obtain ⟨unheld, streaming, none⟩ := sound.here here rfl
      simp only [State.drive, here] at taken
      split at taken
      · obtain rfl := Option.some.inj taken
        exact sound.to unheld rfl rfl rfl rfl rfl streaming.stop
      · obtain rfl := Option.some.inj taken
        exact sound.to unheld rfl rfl rfl rfl rfl ⟨streaming.keep, none⟩
  | poll => exact sound.poll here taken
  | dequeue =>
      obtain ⟨unheld, streaming, none⟩ := sound.here here rfl
      simp only [State.drive, here] at taken
      split at taken
      · obtain rfl := Option.some.inj taken
        exact sound.failed unheld streaming fun _ => none
      · exact Option.some.inj taken ▸ sound.dequeue here
  | streamOff =>
      obtain ⟨unheld, base, filled, table⟩ := sound.here here rfl
      simp only [State.drive, here] at taken
      obtain rfl := Option.some.inj taken
      exact sound.to unheld rfl rfl rfl rfl rfl ⟨base, filled, { table with }⟩
  | unmap j => exact sound.unmap here taken
  | freeBuffers =>
      obtain ⟨unheld, fits⟩ := sound.here here rfl
      simp only [State.drive, here] at taken
      obtain rfl := Option.some.inj taken
      exact sound.to unheld rfl rfl rfl rfl rfl { fits with }

theorem Sound.proceed {giveUp : Bool} (sound : s.Sound) (taken : s.proceed giveUp = some s') :
    s'.Sound := by
  unfold State.proceed at taken
  split at taken
  · next here =>
      obtain ⟨unheld, fits⟩ := sound.here here rfl
      split at taken
      · obtain rfl := Option.some.inj taken
        exact sound.to unheld rfl rfl rfl rfl rfl fits.1.stop
      · exact Option.some.inj taken ▸ sound.next unheld fits.1
  · next here =>
      obtain ⟨unheld, fits⟩ := sound.here here rfl
      exact Option.some.inj taken ▸ sound.next unheld fits.1
  · next here =>
      obtain ⟨unheld, fits⟩ := sound.here here rfl
      split at taken
      · split at taken
        · obtain rfl := Option.some.inj taken
          exact sound.to unheld rfl rfl rfl rfl rfl fits.1.stop
        · exact Option.some.inj taken ▸ sound.next unheld fits.1
      · obtain rfl := Option.some.inj taken
        exact sound.to unheld rfl rfl rfl rfl rfl fits.1.stop
  · contradiction

theorem Sound.step {action : Action} (sound : s.Sound) (taken : s.step action = some s') :
    s'.Sound := by
  cases action with
  | start count =>
      simp only [State.step] at taken
      split at taken
      · next here =>
          split at taken
          · exact Option.some.inj taken ▸ sound
          · exact Option.some.inj taken ▸ sound.start here
      · contradiction
  | driver answer => exact sound.drive taken
  | consume outcome =>
      simp only [State.step] at taken
      split at taken
      · next frame here =>
          have fits := sound.fits
          rw [here] at fits
          cases outcome with
          | returned errno =>
              obtain rfl := Option.some.inj taken
              exact ⟨⟨fits.1.keep, fits.2.1⟩, sound.turns.consume here⟩
          | panicked =>
              obtain rfl := Option.some.inj taken
              exact ⟨⟨fits.1.keep, fits.2.1⟩, sound.turns.consume here⟩
      · contradiction
  | proceed giveUp => exact sound.proceed taken

theorem Sound.initial : ({} : State).Sound where
  fits := ⟨by simp, List.nodup_nil⟩
  turns := {
    once := List.nodup_nil
    past := by simp
    apart := by simp
    current := fun n holding => by contradiction
    back := by simp }

theorem Fits.open {pc : Pc} (fits : s.Fits pc) (streaming : pc.streaming = true) : s.Open := by
  cases pc with
  | ready => exact fits.1
  | poll => exact fits.1
  | dequeue => exact fits.1
  | consume frame => exact fits.1
  | release frame after => exact fits.1
  | returned next => exact fits.1
  | _ => contradiction

theorem Fits.unmapped {pc : Pc} (fits : s.Fits pc) :
    s.unmapped.Nodup ∧ ∀ a, a ∈ s.unmapped → a < s.mapped := by
  have clean : s.Clean → s.unmapped.Nodup ∧ ∀ a, a ∈ s.unmapped → a < s.mapped := fun clean =>
    ⟨clean.once, fun a => (clean.released a).mp⟩
  have table : ∀ {base filled gone}, s.Table base filled gone →
      s.unmapped.Nodup ∧ ∀ a, a ∈ s.unmapped → a < s.mapped := fun table =>
    ⟨table.once, fun a there => by
      have before := (table.released a).mp there
      rw [table.made]
      omega⟩
  have streaming : s.Open → s.unmapped.Nodup ∧ ∀ a, a ∈ s.unmapped → a < s.mapped :=
    fun streaming => by
      obtain ⟨base, held⟩ := streaming.table
      exact table held
  have filling : ∀ {i filled}, s.Filling i filled →
      s.unmapped.Nodup ∧ ∀ a, a ∈ s.unmapped → a < s.mapped := fun filling => by
    obtain ⟨base, held⟩ := filling.table
    exact table held
  cases pc with
  | idle => exact clean fits
  | freeBuffers => exact clean fits
  | captureType count => exact clean fits.1
  | getFormat count => exact clean fits.1
  | requestBuffers count => exact clean fits.1.1
  | allocate => exact clean fits.1.1
  | queryBuf i => exact filling fits
  | map i p buf => exact filling fits.1
  | queue i => exact filling fits
  | streamOn => exact streaming fits.1
  | ready => exact streaming fits.1
  | poll => exact streaming fits.1
  | dequeue => exact streaming fits.1
  | consume frame => exact streaming fits.1
  | release frame after => exact streaming fits.1
  | returned next => exact streaming fits.1
  | streamOff =>
      obtain ⟨base, filled, held⟩ := fits
      exact table held
  | unmap j =>
      obtain ⟨base, filled, held⟩ := fits
      exact table held

/-- The buffers and mappings of a stream in any state; the consumer has its slices only while
it runs. -/
structure Owned (s : State) : Prop where
  outside : s.pc.streaming = true → ∀ i, i < s.count → (s.queued i = false ↔ s.dequeued = some i)
  recorded : s.pc.streaming = true → ∀ i, s.dequeued = some i → i < s.count
  consumer : ∀ frame, s.pc = .consume frame →
    s.dequeued = some frame.index ∧ s.queued frame.index = false ∧ s.Given frame
  queuedOnce : ∀ n, s.requeued.count n ≤ 1
  queuedBack : ∀ n, n ∈ s.consumed → s.pc.holding ≠ some n → n ∉ s.refused → s.requeued.count n = 1
  retry : ∀ part errno, s.pc = .returned (.error part (some errno)) →
    errno = EAGAIN ∨ errno = ETIMEDOUT → part ≠ .release → s.dequeued = none
  unmappedOnce : ∀ a, s.unmapped.count a ≤ 1
  unmapped : s.pc = .idle → ∀ a, a < s.mapped → s.unmapped.count a = 1

theorem Open.outside (streaming : s.Open) (inside : i < s.count) :
    s.queued i = false ↔ s.dequeued = some i := by
  have queue := streaming.queue i inside
  rw [← Bool.not_eq_true, queue, not_not]

theorem Sound.owned (sound : s.Sound) : s.Owned where
  outside := fun streaming i inside => (sound.fits.open streaming).outside inside
  recorded := fun streaming => (sound.fits.open streaming).inside
  consumer := fun frame here => by
    have fits := sound.fits
    rw [here] at fits
    obtain ⟨streaming, taken, given⟩ := fits
    exact ⟨taken, (streaming.outside (streaming.inside _ taken)).mpr taken, given⟩
  queuedOnce := fun n => List.nodup_iff_count_le_one.mp sound.turns.once n
  queuedBack := fun n consumed passed unrefused => by
    have back := (sound.turns.back n consumed passed).resolve_right unrefused
    exact List.count_eq_one_of_mem sound.turns.once back
  retry := fun part errno here => by
    have fits := sound.fits
    rw [here] at fits
    exact fits.2.1 part errno rfl
  unmappedOnce := fun a => List.nodup_iff_count_le_one.mp sound.fits.unmapped.1 a
  unmapped := fun here a made => by
    have clean := sound.fits
    rw [here] at clean
    exact List.count_eq_one_of_mem clean.once ((clean.released a).mpr made)

end State

/-- Whatever the driver answers, and wherever a start fails. -/
theorem buffers_owned {s : State} {admits : State → Action → Prop}
    (reached : machine.Reachable admits s) : s.Owned := by
  have sound : s.Sound := by
    refine reached.invariant ?_ ?_
    · intro state start
      rw [show state = {} from start]
      exact State.Sound.initial
    · exact fun _ _ _ _ taken sound => sound.step taken
  exact sound.owned

section Runs

/-- Two buffers of one plane; the second one holds a frame. -/
def fine : Answer := { count := 2, length := 16, bytesused := 8, readable := true, index := 1 }

def started : List Action := .start 2 :: List.replicate 11 (.driver fine)

/-- A frame is consumed and given back, and the stream is cancelled and closed. -/
def captured : List Action :=
  started ++ [Action.proceed false, .driver fine, .driver fine, .consume (.returned none),
    .driver fine, .proceed false, .driver { wake := true }, .proceed false] ++
  List.replicate 5 (Action.driver fine)

end Runs

theorem buffers_owned_captured : ∃ s, machine.Reachable Lib.Machine.anything s ∧
    s.requeued = [0] ∧ s.unmapped = [0, 1] ∧ s.Owned := by
  have passed : ((machine.exec (fun _ _ => true) {} captured).any fun s =>
      decide (s.requeued = [0] ∧ s.unmapped = [0, 1])) = true := by decide +kernel
  obtain ⟨s, reached, holds⟩ := Lib.Machine.Reachable.of_exec rfl passed
  obtain ⟨requeued, unmapped⟩ := of_decide_eq_true holds
  have anything := reached.mono fun _ _ _ => trivial
  exact ⟨s, anything, requeued, unmapped, buffers_owned anything⟩

/-- `REQBUFS` has succeeded, and no buffer has been queued yet. -/
def requested : List Action := .start 2 :: List.replicate 3 (.driver fine)

/-- `QBUF` times out when the consumer has run. -/
def releaseTimedOut : List Action :=
  started ++ [Action.proceed false, .driver fine, .driver fine, .consume (.returned none),
    .driver { errno := ETIMEDOUT }]

def Pc.timedOut : Pc → Bool
  | .returned (.error _ (some errno)) => errno == ETIMEDOUT
  | _ => false

theorem not_always_owned :
    (∃ s, machine.Run Lib.Machine.anything {} requested s ∧ s.count = 2 ∧
      s.queued 0 = false ∧ s.queued 1 = false ∧ s.dequeued = none) ∧
    ∃ s, machine.Run Lib.Machine.anything {} releaseTimedOut s ∧
      s.pc.timedOut = true ∧ s.dequeued = some 1 := by
  constructor
  · have passed : ((machine.exec (fun _ _ => true) {} requested).any fun s => decide (s.count = 2 ∧
        s.queued 0 = false ∧ s.queued 1 = false ∧ s.dequeued = none)) = true := by decide +kernel
    obtain ⟨s, run, holds⟩ := Lib.Machine.run_of_passed passed
    exact ⟨s, run.mono fun _ _ _ => trivial, of_decide_eq_true holds⟩
  · have passed : ((machine.exec (fun _ _ => true) {} releaseTimedOut).any fun s =>
        decide (s.pc.timedOut = true ∧ s.dequeued = some 1)) = true := by decide +kernel
    obtain ⟨s, run, holds⟩ := Lib.Machine.run_of_passed passed
    exact ⟨s, run.mono fun _ _ _ => trivial, of_decide_eq_true holds⟩

end CameraRs.V4l2.Stream

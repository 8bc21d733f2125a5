/-
Queues after `stop`.

`stop` clears the queues before it makes the hub inactive. A hub that is inactive has
empty queues if nothing enters a queue between the two accesses; then no frame of the
stopped session is ever in a queue again.
-/

import CameraRs.Frame.Epoch

namespace CameraRs.Frame

/-- A frame that is delivered now enters the queue. -/
def Receiver.accepts (r : Receiver) (raised : List FlagId) (frame : CapturedFrame) : Bool :=
  r.registered && r.alive && !r.owner.any raised.contains && !r.tooEarly frame

/-- The stages of `stop` before the hub is inactive. -/
def Pc.stopping : Pc → Bool
  | .stopMark | .stopClear | .stopDeactivate => true
  | _ => false

def Pc.deactivates : Pc → Bool
  | .stopDeactivate => true
  | _ => false

/-- A `stop` has cleared the queues and will make the hub inactive. -/
def FrameHub.cleared (s : FrameHub) : Bool := s.ops.any Pc.deactivates

/-- No frame enters a queue between the two accesses of a `stop`. -/
def stopsQuietly (s : FrameHub) : Action → Bool
  | .run i env =>
      match s.ops[i]? with
      | some (.finishing job lease _) =>
          !(s.cleared && s.isCurrent job.session &&
            s.receivers.any (·.accepts s.raised (s.capture job lease env.timestampNs)))
      | some (.subscribePush _) => !(s.cleared && s.state.latest.isSome)
      | _ => true
  | _ => true

variable {s t : FrameHub} {i : OpId} {pc after : Pc} {a : Action} {k : Nat}

theorem Receiver.offer_refused {r : Receiver} {raised : List FlagId} {frame f : CapturedFrame}
    (refused : r.accepts raised frame = false) (member : f ∈ (r.offer raised frame).queue) :
    f ∈ r.queue := by
  unfold Receiver.offer at member
  split at member
  · exact member
  · next registered =>
      split at member
      · exact member
      · next alive =>
          split at member
          · contradiction
          · next owner =>
              split at member
              · exact member
              · next early =>
                  simp_all [Receiver.accepts]

/-! ### Receivers that `clear_queues` passes over -/

/-- A receiver without registration, or that is dropped, has an empty queue. -/
def Receiver.Detached (r : Receiver) : Prop :=
  r.registered = false ∨ r.alive = false → r.queue = []

namespace Receiver

variable {r r' : Receiver}

theorem Detached.clear (detached : r.Detached) : r.clear.queue = [] := by
  unfold Receiver.clear
  split
  · split
    · rfl
    · next dead => exact detached (.inr (by simpa using dead))
  · next unregistered => exact detached (.inl (by simpa using unregistered))

theorem enqueue_flags (frame : CapturedFrame) :
    (r.enqueue frame).registered = r.registered ∧ (r.enqueue frame).alive = r.alive := by
  unfold enqueue
  split
  · exact ⟨rfl, rfl⟩
  · split
    · split <;> exact ⟨rfl, rfl⟩
    · exact ⟨rfl, rfl⟩

theorem Detached.offer (detached : r.Detached) (raised : List FlagId) (frame : CapturedFrame) :
    (r.offer raised frame).Detached := by
  unfold Receiver.offer
  split
  · exact detached
  · next registered =>
      split
      · next dead => exact fun _ => detached (.inr (by simpa using dead))
      · next alive =>
          have attached : ∀ q : Receiver, q.registered = r.registered → q.alive = r.alive →
              q.Detached := by
            rintro q same same' (gone | gone)
            · exact absurd (same ▸ gone) (by simpa using registered)
            · exact absurd (same' ▸ gone) (by simpa using alive)
          split
          · exact fun _ => rfl
          · split
            · exact attached _ rfl rfl
            · split
              · exact attached _ (enqueue_flags frame).1 (enqueue_flags frame).2
              · exact attached _ (enqueue_flags frame).1 (enqueue_flags frame).2

theorem Reads.detached (reads : r.Reads r') (detached : r.Detached) : r'.Detached := by
  intro gone
  have emptied : r.queue = [] → r'.queue = [] := by
    intro empty
    refine List.eq_nil_iff_forall_not_mem.mpr fun f member => ?_
    have before := reads.queue f member
    rw [empty] at before
    contradiction
  rcases reads.alive with same | empty
  · rw [reads.registered, same] at gone
    exact emptied (detached gone)
  · exact empty

end Receiver

/-! ### A hub that is stopped has empty queues -/

/-- The hub is inactive, or a `stop` has cleared the queues. -/
def FrameHub.Settled (s : FrameHub) : Prop := s.state.active = false ∨ s.cleared = true

structure Emptied (s : FrameHub) : Prop where
  fresh : s.Fresh
  detached : ∀ r ∈ s.receivers, r.Detached
  empty : s.Settled → ∀ f, ¬ s.Queued f

theorem not_queued_clearQueues (detached : ∀ r ∈ s.receivers, r.Detached) (f : CapturedFrame) :
    ¬ s.clearQueues.Queued f := by
  rintro ⟨_, cleared, inside⟩
  obtain ⟨r, member, rfl⟩ := List.mem_map.mp cleared
  rw [(detached r member).clear] at inside
  contradiction

theorem Access.deactivates (access : Access s pc t after) (next : after.deactivates = true) :
    pc = .stopClear := by
  cases access with
  | @lookRefused job stale =>
      obtain ⟨answer, same⟩ := exhausted_answers job
      rw [same] at next
      contradiction
  | @poolRefused job length stale =>
      obtain ⟨answer, same⟩ := exhausted_answers job
      rw [same] at next
      contradiction
  | @reserved job length raced unlocked current =>
      unfold FrameHub.reserve at next
      split at next
      · contradiction
      · obtain ⟨answer, same⟩ := exhausted_answers job
        rw [same] at next
        contradiction
  | @recordRefused session activity failed => cases failed <;> contradiction
  | @woken failed => cases failed <;> contradiction
  | @charged session activity failed after unlocked goes =>
      rcases goes with rfl | rfl
      · contradiction
      · cases failed <;> contradiction
  | budgetRead goes => rcases goes with rfl | ⟨error, rfl⟩ <;> contradiction
  | stopClear => rfl
  | _ => contradiction

theorem Access.settled (access : Access s pc t after) (at_pc : s.ops[i]? = some pc)
    (settled : FrameHub.Settled { t with ops := s.ops.set i after }) :
    s.Settled ∨ pc = .stopClear := by
  rcases settled with inactive | cleared
  · by_cases here : pc = .stopDeactivate
    · left
      right
      exact List.any_eq_true.mpr ⟨pc, List.mem_of_getElem? at_pc, by rw [here]; rfl⟩
    · left
      left
      cases access with
      | reserved raced unlocked current => rwa [FrameHub.reserve_keeps] at inactive
      | startReplace => contradiction
      | stopDeactivate => contradiction
      | _ => exact inactive
  · obtain ⟨other, member, deactivates⟩ := List.any_eq_true.mp cleared
    rcases List.mem_or_eq_of_mem_set member with old | rfl
    · exact .inl (.inr (List.any_eq_true.mpr ⟨other, old, deactivates⟩))
    · exact .inr (access.deactivates deactivates)

theorem detached_modify {receivers : List Receiver} {id : ReceiverId}
    {change : Receiver → Receiver} (keeps : ∀ r : Receiver, r.Detached → (change r).Detached)
    (detached : ∀ r ∈ receivers, r.Detached) : ∀ r ∈ receivers.modify id change, r.Detached := by
  intro r member
  obtain ⟨k, found⟩ := List.mem_iff_getElem?.mp member
  rw [List.getElem?_modify] at found
  obtain ⟨old, present, rfl⟩ := Option.map_eq_some_iff.mp found
  have before := detached old (List.mem_of_getElem? present)
  split
  · exact keeps old before
  · exact before

theorem Access.detached (access : Access s pc t after)
    (detached : ∀ r ∈ s.receivers, r.Detached) : ∀ r ∈ t.receivers, r.Detached := by
  have cleared : ∀ r ∈ s.clearQueues.receivers, r.Detached := by
    intro _ touched _
    obtain ⟨r, member, rfl⟩ := List.mem_map.mp touched
    exact (detached r member).clear
  cases access with
  | reserved raced unlocked current => rwa [FrameHub.reserve_keeps]
  | delivered ns current =>
      intro _ touched
      obtain ⟨r, member, rfl⟩ := List.mem_map.mp touched
      exact (detached r member).offer _ _
  | startClear => exact cleared
  | stopClear => exact cleared
  | subscribed =>
      intro r member
      rcases List.mem_append.mp member with old | new
      · exact detached r old
      · rw [List.mem_singleton.mp new]
        split <;> rintro (gone | gone) <;> contradiction
  | ownerCleared clears =>
      refine detached_modify (fun r before => ?_) detached
      cases clears with
      | false => exact before
      | true => exact fun _ => rfl
  | ownerSet => exact detached_modify (fun r before gone => before gone) detached
  | _ => exact detached

namespace Emptied

theorem access (emptied : Emptied s) {env : Env} (at_pc : s.ops[i]? = some pc)
    (access : Access s pc t after) (quiet : stopsQuietly s (.run i env) = true) :
    Emptied { t with ops := s.ops.set i after } := by
  have fresh := emptied.fresh.access access
  refine ⟨fresh, access.detached emptied.detached, ?_⟩
  intro settled f queued
  rcases access.settled at_pc settled with before | rfl
  · rcases access.queued queued with old | ⟨latest, options, rfl⟩ | delivered
    · exact emptied.empty before f old
    · simp only [stopsQuietly, at_pc, latest, Option.isSome_some, Bool.and_true,
        Bool.not_eq_true'] at quiet
      have current := emptied.fresh f latest
      rcases before with inactive | cleared
      · simp [FrameHub.isCurrent, inactive] at current
      · rw [quiet] at cleared
        contradiction
    · cases delivered with
      | @intro job lease elapsed ns current captured =>
          rcases before with inactive | cleared
          · simp [FrameHub.isCurrent, inactive] at current
          · simp only [stopsQuietly, at_pc, cleared, current, Bool.true_and,
              Bool.not_eq_true'] at quiet
            obtain ⟨_, offered, inside⟩ := queued
            obtain ⟨r, member, rfl⟩ := List.mem_map.mp offered
            have refused : r.accepts s.raised f = false := by
              rw [captured]
              -- whether it is too early does not depend on the wall clock
              have apart := List.any_eq_false.mp quiet r member
              exact Bool.eq_false_iff.mpr apart
            exact emptied.empty (.inr cleared) f
              ⟨r, member, Receiver.offer_refused refused inside⟩
  · cases access with
    | stopClear => exact not_queued_clearQueues emptied.detached f queued

theorem step (emptied : Emptied s) (taken : s.step a = some t)
    (quiet : stopsQuietly s a = true) : Emptied t := by
  have fresh := emptied.fresh.step taken
  cases step_stepped taken with
  | called call =>
      refine ⟨fresh, emptied.detached, ?_⟩
      rintro (inactive | cleared)
      · exact emptied.empty (.inl inactive)
      · obtain ⟨pc, member, deactivates⟩ := List.any_eq_true.mp cleared
        rcases List.mem_append.mp member with old | new
        · exact emptied.empty (.inr (List.any_eq_true.mpr ⟨pc, old, deactivates⟩))
        · have entry := Call.entry_entry s.clock call
          rw [← List.mem_singleton.mp new] at entry
          cases entry <;> contradiction
  | ran at_pc access => exact emptied.access at_pc access quiet
  | flagged call =>
      refine ⟨fresh, emptied.detached, ?_⟩
      have same : (call.apply s.state).active = s.state.active := by cases call <;> rfl
      rintro (inactive | cleared)
      · exact emptied.empty (.inl (same ▸ inactive))
      · exact emptied.empty (.inr cleared)
  | consumed consumed =>
      have keeps := consumed.keeps
      refine ⟨fresh, ?_, ?_⟩
      · intro r' member
        obtain ⟨r, before, reads⟩ := consumed.queues r' member
        exact reads.detached (emptied.detached r before)
      · rintro settled f ⟨r', member, inside⟩
        obtain ⟨r, before, reads⟩ := consumed.queues r' member
        refine emptied.empty ?_ f ⟨r, before, reads.queue f inside⟩
        rw [keeps] at settled
        exact settled
  | _ => exact ⟨fresh, emptied.detached, emptied.empty⟩

theorem initially (start : machine.initial s) : Emptied s := by
  obtain ⟨capacity, drawn, rfl⟩ := start
  constructor
  · rintro f latest
    contradiction
  · simp [FrameHub.new]
  · simp [FrameHub.new, FrameHub.Queued]

theorem reachable (reached : machine.Reachable (fun s a => stopsQuietly s a = true) s) :
    Emptied s :=
  reached.invariant (fun _ start => initially start)
    fun _ _ _ quiet taken emptied => emptied.step taken quiet

end Emptied

/-! ### The frames of a session that was stopped -/

/-- Session `k` is over and none of its frames is in a queue. -/
structure FrameHub.Gone (s : FrameHub) (k : Nat) : Prop where
  ended : s.Over k
  queues : ∀ f, s.Queued f → f.key.session ≠ k

theorem FrameHub.Gone.step (gone : s.Gone k) (fresh : s.Fresh) (taken : s.step a = some t) :
    t.Gone k := by
  refine ⟨gone.ended.step taken, ?_⟩
  have notCurrent : ∀ session, s.isCurrent session = true → session ≠ k := by
    rintro session current rfl
    rw [gone.ended.stale] at current
    contradiction
  intro f queued
  cases step_stepped taken with
  | ran at_pc access =>
      rcases access.queued queued with old | ⟨latest, _⟩ | delivered
      · exact gone.queues f old
      · exact notCurrent _ (fresh f latest)
      · cases delivered with
        | intro current captured =>
            rw [captured]
            exact notCurrent _ current
  | consumed consumed =>
      obtain ⟨r', member, inside⟩ := queued
      obtain ⟨r, before, reads⟩ := consumed.queues r' member
      exact gone.queues f ⟨r, before, reads.queue f inside⟩
  | _ => exact gone.queues f queued

/-- `stop` has returned for session `k`. -/
structure FrameHub.Drained (s : FrameHub) (k : Nat) : Prop where
  stopped : s.isCurrent k = false
  empty : s.state.active = false → ∀ r ∈ s.receivers, r.queue = []
  queues : ∀ r ∈ s.receivers, ∀ f ∈ r.queue, f.key.session ≠ k
  next : ∀ id r f, s.receivers[id]? = some r → (s.next id r).1 = .ok (some f) →
    f.key.session ≠ k

theorem FrameHub.Gone.drained (gone : s.Gone k) (emptied : Emptied s) : s.Drained k where
  stopped := gone.ended.stale
  empty inactive r member :=
    List.eq_nil_iff_forall_not_mem.mpr fun f inside =>
      emptied.empty (.inl inactive) f ⟨r, member, inside⟩
  queues r member f inside := gone.queues f ⟨r, member, inside⟩
  next _ r f present given :=
    gone.queues f ⟨r, List.mem_of_getElem? present, (next_given given).1⟩

theorem stopping_step {u v : FrameHub} (emptied : Emptied u) (started : u.Started k)
    (progress : (∃ pc, u.ops[i]? = some pc ∧ pc.stopping = true) ∨ u.Gone k)
    (taken : u.step a = some v) :
    (∃ pc, v.ops[i]? = some pc ∧ pc.stopping = true) ∨ v.Gone k := by
  rcases progress with ⟨pc, at_pc, stopping⟩ | gone
  · rcases (step_stepped taken).op at_pc with kept | ⟨w, after, access, rfl⟩
    · exact .inl ⟨pc, kept, stopping⟩
    · have next : (u.ops.set i after)[i]? = some after := by
        rw [FrameHub.getElem?_set_ops at_pc, if_pos rfl]
      cases access with
      | stopMark unlocked => exact .inl ⟨_, next, rfl⟩
      | stopClear => exact .inl ⟨_, next, rfl⟩
      | stopDeactivate =>
          right
          have cleared : u.cleared = true :=
            List.any_eq_true.mpr ⟨_, List.mem_of_getElem? at_pc, rfl⟩
          refine ⟨⟨started.step taken, rfl⟩, fun f queued => ?_⟩
          exact absurd queued (emptied.empty (.inr cleared) f)
      | _ => contradiction
  · exact .inr (gone.step emptied.fresh taken)

/-- In every run in which no frame enters a queue between the two accesses of a `stop`. -/
theorem stop_drains {actions : List Action}
    (reached : machine.Reachable (fun s a => stopsQuietly s a = true) s) (started : s.Started k)
    (run : machine.Run (fun s a => stopsQuietly s a = true)
      { s with ops := s.ops ++ [Call.entry s.clock .stop] } actions t)
    (returned : (t.answerOf s.ops.length).isSome) :
    ∀ later u, machine.Run (fun s a => stopsQuietly s a = true) t later u → u.Drained k := by
  have called : s.step (.call .stop) = some
      { s with ops := s.ops ++ [Call.entry s.clock .stop] } := rfl
  have emptied := Emptied.reachable reached
  have progress : Emptied t ∧ t.Started k ∧
      ((∃ pc, t.ops[s.ops.length]? = some pc ∧ pc.stopping = true) ∨ t.Gone k) := by
    refine run.preserves (P := fun u => Emptied u ∧ u.Started k ∧
      ((∃ pc, u.ops[s.ops.length]? = some pc ∧ pc.stopping = true) ∨ u.Gone k)) ?_ ?_
    · rintro u a v quiet taken ⟨emptied, started, progress⟩
      exact ⟨emptied.step taken quiet, started.step taken,
        stopping_step emptied started progress taken⟩
    · exact ⟨emptied.step called rfl, started.step called, .inl ⟨.stopMark, by simp [Call.entry],
        rfl⟩⟩
  obtain ⟨emptied, _, stopping | gone⟩ := progress
  · obtain ⟨pc, at_pc, stopping⟩ := stopping
    obtain ⟨answer, answered⟩ := Option.isSome_iff_exists.mp returned
    rw [FrameHub.answerOf_returned at_pc answered] at stopping
    contradiction
  · intro later u more
    have kept : Emptied u ∧ u.Gone k := by
      refine more.preserves (P := fun u => Emptied u ∧ u.Gone k) ?_ ⟨emptied, gone⟩
      rintro u a v quiet taken ⟨emptied, gone⟩
      exact ⟨emptied.step taken quiet, gone.step emptied.fresh taken⟩
    exact kept.2.drained kept.1

/-- A subscriber of session 1 with a frame in its queue. -/
def streaming : List Action :=
  [Action.call .start] ++ List.replicate 4 (Action.run 0 {}) ++
  [Action.call (.subscribe {}), .run 1 {}, .run 1 {}, .flag .enableRecovery,
    .call (.publishRgb 1 1 1 none), .run 2 {}, .run 2 {}, .run 2 { choice := .finish 1 }]

theorem stop_drains_streaming :
    ∃ s t, (machine.Reachable (fun s a => stopsQuietly s a = true) s ∧ s.Started 1 ∧
        ∃ actions, machine.Run (fun s a => stopsQuietly s a = true)
          { s with ops := s.ops ++ [Call.entry s.clock .stop] } actions t) ∧
      ∀ later u, machine.Run (fun s a => stopsQuietly s a = true) t later u → u.Drained 1 := by
  have passed : ((machine.exec stopsQuietly (FrameHub.new 2) (streaming ++ [Action.run 2 {}])).any
      fun s => decide (s.ops.length = 3 ∧ s.Started 1) &&
        (machine.exec stopsQuietly { s with ops := s.ops ++ [Call.entry s.clock .stop] }
          (List.replicate 4 (.run 3 {}))).any fun t => (t.answerOf 3).isSome) = true := by
    decide +kernel
  obtain ⟨s, reached, passed⟩ := Lib.Machine.Reachable.of_exec (machine_new 2) passed
  obtain ⟨ready, passed⟩ := Bool.and_eq_true_iff.mp passed
  obtain ⟨three, started⟩ := of_decide_eq_true ready
  obtain ⟨t, run, returned⟩ := Lib.Machine.run_of_passed passed
  exact ⟨s, t, ⟨reached, started, _, run⟩,
    stop_drains reached started run (by rwa [three])⟩

/-! ### What goes wrong otherwise -/

/-- `stop` clears the queues, the publish delivers its frame, then `stop` makes the hub
inactive; the receiver, which waits for a reconnect, takes the frame. -/
private theorem streaming_not_drained :
    ((machine.exec (fun _ _ => true) (FrameHub.new 2) streaming).any fun s =>
      decide (s.ops.length = 3 ∧ s.Started 1) &&
      (machine.exec (fun _ _ => true) { s with ops := s.ops ++ [Call.entry s.clock .stop] }
        [.run 3 {}, .run 3 {}, .run 2 {}, .run 3 {}, .run 3 {}]).any fun t =>
          (t.answerOf 3).isSome && !t.state.active &&
          t.receivers[0]?.any fun r =>
            match (t.next 0 r).1 with
            | .ok (some f) => f.key.session == 1
            | _ => false) = true := by
  decide +kernel

theorem not_always_drained :
    ¬ ∀ s t k actions, machine.Reachable Lib.Machine.anything s → s.Started k →
      machine.Run Lib.Machine.anything
        { s with ops := s.ops ++ [Call.entry s.clock .stop] } actions t →
      (t.answerOf s.ops.length).isSome → t.Drained k := by
  intro always
  obtain ⟨s, reached, passed⟩ :=
    Lib.Machine.Reachable.of_exec (machine_new 2) streaming_not_drained
  obtain ⟨ready, passed⟩ := Bool.and_eq_true_iff.mp passed
  obtain ⟨three, started⟩ := of_decide_eq_true ready
  obtain ⟨t, run, passed⟩ := Lib.Machine.run_of_passed passed
  obtain ⟨stopped, taken⟩ := Bool.and_eq_true_iff.mp passed
  obtain ⟨returned, inactive⟩ := Bool.and_eq_true_iff.mp stopped
  have drained := always s t 1 _ (reached.mono fun _ _ _ => trivial) started
    (run.mono fun _ _ _ => trivial) (by rwa [three])
  obtain ⟨r, present, given⟩ := (Option.any_eq_true _ _).mp taken
  split at given
  · next f found => exact drained.next 0 r f present found (by simpa using given)
  · contradiction

end CameraRs.Frame

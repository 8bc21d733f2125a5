/-
Frame sinks of sessions that a newer session has replaced.

A sink keeps its session number, and so does a write lease; the calls that publish
compare it with the session of the hub. `disconnect` does not: it stops the hub.
-/

import CameraRs.Frame.Epoch

namespace CameraRs.Frame

/-- `FrameSink` without its handle of the hub. -/
structure FrameSink where
  session : Nat

inductive SinkCall
  | publishBytes (layout : FrameLayout) (timestamp : Option SourceTimestamp)
      (bytes : List UInt8)
  | writable (layout : FrameLayout)
  | disconnect

def FrameSink.call (sink : FrameSink) : SinkCall → Call
  | .publishBytes layout timestamp bytes =>
      .publishNative sink.session layout timestamp none [bytes]
  | .writable layout => .writableNative sink.session layout
  | .disconnect => .stop

def FrameHub.sinkCall (s : FrameHub) (sink : FrameSink) (call : SinkCall) : FrameHub :=
  { s with ops := s.ops ++ [(sink.call call).entry s.clock] }

/-! ### Sessions that were replaced -/

variable {s t : FrameHub} {i : OpId} {pc after : Pc} {k : Nat}

/-- Session `k` has started and a session after it has begun. -/
structure FrameHub.Replaced (s : FrameHub) (k : Nat) : Prop where
  started : s.Started k
  newer : s.state.session ≠ k

instance (s : FrameHub) (k : Nat) : Decidable (s.Replaced k) :=
  decidable_of_iff (s.Started k ∧ s.state.session ≠ k)
    ⟨fun both => ⟨both.1, both.2⟩, fun replaced => ⟨replaced.started, replaced.newer⟩⟩

theorem FrameHub.Replaced.step {a : Action} (replaced : s.Replaced k)
    (taken : s.step a = some t) : t.Replaced k := by
  refine ⟨replaced.started.step taken, ?_⟩
  cases step_stepped taken with
  | ran at_pc access =>
      dsimp only
      rcases access.epoch with ⟨same, _⟩ | drawn
      · rw [same]
        exact replaced.newer
      · intro again
        rw [again] at drawn
        exact replaced.started.2 _ (List.mem_of_getElem? at_pc) drawn
  | flagged call => cases call <;> exact replaced.newer
  | consumed consumed =>
      rw [consumed.keeps]
      exact replaced.newer
  | _ => exact replaced.newer

/-! ### Calls for a session that was replaced -/

/-- A publish or a lease of session `k` and what may become of it now. -/
inductive Pc.Stale (k : Nat) : Pc → Prop
  | look {job : Job} (carried : job.session = k) : Stale k (.reserveLook job)
  | pool {job : Job} {length : Nat} (carried : job.session = k) :
      Stale k (.reservePool job length)
  | converting {job : Job} {lease : Lease} (carried : job.session = k) :
      Stale k (.converting job lease)
  | finishing {job : Job} {lease : Lease} {elapsed : Nat} (carried : job.session = k) :
      Stale k (.finishing job lease elapsed)
  | measuring {job : Job} {lease : Lease} {elapsed : Nat} (carried : job.session = k) :
      Stale k (.measuring job lease elapsed)
  | recording {activity : Bool} {failed : Lease × CameraError} :
      Stale k (.recordLook k activity (some failed))
  | releasing {lease : Lease} {answer : Answer} : Stale k (.releasing lease answer)
  | returned {answer : Answer} : Stale k (.returned answer)

/-- Session, activity, latest frame, queues and metrics are as they were. -/
structure FrameHub.Same (s t : FrameHub) : Prop where
  state : t.state = s.state
  receivers : t.receivers = s.receivers
  metrics : t.pool.metrics = s.pool.metrics

theorem Job.exhausted_stale (job : Job) : job.exhausted.Stale k := by
  obtain ⟨answer, answers⟩ := exhausted_answers job
  rw [answers]
  exact .returned

theorem Pc.Stale.access (newer : s.state.session ≠ k) (stale : pc.Stale k)
    (access : Access s pc t after) : after.Stale k ∧ s.Same t := by
  have never : ∀ {session}, session = k → s.isCurrent session ≠ true := by
    rintro session rfl current
    simp only [FrameHub.isCurrent, Bool.and_eq_true, beq_iff_eq] at current
    exact newer current.2
  cases stale with
  | @look job carried =>
      cases access with
      | lookRefused _ => exact ⟨job.exhausted_stale, rfl, rfl, rfl⟩
      | lookTooLong _ => exact ⟨.returned, rfl, rfl, rfl⟩
      | lookPassed current fits => exact absurd current (never carried)
  | @pool job length carried =>
      cases access with
      | poolRefused _ => exact ⟨job.exhausted_stale, rfl, rfl, rfl⟩
      | reserved raced unlocked current => exact absurd current (never carried)
  | converting carried =>
      cases access with
      | wrote bytes size => exact ⟨.converting carried, rfl, rfl, rfl⟩
      | filled fill => exact ⟨.finishing carried, rfl, rfl, rfl⟩
      | converted => exact ⟨.finishing carried, rfl, rfl, rfl⟩
      | failed =>
          rw [carried]
          exact ⟨.recording, rfl, rfl, rfl⟩
      | stamped timestamp => exact ⟨.converting carried, rfl, rfl, rfl⟩
      | abandoned => exact ⟨.releasing, rfl, rfl, rfl⟩
  | finishing carried =>
      cases access with
      | delivered ns current => exact absurd current (never carried)
      | late _ => exact ⟨.releasing, rfl, rfl, rfl⟩
  | measuring carried =>
      cases access with
      | measured unlocked same => exact absurd (same.trans carried) newer
      | unmeasured different => exact ⟨.releasing, rfl, rfl, rfl⟩
  | recording =>
      cases access with
      | recordPassed current => exact absurd current (never rfl)
      | recordRefused => exact ⟨.releasing, rfl, rfl, rfl⟩
  | releasing =>
      cases access
      exact ⟨.returned, rfl, rfl, rfl⟩
  | returned => cases access

theorem Job.start_stale {job : Job} (carried : job.session = k) (checked : CameraResult Unit) :
    (job.start checked).Stale k := by
  cases checked with
  | ok _ => exact .look carried
  | error error => exact .returned

theorem SinkCall.entry_stale {call : SinkCall} (publishes : call ≠ .disconnect) (now : Nat) :
    ((FrameSink.call ⟨k⟩ call).entry now).Stale k := by
  cases call with
  | publishBytes layout timestamp bytes =>
      refine Job.start_stale ?_ _
      rfl
  | writable layout =>
      refine Job.start_stale ?_ _
      rfl
  | disconnect => exact absurd rfl publishes

/-! ### Inert calls -/

/-- From `s` on no access of call `i` changes what consumers see. -/
def FrameHub.Inert (s : FrameHub) (i : OpId) : Prop :=
  ∀ actions t, machine.Run Lib.Machine.anything s actions t →
    ∀ env u, t.step (.run i env) = some u → t.Same u

private theorem FrameHub.Replaced.stale_run {actions : List Action} (replaced : s.Replaced k)
    (at_pc : s.ops[i]? = some pc) (stale : pc.Stale k)
    (run : machine.Run Lib.Machine.anything s actions t) :
    t.Replaced k ∧ ∃ now, t.ops[i]? = some now ∧ now.Stale k := by
  refine run.preserves (P := fun u =>
    u.Replaced k ∧ ∃ now, u.ops[i]? = some now ∧ now.Stale k) ?_ ⟨replaced, pc, at_pc, stale⟩
  rintro u a v _ taken ⟨replaced, now, at_now, stale⟩
  refine ⟨replaced.step taken, ?_⟩
  rcases (step_stepped taken).op at_now with same | ⟨w, after, access, rfl⟩
  · exact ⟨now, same, stale⟩
  · refine ⟨after, ?_, (stale.access replaced.newer access).1⟩
    dsimp only
    rw [getElem?_set_ops at_now, if_pos rfl]

theorem FrameHub.Replaced.inert (replaced : s.Replaced k) (at_pc : s.ops[i]? = some pc)
    (stale : pc.Stale k) : s.Inert i := by
  intro actions t run env u taken
  obtain ⟨replaced, now, at_now, stale⟩ := replaced.stale_run at_pc stale run
  obtain ⟨pc, v, after, here, access, rfl⟩ := step_run taken
  obtain rfl := Option.some.inj (at_now.symm.trans here)
  have same := (stale.access replaced.newer access).2
  exact ⟨same.state, same.receivers, same.metrics⟩

/-! ### `disconnect` -/

/-- The pool lock is held across sections by a `start` that is under way. -/
def FrameHub.Locked (s : FrameHub) : Prop :=
  s.poolLock = true → ∃ (i : OpId) (pc : Pc), s.ops[i]? = some pc ∧ pc.starting.isSome = true

theorem Access.locked (access : Access s pc t after) (locked : t.poolLock = true) :
    after.starting.isSome = true ∨ s.poolLock = true ∧ pc.starting = none := by
  cases access with
  | reserved raced unlocked current =>
      rw [FrameHub.reserve_keeps] at locked
      exact .inr ⟨locked, rfl⟩
  | startReset => exact .inl rfl
  | startClear => exact .inl rfl
  | startRead => exact .inl rfl
  | startReplace => contradiction
  | _ => exact .inr ⟨locked, rfl⟩

theorem locked_reachable (reached : machine.Reachable Lib.Machine.anything s) : s.Locked := by
  refine reached.invariant ?_ ?_
  · rintro s ⟨capacity, drawn, rfl⟩ locked
    contradiction
  · intro s a t _ taken holds locked
    have taken : s.step a = some t := taken
    cases step_stepped taken with
    | called call =>
        obtain ⟨i, pc, at_pc, starting⟩ := holds locked
        exact ⟨i, pc, List.getElem?_append_left (List.getElem?_eq_some_iff.mp at_pc).1 ▸ at_pc,
          starting⟩
    | @ran i env pc after u at_pc access =>
        rcases access.locked locked with starts | ⟨before, idle⟩
        · refine ⟨i, after, ?_, starts⟩
          dsimp only
          rw [FrameHub.getElem?_set_ops at_pc, if_pos rfl]
        · obtain ⟨j, other, at_other, starting⟩ := holds before
          refine ⟨j, other, ?_, starting⟩
          dsimp only
          rw [FrameHub.getElem?_set_ops at_pc, if_neg, at_other]
          rintro rfl
          obtain rfl := Option.some.inj (at_pc.symm.trans at_other)
          rw [idle] at starting
          contradiction
    | consumed consumed =>
        rw [consumed.keeps] at locked ⊢
        exact holds locked
    | _ => exact holds locked

/-- An active hub that lets pool sections in, reached while the other calls wait. -/
def FrameHub.Activates (s : FrameHub) (i : OpId) : Prop :=
  ∃ actions t, machine.Run Lib.Machine.anything s actions t ∧ t.state.active = true ∧
    t.poolLock = false ∧ ∀ j, j ≠ i → t.ops[j]? = s.ops[j]?

theorem FrameHub.Activates.step {s : FrameHub} (env : Env) {made : FrameHub × Pc}
    (at_pc : s.ops[i]? = some pc) (moves : s.callStep env pc = some made)
    (rest : FrameHub.Activates { made.1 with ops := s.ops.set i made.2 } i) :
    s.Activates i := by
  have kept := (callStep_access moves).ops_eq
  have taken : s.step (.run i env) = some { made.1 with ops := s.ops.set i made.2 } := by
    simp only [FrameHub.step, at_pc, moves, Option.map_some, kept]
  obtain ⟨actions, t, run, active, unlocked, others⟩ := rest
  have first : machine.Run Lib.Machine.anything s [.run i env] _ := .single trivial taken
  refine ⟨_, t, first.trans run, active, unlocked, fun j other => ?_⟩
  rw [others j other]
  dsimp only
  rw [List.getElem?_set_ne (Ne.symm other)]

theorem activates_of_starting (at_pc : s.ops[i]? = some pc)
    (starting : pc.starting.isSome = true) : s.Activates i := by
  have moved : ∀ {ops : List Pc} {before now : Pc}, ops[i]? = some before →
      (ops.set i now)[i]? = some now :=
    fun found => List.getElem?_set_self (List.getElem?_eq_some_iff.mp found).1
  have replaces : ∀ {u : FrameHub} {session : Nat} {recovering reconnectEnabled : Bool},
      u.ops[i]? = some (.startReplace session recovering reconnectEnabled) → u.Activates i := by
    intro u session recovering reconnectEnabled found
    refine FrameHub.Activates.step {} found rfl ?_
    exact ⟨[], _, .nil, rfl, rfl, fun _ _ => rfl⟩
  have reads : ∀ {u : FrameHub} {session : Nat},
      u.ops[i]? = some (.startRead session) → u.Activates i :=
    fun found => FrameHub.Activates.step {} found rfl (replaces (moved found))
  unfold Pc.starting at starting
  split at starting
  · exact FrameHub.Activates.step {} at_pc rfl (reads (moved at_pc))
  · exact reads at_pc
  · exact replaces at_pc
  · contradiction

private theorem activates_beside (reached : machine.Reachable Lib.Machine.anything s)
    (at_pc : s.ops[i]? = some pc) (idle : pc.starting = none) :
    ∃ actions t, machine.Run Lib.Machine.anything s actions t ∧ t.state.active = true ∧
      t.poolLock = false ∧ t.ops[i]? = some pc := by
  cases lock : s.poolLock with
  | true =>
      obtain ⟨j, other, at_other, starting⟩ := locked_reachable reached lock
      obtain ⟨actions, t, run, active, unlocked, others⟩ :=
        activates_of_starting at_other starting
      refine ⟨actions, t, run, active, unlocked, ?_⟩
      rw [others i, at_pc]
      rintro rfl
      obtain rfl := Option.some.inj (at_pc.symm.trans at_other)
      rw [idle] at starting
      contradiction
  | false =>
      have called : machine.Run Lib.Machine.anything s [.call .start]
          { s with ops := s.ops ++ [.startReset] } := .single trivial rfl
      have begins : FrameHub.Activates { s with ops := s.ops ++ [.startReset] }
          s.ops.length := by
        have here : (s.ops ++ [Pc.startReset])[s.ops.length]? = some .startReset := by simp
        have again : ((s.ops ++ [Pc.startReset]).set s.ops.length
            (.startClear s.nextSession))[s.ops.length]? = some (.startClear s.nextSession) := by
          simp
        have draws : FrameHub.callStep { s with ops := s.ops ++ [.startReset] } {} .startReset =
            some ({ s with
              pool := s.pool.reset s.clock
              poolLock := true
              nextSession := s.nextSession + 1
              ops := s.ops ++ [.startReset] }, .startClear s.nextSession) := by
          simp only [FrameHub.callStep, FrameHub.lifecycleStep, lock]
          rfl
        exact FrameHub.Activates.step {} here draws (activates_of_starting again rfl)
      obtain ⟨actions, t, run, active, unlocked, others⟩ := begins
      have inside : i < s.ops.length := (List.getElem?_eq_some_iff.mp at_pc).1
      refine ⟨_, t, called.trans run, active, unlocked, ?_⟩
      rw [others i (Nat.ne_of_lt inside)]
      dsimp only
      rw [List.getElem?_append_left inside, at_pc]

private theorem disconnect_disturbs (reached : machine.Reachable Lib.Machine.anything s)
    (sink : FrameSink) : ¬ (s.sinkCall sink .disconnect).Inert s.ops.length := by
  intro inert
  have called : machine.Run Lib.Machine.anything s [.call .stop]
      (s.sinkCall sink .disconnect) := .single trivial rfl
  have here : (s.sinkCall sink .disconnect).ops[s.ops.length]? = some .stopMark := by
    simp [FrameHub.sinkCall, FrameSink.call, Call.entry]
  obtain ⟨actions, t, run, active, unlocked, at_mark⟩ :=
    activates_beside (reached.extend called) here rfl
  have moved : ∀ {ops : List Pc} {before now : Pc}, ops[s.ops.length]? = some before →
      (ops.set s.ops.length now)[s.ops.length]? = some now :=
    fun found => List.getElem?_set_self (List.getElem?_eq_some_iff.mp found).1
  let marked : FrameHub := { t.setPool { t.pool with stopped := some t.clock } with
    ops := t.ops.set s.ops.length .stopClear }
  let cleared : FrameHub := { marked.clearQueues with
    ops := marked.ops.set s.ops.length .stopDeactivate }
  have marks : t.step (.run s.ops.length {}) = some marked := by
    simp [FrameHub.step, at_mark, FrameHub.callStep, FrameHub.lifecycleStep, unlocked,
      FrameHub.setPool, marked]
  have at_clear : marked.ops[s.ops.length]? = some .stopClear := moved at_mark
  have clears : marked.step (.run s.ops.length {}) = some cleared := by
    simp only [FrameHub.step, at_clear]
    rfl
  have at_deactivate : cleared.ops[s.ops.length]? = some .stopDeactivate := moved at_clear
  have stops : (cleared.step (.run s.ops.length {})).any (!·.state.active) = true := by
    simp only [FrameHub.step, at_deactivate]
    rfl
  obtain ⟨u, taken, inactive⟩ := (Option.any_eq_true _ _).mp stops
  have marking : machine.Run Lib.Machine.anything t [.run s.ops.length {}] marked :=
    .single trivial marks
  have clearing : machine.Run Lib.Machine.anything marked [.run s.ops.length {}] cleared :=
    .single trivial clears
  have same := (inert _ cleared ((run.trans marking).trans clearing) {} u taken).state
  have still : cleared.state.active = true := active
  rw [same, still] at inactive
  contradiction

/-- Once a newer session has begun, a call of a sink of session `k` leaves session,
activity, latest frame, queues and metrics alone in every run from there if and only if
it is not `disconnect`; the leases of `k` always do. -/
theorem stale_sink_inert (reached : machine.Reachable Lib.Machine.anything s)
    (replaced : s.Replaced k) :
    (∀ call, (s.sinkCall ⟨k⟩ call).Inert s.ops.length ↔ call ≠ .disconnect) ∧
    ∀ i job lease, s.ops[i]? = some (.converting job lease) → job.session = k →
      s.Inert i := by
  constructor
  · intro call
    constructor
    · rintro inert rfl
      exact disconnect_disturbs reached ⟨k⟩ inert
    · intro publishes
      have begun : (s.sinkCall ⟨k⟩ call).Replaced k :=
        replaced.step (a := .call (FrameSink.call ⟨k⟩ call)) rfl
      have here : (s.sinkCall ⟨k⟩ call).ops[s.ops.length]? =
          some ((FrameSink.call ⟨k⟩ call).entry s.clock) := by
        simp [FrameHub.sinkCall]
      exact begun.inert here (SinkCall.entry_stale publishes s.clock)
  · intro i job lease at_pc carried
    exact replaced.inert at_pc (.converting carried)

/-- Session 1 has been replaced by session 2. -/
def replacing : List Action :=
  [Action.call .start] ++ List.replicate 4 (Action.run 0 {}) ++ [Action.call .start] ++
  List.replicate 4 (Action.run 1 {})

theorem stale_sink_inert_once :
    ∃ s, machine.Reachable Lib.Machine.anything s ∧ s.state.active = true ∧ s.Replaced 1 ∧
      (∀ call, (s.sinkCall ⟨1⟩ call).Inert s.ops.length ↔ call ≠ .disconnect) ∧
      ∀ i job lease, s.ops[i]? = some (.converting job lease) → job.session = 1 →
        s.Inert i := by
  have passed : ((machine.exec (fun _ _ => true) (FrameHub.new 2) replacing).any fun s =>
      s.state.active && decide (s.Replaced 1)) = true := by
    decide +kernel
  obtain ⟨s, reached, passed⟩ := Lib.Machine.Reachable.of_exec (machine_new 2) passed
  obtain ⟨active, replaced⟩ := Bool.and_eq_true_iff.mp passed
  have replaced := of_decide_eq_true replaced
  have anyhow := reached.mono fun _ _ _ => (trivial : Lib.Machine.anything _ _)
  exact ⟨s, anyhow, active, replaced, stale_sink_inert anyhow replaced⟩

/-! ### A `disconnect` that comes late -/

private theorem disconnect_stops_successor :
    ((machine.exec (fun _ _ => true) (FrameHub.new 2) replacing).any fun s =>
      decide (s.ops.length = 2 ∧ s.Replaced 1) &&
      (machine.exec (fun _ _ => true) (s.sinkCall ⟨1⟩ .disconnect)
        [.run 2 {}, .run 2 {}]).any fun t =>
          t.state.active && (t.step (.run 2 {})).any fun u => !u.state.active) = true := by
  decide +kernel

theorem not_always_inert :
    ¬ ∀ s k call, machine.Reachable Lib.Machine.anything s → s.Replaced k →
      (s.sinkCall ⟨k⟩ call).Inert s.ops.length := by
  intro always
  obtain ⟨s, reached, passed⟩ :=
    Lib.Machine.Reachable.of_exec (machine_new 2) disconnect_stops_successor
  obtain ⟨ready, passed⟩ := Bool.and_eq_true_iff.mp passed
  obtain ⟨two, replaced⟩ := of_decide_eq_true ready
  obtain ⟨t, run, passed⟩ := Lib.Machine.run_of_passed passed
  obtain ⟨active, passed⟩ := Bool.and_eq_true_iff.mp passed
  obtain ⟨u, taken, stopped⟩ := (Option.any_eq_true _ _).mp passed
  have inert := always s 1 .disconnect (reached.mono fun _ _ _ => trivial) replaced
  rw [two] at inert
  have same := (inert _ t (run.mono fun _ _ _ => trivial) {} u taken).state
  rw [same, active] at stopped
  contradiction

end CameraRs.Frame

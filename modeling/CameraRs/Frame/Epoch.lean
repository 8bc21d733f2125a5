/-
Epochs of publication.

A session is over once it has been started and is not the current one. It stays
over, since `start` makes current only numbers that were never drawn before. A
publish of a session that is over is refused at its next check, and until then it
touches neither the snapshot nor a queue.
-/

import CameraRs.Frame.Queues

namespace CameraRs.Frame

namespace Pc

def starting : Pc → Option Nat
  | .startClear session | .startRead session | .startReplace session _ _ => some session
  | _ => none

def answer : Pc → Option Answer
  | .returned answer => some answer
  | _ => none

/-- A publish or a lease of session `k` that has not published its frame. -/
def pending (k : Nat) : Pc → Bool
  | .reserveLook job | .reservePool job _ | .converting job _ | .finishing job _ _ =>
      job.session == k
  | _ => false

def carries (k : Nat) : Pc → Bool
  | .measuring job _ _ => job.session == k
  | pc => pc.pending k

end Pc

def Call.carries (k : Nat) : Call → Bool
  | .publishRgb session _ _ _ | .publishRgbMetadata session _ _ _ _
  | .publishNativeInto session _ _ | .publishNative session _ _ _ _
  | .writableNative session _ => session == k
  | _ => false

/-- The frame is in the snapshot, and the call has not failed since. -/
def Pc.accepted : Pc → Bool
  | .measuring _ _ _ => true
  | .releasing _ (.published (.ok true)) | .returned (.published (.ok true)) => true
  | _ => false

/-- `Ok(false)`, an error, or a lease that was dropped without a commit. -/
def Answer.refused : Answer → Bool
  | .published (.ok sent) => !sent
  | .published (.error _) => true
  | .done _ => true
  | _ => false

namespace FrameHub

def answerOf (s : FrameHub) (i : OpId) : Option Answer := s.ops[i]?.bind Pc.answer

/-- The `start` that drew session `k` is not under way any more. -/
def Started (s : FrameHub) (k : Nat) : Prop :=
  k < s.nextSession ∧ ∀ pc ∈ s.ops, pc.starting ≠ some k

instance (s : FrameHub) (k : Nat) : Decidable (s.Started k) :=
  inferInstanceAs (Decidable (_ ∧ _))

theorem answerOf_returned {s : FrameHub} {i : OpId} {pc : Pc} {answer : Answer}
    (at_pc : s.ops[i]? = some pc) (answered : s.answerOf i = some answer) :
    pc = .returned answer := by
  rw [answerOf, at_pc, Option.bind_some] at answered
  cases pc <;> simp_all [Pc.answer]

structure Over (s : FrameHub) (k : Nat) : Prop where
  started : s.Started k
  stale : s.isCurrent k = false

end FrameHub

/-! ### Sessions that are over stay over -/

variable {s t : FrameHub} {i : OpId} {pc after : Pc} {a : Action} {k : Nat}

theorem Access.epoch (access : Access s pc t after) :
    t.state.session = s.state.session ∧ (t.state.active = true → s.state.active = true) ∨
      pc.starting = some t.state.session := by
  cases access with
  | reserved raced unlocked current =>
      rw [FrameHub.reserve_keeps]
      exact .inl ⟨rfl, id⟩
  | startReplace => exact .inr rfl
  | stopDeactivate => exact .inl ⟨rfl, fun active => absurd active Bool.false_ne_true⟩
  | _ => exact .inl ⟨rfl, id⟩

theorem exhausted_starting (job : Job) : job.exhausted.starting = none := by
  obtain ⟨answer, same⟩ := exhausted_answers job
  rw [same]
  rfl

theorem recorded_starting (failed : Option (Lease × CameraError)) :
    (FrameHub.recorded failed).starting = none := by
  cases failed <;> rfl

theorem Access.nextSession (access : Access s pc t after) : s.nextSession ≤ t.nextSession := by
  cases access with
  | reserved raced unlocked current =>
      rw [FrameHub.reserve_keeps]
  | startReset => exact Nat.le_succ _
  | _ => exact Nat.le_refl _

theorem Access.starting (access : Access s pc t after) :
    after.starting = none ∨ after.starting = pc.starting ∨
      pc = .startReset ∧ after.starting = some s.nextSession := by
  cases access with
  | @lookRefused job stale => exact .inl (exhausted_starting job)
  | @poolRefused job length stale => exact .inl (exhausted_starting job)
  | @reserved job length raced unlocked current =>
      left
      unfold FrameHub.reserve
      split
      · rfl
      · exact exhausted_starting job
  | @recordRefused session activity failed => exact .inl (recorded_starting failed)
  | @woken failed => exact .inl (recorded_starting failed)
  | @charged session activity failed after unlocked goes =>
      rcases goes with rfl | rfl
      · exact .inl rfl
      · exact .inl (recorded_starting failed)
  | budgetRead goes =>
      rcases goes with rfl | ⟨error, rfl⟩
      · exact .inl rfl
      · exact .inl rfl
  | startReset => exact .inr (.inr ⟨rfl, rfl⟩)
  | startClear => exact .inr (.inl rfl)
  | startRead => exact .inr (.inl rfl)
  | _ => exact .inl rfl

theorem Pc.Entry.starting (entry : pc.Entry) : pc.starting = none := by
  cases entry <;> rfl

namespace FrameHub

theorem Started.step (started : s.Started k) (taken : s.step a = some t) : t.Started k := by
  cases step_stepped taken with
  | called call =>
      refine ⟨started.1, fun pc member => ?_⟩
      rcases List.mem_append.mp member with old | new
      · exact started.2 pc old
      · rw [List.mem_singleton.mp new, (Call.entry_entry s.clock call).starting]
        simp
  | @ran i env pc after u at_pc access =>
      refine ⟨Nat.lt_of_lt_of_le started.1 access.nextSession, fun other member => ?_⟩
      rcases List.mem_or_eq_of_mem_set member with old | rfl
      · exact started.2 other old
      · rcases access.starting with none | same | ⟨_, drawn⟩
        · simp [none]
        · rw [same]
          exact started.2 pc (List.mem_of_getElem? at_pc)
        · rw [drawn]
          intro same
          exact Nat.ne_of_gt started.1 (Option.some.inj same)
  | otherHub => exact ⟨Nat.lt_succ_of_lt started.1, started.2⟩
  | consumed consumed =>
      rw [consumed.keeps]
      exact started
  | _ => exact started

private theorem isCurrent_access (started : s.Started k) (at_pc : s.ops[i]? = some pc)
    (access : Access s pc t after) (stale : s.isCurrent k = false) : t.isCurrent k = false := by
  by_contra current
  simp only [isCurrent, Bool.not_eq_false, Bool.and_eq_true, beq_iff_eq] at current
  rcases access.epoch with ⟨session, active⟩ | drawn
  · rw [isCurrent, active current.1, ← session, current.2] at stale
    simp at stale
  · rw [current.2] at drawn
    exact started.2 pc (List.mem_of_getElem? at_pc) drawn

theorem Over.step (ended : s.Over k) (taken : s.step a = some t) : t.Over k := by
  refine ⟨ended.started.step taken, ?_⟩
  cases step_stepped taken with
  | ran at_pc access =>
      have stale := isCurrent_access ended.started at_pc access ended.stale
      exact stale
  | flagged call =>
      have stale := ended.stale
      cases call <;> exact stale
  | consumed consumed =>
      rw [consumed.keeps]
      exact ended.stale
  | _ => exact ended.stale

theorem Over.run {actions : List Action} (ended : s.Over k)
    (run : machine.Run Lib.Machine.anything s actions t) : t.Over k :=
  run.preserves (P := fun u => u.Over k) (fun _ _ _ _ taken ended => ended.step taken) ended

end FrameHub

/-! ### `stop` and a later `start` end a session -/

/-- A `stop`, or a `start` of another session than `k`, before the access that ends `k`. -/
inductive Pc.Ending (k : Nat) : Pc → Prop
  | stopMark : Ending k .stopMark
  | stopClear : Ending k .stopClear
  | stopDeactivate : Ending k .stopDeactivate
  | startReset : Ending k .startReset
  | startClear {session : Nat} (other : session ≠ k) : Ending k (.startClear session)
  | startRead {session : Nat} (other : session ≠ k) : Ending k (.startRead session)
  | startReplace {session : Nat} {recovering reconnectEnabled : Bool} (other : session ≠ k) :
      Ending k (.startReplace session recovering reconnectEnabled)

theorem Pc.Ending.access (started : s.Started k) (ending : pc.Ending k)
    (access : Access s pc t after) : after.Ending k ∨ t.isCurrent k = false := by
  cases ending with
  | stopMark =>
      cases access
      exact .inl .stopClear
  | stopClear =>
      cases access
      exact .inl .stopDeactivate
  | stopDeactivate =>
      cases access
      exact .inr rfl
  | startReset =>
      cases access
      exact .inl (.startClear (Nat.ne_of_gt started.1))
  | startClear other =>
      cases access
      exact .inl (.startRead other)
  | startRead other =>
      cases access
      exact .inl (.startReplace other)
  | startReplace other =>
      cases access
      right
      simpa [FrameHub.isCurrent] using other

namespace FrameHub

private theorem over_of_returned {call : Call} {actions : List Action} (started : s.Started k)
    (ends : call = .start ∨ call = .stop)
    (run : machine.Run Lib.Machine.anything { s with ops := s.ops ++ [call.entry s.clock] }
      actions t)
    (returned : (t.answerOf s.ops.length).isSome) : t.Over k := by
  have progress : t.Started k ∧ ((∃ pc, t.ops[s.ops.length]? = some pc ∧ pc.Ending k) ∨
      t.isCurrent k = false) := by
    refine run.preserves (P := fun u => u.Started k ∧
      ((∃ pc, u.ops[s.ops.length]? = some pc ∧ pc.Ending k) ∨ u.isCurrent k = false)) ?_ ?_
    · rintro u a v _ taken ⟨started, ending | stale⟩
      · refine ⟨started.step taken, ?_⟩
        obtain ⟨pc, at_pc, ending⟩ := ending
        rcases (step_stepped taken).op at_pc with kept | ⟨w, after, access, rfl⟩
        · exact .inl ⟨pc, kept, ending⟩
        · rcases ending.access started access with ending | stale
          · refine .inl ⟨after, ?_, ending⟩
            dsimp only
            rw [getElem?_set_ops at_pc, if_pos rfl]
          · exact .inr stale
      · have ended : v.Over k := Over.step ⟨started, stale⟩ taken
        exact ⟨ended.started, .inr ended.stale⟩
    · have begun : FrameHub.Started { s with ops := s.ops ++ [call.entry s.clock] } k :=
        started.step (a := .call call) rfl
      refine ⟨begun, .inl ⟨call.entry s.clock, by simp, ?_⟩⟩
      rcases ends with rfl | rfl
      · exact .startReset
      · exact .stopMark
  obtain ⟨started, ⟨pc, at_pc, ending⟩ | stale⟩ := progress
  · obtain ⟨answer, answered⟩ := Option.isSome_iff_exists.mp returned
    rw [answerOf_returned at_pc answered] at ending
    cases ending
  · exact ⟨started, stale⟩

end FrameHub

/-! ### What a publish of a session that is over can still do -/

/-- A publish or lease of session `k` that will not publish a frame; it may have
published one only if `sent`. -/
inductive Pc.Late (k : Nat) (sent : Bool) : Pc → Prop
  | look {job : Job} (carried : job.session = k) : Late k sent (.reserveLook job)
  | pool {job : Job} {length : Nat} (carried : job.session = k) :
      Late k sent (.reservePool job length)
  | converting {job : Job} {lease : Lease} (carried : job.session = k) :
      Late k sent (.converting job lease)
  | finishing {job : Job} {lease : Lease} {elapsed : Nat} (carried : job.session = k) :
      Late k sent (.finishing job lease elapsed)
  | measuring {job : Job} {lease : Lease} {elapsed : Nat} (already : sent = true) :
      Late k sent (.measuring job lease elapsed)
  | recordLook {session : Nat} {activity : Bool} {failed : Lease × CameraError} :
      Late k sent (.recordLook session activity (some failed))
  | recordCharge {session : Nat} {activity : Bool} {failed : Lease × CameraError} :
      Late k sent (.recordCharge session activity (some failed))
  | recordWake {failed : Lease × CameraError} : Late k sent (.recordWake (some failed))
  | releasing {lease : Lease} {answer : Answer} (refused : sent = true ∨ answer.refused = true) :
      Late k sent (.releasing lease answer)
  | returned {answer : Answer} (refused : sent = true ∨ answer.refused = true) :
      Late k sent (.returned answer)

theorem Pc.late_of_pending (pending : pc.pending k = true) (sent : Bool) : pc.Late k sent := by
  cases pc with
  | reserveLook job => exact .look (by simpa [Pc.pending] using pending)
  | reservePool job length => exact .pool (by simpa [Pc.pending] using pending)
  | converting job lease => exact .converting (by simpa [Pc.pending] using pending)
  | finishing job lease elapsed => exact .finishing (by simpa [Pc.pending] using pending)
  | _ => contradiction

private theorem Pc.late_of_carries (carries : pc.carries k = true) : pc.Late k true := by
  unfold Pc.carries at carries
  split at carries
  · exact .measuring rfl
  · exact late_of_pending carries true

theorem Job.exhausted_late (job : Job) (sent : Bool) : job.exhausted.Late k sent := by
  unfold Job.exhausted
  split <;> exact .returned (.inr rfl)

theorem Pc.Late.access {sent : Bool} (stale : s.isCurrent k = false) (late : pc.Late k sent)
    (access : Access s pc t after) :
    after.Late k sent ∧ t.state = s.state ∧ t.receivers = s.receivers := by
  cases late with
  | @look job carried =>
      cases access with
      | lookRefused _ => exact ⟨job.exhausted_late sent, rfl, rfl⟩
      | lookTooLong _ => exact ⟨.returned (.inr rfl), rfl, rfl⟩
      | lookPassed _ _ => exact ⟨.pool carried, rfl, rfl⟩
  | @pool job length carried =>
      cases access with
      | poolRefused _ => exact ⟨job.exhausted_late sent, rfl, rfl⟩
      | reserved raced unlocked current =>
          rw [carried, stale] at current
          contradiction
  | converting carried =>
      cases access with
      | wrote bytes size => exact ⟨.converting carried, rfl, rfl⟩
      | filled fill => exact ⟨.finishing carried, rfl, rfl⟩
      | converted => exact ⟨.finishing carried, rfl, rfl⟩
      | failed => exact ⟨.recordLook, rfl, rfl⟩
      | stamped timestamp => exact ⟨.converting carried, rfl, rfl⟩
      | abandoned => exact ⟨.releasing (.inr rfl), rfl, rfl⟩
  | finishing carried =>
      cases access with
      | delivered ns current =>
          rw [carried, stale] at current
          contradiction
      | late _ => exact ⟨.releasing (.inr rfl), rfl, rfl⟩
  | measuring already =>
      cases access with
      | measured unlocked same => exact ⟨.releasing (.inl already), rfl, rfl⟩
      | unmeasured different => exact ⟨.releasing (.inl already), rfl, rfl⟩
  | recordLook =>
      cases access with
      | recordPassed current => exact ⟨.recordCharge, rfl, rfl⟩
      | recordRefused => exact ⟨.releasing (.inr rfl), rfl, rfl⟩
  | recordCharge =>
      cases access with
      | charged unlocked goes =>
          rcases goes with rfl | rfl
          · exact ⟨.recordWake, rfl, rfl⟩
          · exact ⟨.releasing (.inr rfl), rfl, rfl⟩
  | recordWake =>
      cases access
      exact ⟨.releasing (.inr rfl), rfl, rfl⟩
  | releasing refused =>
      cases access
      exact ⟨.returned refused, rfl, rfl⟩
  | returned refused => cases access

theorem Call.entry_late (now : Nat) {call : Call} (carries : call.carries k = true)
    (sent : Bool) : (call.entry now).Late k sent := by
  have started : ∀ job : Job, job.session = k → ∀ checked, (job.start checked).Late k sent := by
    intro job carried checked
    cases checked with
    | ok _ => exact .look carried
    | error error => exact .returned (.inr rfl)
  cases call with
  | publishRgb session _ _ _ => exact .look (by simpa [Call.carries] using carries)
  | publishRgbMetadata session _ _ _ _ => exact .look (by simpa [Call.carries] using carries)
  | publishNativeInto session _ _ => exact started _ (by simpa [Call.carries] using carries) _
  | publishNative session _ _ _ _ => exact started _ (by simpa [Call.carries] using carries) _
  | writableNative session _ => exact started _ (by simpa [Call.carries] using carries) _
  | _ => contradiction

namespace FrameHub

/-- From `s` on call `i` answers with a refusal if it answers at all. -/
def Refuses (s : FrameHub) (i : OpId) : Prop :=
  ∀ actions t, machine.Run Lib.Machine.anything s actions t →
    ∀ answer, t.answerOf i = some answer → answer.refused = true

/-- From `s` on no access of call `i` changes the snapshot (with it `latest` and the
numbering) or a queue. -/
def Untouching (s : FrameHub) (i : OpId) : Prop :=
  ∀ actions t, machine.Run Lib.Machine.anything s actions t →
    ∀ env u, t.step (.run i env) = some u → u.state = t.state ∧ u.receivers = t.receivers

theorem Over.late_run {actions : List Action} {sent : Bool} (ended : s.Over k)
    (at_pc : s.ops[i]? = some pc) (late : pc.Late k sent)
    (run : machine.Run Lib.Machine.anything s actions t) :
    ∃ now, t.ops[i]? = some now ∧ now.Late k sent := by
  have kept : t.Over k ∧ ∃ now, t.ops[i]? = some now ∧ now.Late k sent := by
    refine run.preserves (P := fun u =>
      u.Over k ∧ ∃ now, u.ops[i]? = some now ∧ now.Late k sent) ?_ ⟨ended, pc, at_pc, late⟩
    rintro u a v _ taken ⟨ended, now, at_now, late⟩
    refine ⟨ended.step taken, ?_⟩
    rcases (step_stepped taken).op at_now with same | ⟨w, after, access, rfl⟩
    · exact ⟨now, same, late⟩
    · refine ⟨after, ?_, (late.access ended.stale access).1⟩
      dsimp only
      rw [getElem?_set_ops at_now, if_pos rfl]
  exact kept.2

theorem Over.refuses (ended : s.Over k) (at_pc : s.ops[i]? = some pc) (late : pc.Late k false) :
    s.Refuses i := by
  intro actions t run answer answered
  obtain ⟨now, at_now, late⟩ := ended.late_run at_pc late run
  rw [answerOf_returned at_now answered] at late
  cases late with
  | returned refused => simpa using refused

theorem Over.untouching (ended : s.Over k) (at_pc : s.ops[i]? = some pc)
    (late : pc.Late k true) : s.Untouching i := by
  intro actions t run env u taken
  obtain ⟨now, at_now, late⟩ := ended.late_run at_pc late run
  obtain ⟨pc, v, after, here, access, rfl⟩ := step_run taken
  obtain rfl := Option.some.inj (at_now.symm.trans here)
  exact (late.access (ended.run run).stale access).2

end FrameHub

/-! ### A publish whose frame is in the snapshot -/

private theorem Pc.accepted_access (accepted : pc.accepted = true) (access : Access s pc t after) :
    after.accepted = true := by
  unfold Pc.accepted at accepted
  split at accepted
  · cases access with
    | measured unlocked same => rfl
    | unmeasured different => rfl
  · cases access
    rfl
  · cases access
  · contradiction

/-- From `s` on call `i` answers `Ok(true)` if it answers at all. -/
def FrameHub.Confirms (s : FrameHub) (i : OpId) : Prop :=
  ∀ actions t, machine.Run Lib.Machine.anything s actions t →
    ∀ answer, t.answerOf i = some answer → answer = .published (.ok true)

theorem FrameHub.confirms (at_pc : s.ops[i]? = some pc) (accepted : pc.accepted = true) :
    s.Confirms i := by
  intro actions t run answer answered
  obtain ⟨now, at_now, accepted⟩ : ∃ now, t.ops[i]? = some now ∧ now.accepted = true := by
    refine run.preserves (P := fun u => ∃ now, u.ops[i]? = some now ∧ now.accepted = true) ?_
      ⟨pc, at_pc, accepted⟩
    rintro u a v _ taken ⟨now, at_now, accepted⟩
    rcases (step_stepped taken).op at_now with same | ⟨w, after, access, rfl⟩
    · exact ⟨now, same, accepted⟩
    · refine ⟨after, ?_, Pc.accepted_access accepted access⟩
      dsimp only
      rw [getElem?_set_ops at_now, if_pos rfl]
  rw [answerOf_returned at_now answered] at accepted
  unfold Pc.accepted at accepted
  split at accepted <;> simp_all

/-- What a session that is over means for its publishes, in flight and to come. -/
structure FrameHub.Closed (s : FrameHub) (k : Nat) : Prop where
  untouching : ∀ i pc, s.ops[i]? = some pc → pc.carries k = true → s.Untouching i
  refuses : ∀ i pc, s.ops[i]? = some pc → pc.pending k = true → s.Refuses i
  confirms : ∀ i pc, s.ops[i]? = some pc → pc.accepted = true → s.Confirms i
  called : ∀ call : Call, call.carries k = true →
    FrameHub.Untouching { s with ops := s.ops ++ [call.entry s.clock] } s.ops.length ∧
    FrameHub.Refuses { s with ops := s.ops ++ [call.entry s.clock] } s.ops.length

theorem FrameHub.Over.closed (ended : s.Over k) : s.Closed k where
  untouching i pc at_pc carries := ended.untouching at_pc (Pc.late_of_carries carries)
  refuses i pc at_pc pending := ended.refuses at_pc (Pc.late_of_pending pending false)
  confirms i pc at_pc accepted := FrameHub.confirms at_pc accepted
  called call carries := by
    have begun : FrameHub.Over { s with ops := s.ops ++ [call.entry s.clock] } k :=
      ended.step (a := .call call) rfl
    have here : (s.ops ++ [call.entry s.clock])[s.ops.length]? = some (call.entry s.clock) := by
      simp
    exact ⟨begun.untouching here (Call.entry_late s.clock carries true),
      begun.refuses here (Call.entry_late s.clock carries false)⟩

/-! ### Frames of the current session -/

/-- `latest` is a frame of the session that is active. -/
def FrameHub.Fresh (s : FrameHub) : Prop :=
  ∀ f, s.state.latest = some f → s.isCurrent f.key.session = true

theorem FrameHub.Fresh.access (fresh : s.Fresh) (access : Access s pc t after) : t.Fresh := by
  intro f latest
  cases access with
  | reserved raced unlocked current =>
      rw [FrameHub.reserve_keeps] at latest ⊢
      exact fresh f latest
  | @delivered job lease elapsed ns current =>
      obtain rfl := Option.some.inj latest
      exact current
  | startReplace => contradiction
  | stopDeactivate => contradiction
  | _ => exact fresh f latest

theorem FrameHub.Fresh.step (fresh : s.Fresh) (taken : s.step a = some t) : t.Fresh := by
  cases step_stepped taken with
  | ran at_pc access =>
      have kept := fresh.access access
      exact kept
  | flagged call => cases call <;> exact fresh
  | consumed consumed =>
      rw [consumed.keeps]
      exact fresh
  | _ => exact fresh

theorem fresh_reachable {admits : FrameHub → Action → Prop}
    (reached : machine.Reachable admits s) : s.Fresh := by
  refine reached.invariant ?_ fun _ _ _ _ taken fresh => fresh.step taken
  rintro s ⟨capacity, drawn, rfl⟩ f latest
  contradiction

theorem next_given {id : ReceiverId} {r : Receiver} {f : CapturedFrame}
    (given : (s.next id r).1 = .ok (some f)) :
    f ∈ r.queue ∧ f.key.session = s.state.session := by
  unfold FrameHub.next at given
  split at given
  · contradiction
  · exact FrameHub.pop_queue.2 f (Except.ok.inj given)

/-- Once `stop` or a later `start` has returned, a publish of session `k` that has not
published its frame is refused, one that has is confirmed, and no publish of `k` changes
the snapshot or a queue; `latest` and `next` give frames of the current session. -/
theorem epoch_isolated (reached : machine.Reachable Lib.Machine.anything s) :
    (∀ f, s.state.latest = some f → s.isCurrent f.key.session = true) ∧
    (∀ id r f, (s.next id r).1 = .ok (some f) → f.key.session = s.state.session) ∧
    ∀ k (call : Call) actions t, s.Started k → call = .start ∨ call = .stop →
      machine.Run Lib.Machine.anything { s with ops := s.ops ++ [call.entry s.clock] }
        actions t →
      (t.answerOf s.ops.length).isSome →
      ∀ later u, machine.Run Lib.Machine.anything t later u → u.Closed k := by
  refine ⟨fresh_reachable reached, fun id r f given => (next_given given).2, ?_⟩
  intro k call actions t started ends run returned later u more
  have ended : t.Over k := FrameHub.over_of_returned started ends run returned
  exact (ended.run more).closed

theorem epoch_isolated_once :
    ∃ s, machine.Reachable Lib.Machine.anything s ∧ s.Started 1 ∧
      ((∀ f, s.state.latest = some f → s.isCurrent f.key.session = true) ∧
      (∀ id r f, (s.next id r).1 = .ok (some f) → f.key.session = s.state.session) ∧
      ∀ k (call : Call) actions t, s.Started k → call = .start ∨ call = .stop →
        machine.Run Lib.Machine.anything { s with ops := s.ops ++ [call.entry s.clock] }
          actions t →
        (t.answerOf s.ops.length).isSome →
        ∀ later u, machine.Run Lib.Machine.anything t later u → u.Closed k) := by
  have passed : ((machine.exec (fun _ _ => true) (FrameHub.new 2) ([Action.call .start] ++
      List.replicate 4 (Action.run 0 {}))).any fun s => decide (s.Started 1)) = true := by
    decide +kernel
  obtain ⟨s, reached, started⟩ := Lib.Machine.Reachable.of_exec (machine_new 2) passed
  have anyhow := reached.mono fun _ _ _ => (trivial : Lib.Machine.anything _ _)
  exact ⟨s, anyhow, of_decide_eq_true started, epoch_isolated anyhow⟩

/-! ### A publish that has published already -/

/-- Session 1 publishes a frame and is preempted before it counts the frame. -/
def publishing : List Action :=
  [Action.call .start] ++ List.replicate 4 (Action.run 0 {}) ++
  [Action.call (.publishRgb 1 1 1 none), .run 1 {}, .run 1 {}, .run 1 { choice := .finish 1 },
    .run 1 {}]

private theorem publishing_returns_true :
    ((machine.exec (fun _ _ => true) (FrameHub.new 2) publishing).any fun s =>
      decide (s.ops.length = 2 ∧ s.Started 1) &&
      (machine.exec (fun _ _ => true) { s with ops := s.ops ++ [.stopMark] }
        (List.replicate 4 (.run 2 {}))).any fun t =>
          ((t.answerOf 2).isSome && t.ops[1]?.any (Pc.carries 1)) &&
          (machine.exec (fun _ _ => true) t [.run 1 {}, .run 1 {}]).any fun u =>
            (u.answerOf 1).any fun answer => !answer.refused) = true := by
  decide +kernel

theorem not_every_publish_refused :
    ¬ ∀ s k (call : Call) actions t, machine.Reachable Lib.Machine.anything s →
      s.Started k → call = .start ∨ call = .stop →
      machine.Run Lib.Machine.anything { s with ops := s.ops ++ [call.entry s.clock] }
        actions t →
      (t.answerOf s.ops.length).isSome →
      ∀ i pc, t.ops[i]? = some pc → pc.carries k = true → t.Refuses i := by
  intro always
  obtain ⟨s, reached, passed⟩ :=
    Lib.Machine.Reachable.of_exec (machine_new 2) publishing_returns_true
  obtain ⟨ready, passed⟩ := Bool.and_eq_true_iff.mp passed
  obtain ⟨two, started⟩ := of_decide_eq_true ready
  obtain ⟨t, run, passed⟩ := Lib.Machine.run_of_passed passed
  obtain ⟨here, passed⟩ := Bool.and_eq_true_iff.mp passed
  obtain ⟨returned, carried⟩ := Bool.and_eq_true_iff.mp here
  obtain ⟨u, rest, answered⟩ := Lib.Machine.run_of_passed passed
  obtain ⟨pc, at_pc, carries⟩ := (Option.any_eq_true _ _).mp carried
  have refuses := always s 1 .stop _ t (reached.mono fun _ _ _ => trivial) started (.inr rfl)
    (run.mono fun _ _ _ => trivial) (by rwa [two]) 1 pc at_pc carries
  obtain ⟨answer, found, sent⟩ := (Option.any_eq_true _ _).mp answered
  have refused := refuses _ u (rest.mono fun _ _ _ => trivial) answer found
  simp [refused] at sent

end CameraRs.Frame

/-
Bursts of frame errors.

A history lists what happened to frames, by the accesses that calls made. The hub counts
the failures since the last published frame and the largest such burst of an epoch; a
burst that reaches the threshold wakes the recovery task once.
-/

import CameraRs.Frame.Metrics
import CameraRs.Lib.Bursts

namespace CameraRs.Frame

inductive RecoveryTrigger
  | sourceStopped
  | frameErrors (consecutive : Nat)
  | sourceStalled
deriving DecidableEq, Repr

namespace FrameHub

/-- `last_source_activity` is `timeout` old or was never set. -/
def stalled (s : FrameHub) (timeout : Nat) : Bool :=
  s.pool.lastSourceActivity.all fun activity => decide (timeout ≤ s.clock - activity)

def recoveryTrigger (s : FrameHub) (stallTimeout : Nat) : Option RecoveryTrigger :=
  if !s.state.active then some .sourceStopped
  else if frameErrorRecoveryThreshold ≤ s.pool.metrics.consecutiveConversionErrors then
    some (.frameErrors s.pool.metrics.consecutiveConversionErrors)
  else if s.stalled stallTimeout then some .sourceStalled
  else none

end FrameHub

inductive Outcome
  | received
  | published
  | dropped
  | failed
  | started
  | stopped
deriving DecidableEq, Repr

/-- What the next access of a call means. A reservation for the current session receives
the frame, and drops it unless it is `granted` a buffer; a frame counts as published in
the session that it is measured in. -/
def Pc.outcomes (s : FrameHub) (granted : Bool) : Pc → List Outcome
  | .reservePool job _ =>
      if s.isCurrent job.session then
        if granted then [.received] else [.received, .dropped]
      else []
  | .measuring job _ _ => if s.state.session = job.session then [.published] else []
  | .recordCharge _ activity _ => if activity then [.received, .failed] else [.failed]
  | .dropCharge _ => [.received, .dropped]
  | .startReset => [.started]
  | .stopWake => [.stopped]
  | _ => []

def outcomes (s : FrameHub) (a : Action) (t : FrameHub) : List Outcome :=
  match a with
  | .run i _ => s.ops[i]?.elim [] fun pc => pc.outcomes s (t.ops[i]?.any (·.lease.isSome))
  | _ => []

namespace Outcome

def clears : Outcome → Bool
  | .published | .started => true
  | _ => false

def fails (outcome : Outcome) : Bool := outcome == .failed

end Outcome

def epoch (log : List Outcome) : List Outcome := log.rtakeWhile (· != .started)

def failures (log : List Outcome) : Nat := Lib.burst Outcome.clears Outcome.fails (epoch log)

def largestFailures (log : List Outcome) : Nat :=
  Lib.largestBurst Outcome.clears Outcome.fails (epoch log)

def burstsAtThreshold (log : List Outcome) : Nat :=
  Lib.burstsReaching Outcome.clears Outcome.fails frameErrorRecoveryThreshold log

/-- A recorder that has not woken the recovery task yet. -/
def Pc.waking : Pc → Bool
  | .recordWake _ => true
  | _ => false

/-- What the hub knows about bursts is what its history says. -/
structure FrameHub.TracksBursts (s : FrameHub) (log : List Outcome) : Prop where
  consecutive : s.pool.metrics.consecutiveConversionErrors = failures log
  largest : s.pool.metrics.maxConsecutiveConversionErrors = largestFailures log
  trigger : ∀ timeout k, s.state.active = true →
    (s.recoveryTrigger timeout = some (.frameErrors k) ↔
      k = failures log ∧ frameErrorRecoveryThreshold ≤ k)
  quiet : ∀ timeout, s.state.active = true → s.stalled timeout = false →
    failures log < frameErrorRecoveryThreshold → s.recoveryTrigger timeout = none
  woken : s.recoveryWake + s.ops.countP Pc.waking =
    burstsAtThreshold log + log.count .stopped

/-! ### One outcome -/

/-- The burst in progress, the largest one of the epoch, and the wakes. -/
structure Tally where
  consecutive : Nat
  largest : Nat
  wakes : Nat

def Tally.add (tally : Tally) : Outcome → Tally
  | .received | .dropped => tally
  | .published => { tally with consecutive := 0 }
  | .failed =>
      { consecutive := tally.consecutive + 1
        largest := max tally.largest (tally.consecutive + 1)
        wakes := tally.wakes +
          if tally.consecutive + 1 = frameErrorRecoveryThreshold then 1 else 0 }
  | .started => { tally with consecutive := 0, largest := 0 }
  | .stopped => { tally with wakes := tally.wakes + 1 }

def tally (log : List Outcome) : Tally where
  consecutive := failures log
  largest := largestFailures log
  wakes := burstsAtThreshold log + log.count .stopped

/-- The wakes of recorders on their way count. -/
def FrameHub.tally (s : FrameHub) : Tally where
  consecutive := s.pool.metrics.consecutiveConversionErrors
  largest := s.pool.metrics.maxConsecutiveConversionErrors
  wakes := s.recoveryWake + s.ops.countP Pc.waking

variable {s t : FrameHub} {a : Action} {log : List Outcome} {i : OpId} {pc after : Pc}
  {outcome : Outcome}

theorem epoch_started (log : List Outcome) : epoch (log ++ [.started]) = [] :=
  List.rtakeWhile_concat_neg _ _ _ (by simp)

theorem epoch_snoc (within : outcome ≠ .started) :
    epoch (log ++ [outcome]) = epoch log ++ [outcome] :=
  List.rtakeWhile_concat_pos _ _ _ (by simpa using within)

theorem failures_whole (log : List Outcome) :
    failures log = Lib.burst Outcome.clears Outcome.fails log := by
  induction log using List.reverseRecOn with
  | nil => rfl
  | append_singleton log outcome ih =>
      unfold failures at ih ⊢
      by_cases start : outcome = .started
      · subst start
        rw [epoch_started, Lib.burst_nil, Lib.burst_end rfl]
      · rw [epoch_snoc start]
        cases ending : outcome.clears with
        | true => rw [Lib.burst_end ending, Lib.burst_end ending]
        | false => rw [Lib.burst_inside ending, Lib.burst_inside ending, ih]

theorem failures_end (log : List Outcome) (ending : outcome.clears = true) :
    failures (log ++ [outcome]) = 0 := by
  rw [failures_whole, Lib.burst_end ending]

theorem failures_inside (log : List Outcome) (inside : outcome.clears = false) :
    failures (log ++ [outcome]) = failures log + if outcome.fails then 1 else 0 := by
  rw [failures_whole, failures_whole, Lib.burst_inside inside]

private theorem largestFailures_published (log : List Outcome) :
    largestFailures (log ++ [.published]) = largestFailures log := by
  rw [largestFailures, epoch_snoc (by decide), Lib.largestBurst_end rfl]
  rfl

theorem largestFailures_inside (log : List Outcome) (inside : outcome.clears = false) :
    largestFailures (log ++ [outcome]) =
      max (largestFailures log) (failures log + if outcome.fails then 1 else 0) := by
  have within : outcome ≠ .started := by
    rintro rfl
    contradiction
  rw [largestFailures, epoch_snoc within, Lib.largestBurst_inside inside,
    Lib.burst_inside inside]
  rfl

private theorem failures_le_largest (log : List Outcome) : failures log ≤ largestFailures log :=
  Lib.burst_le_largest _

theorem burstsAtThreshold_end (log : List Outcome) (ending : outcome.clears = true) :
    burstsAtThreshold (log ++ [outcome]) = burstsAtThreshold log :=
  Lib.burstsReaching_end (by decide) ending

private theorem burstsAtThreshold_failed (log : List Outcome) :
    burstsAtThreshold (log ++ [.failed]) = burstsAtThreshold log +
      if failures log + 1 = frameErrorRecoveryThreshold then 1 else 0 := by
  rw [failures_whole]
  exact Lib.burstsReaching_counted rfl rfl

private theorem burstsAtThreshold_other (log : List Outcome) (inside : outcome.clears = false)
    (other : outcome.fails = false) :
    burstsAtThreshold (log ++ [outcome]) = burstsAtThreshold log :=
  Lib.burstsReaching_other inside other

theorem tally_other (log : List Outcome) (inside : outcome.clears = false)
    (other : outcome.fails = false) :
    tally (log ++ [outcome]) =
      { tally log with
        wakes := burstsAtThreshold log + (log ++ [outcome]).count .stopped } := by
  have bound := failures_le_largest log
  rw [tally, tally, failures_inside log inside, largestFailures_inside log inside,
    burstsAtThreshold_other log inside other, if_neg (by simp [other]), Nat.add_zero,
    Nat.max_eq_left bound]

private theorem tally_snoc (log : List Outcome) (outcome : Outcome) :
    tally (log ++ [outcome]) = (tally log).add outcome := by
  cases outcome with
  | received =>
      rw [tally_other log rfl rfl, List.count_append]
      rfl
  | dropped =>
      rw [tally_other log rfl rfl, List.count_append]
      rfl
  | stopped =>
      rw [tally_other log rfl rfl, List.count_append, ← Nat.add_assoc]
      rfl
  | published =>
      rw [tally, failures_end log rfl, largestFailures_published, burstsAtThreshold_end log rfl,
        List.count_append]
      rfl
  | started =>
      rw [tally, failures_end log rfl, largestFailures, epoch_started,
        burstsAtThreshold_end log rfl, List.count_append]
      rfl
  | failed =>
      rw [tally, failures_inside log rfl, largestFailures_inside log rfl,
        burstsAtThreshold_failed, List.count_append, Nat.add_right_comm]
      rfl

private theorem tally_append (log later : List Outcome) :
    tally (log ++ later) = later.foldl Tally.add (tally log) := by
  induction later generalizing log with
  | nil => rw [List.append_nil, List.foldl_nil]
  | cons outcome rest ih =>
      rw [List.foldl_cons, ← tally_snoc, ← ih, List.append_assoc, List.singleton_append]

/-! ### One access -/

theorem waking_set (at_pc : s.ops[i]? = some pc) (after : Pc) :
    (s.ops.set i after).countP Pc.waking + (if pc.waking then 1 else 0) =
      s.ops.countP Pc.waking + (if after.waking then 1 else 0) :=
  countP_set_add at_pc after

theorem exhausted_waking (job : Job) : job.exhausted.waking = false := by
  obtain ⟨answer, same⟩ := exhausted_answers job
  rw [same]
  rfl

theorem recorded_waking (failed : Option (Lease × CameraError)) :
    (FrameHub.recorded failed).waking = false := by
  cases failed <;> rfl

theorem charge_access {env : Env} {session : Nat} {activity : Bool}
    {failed : Option (Lease × CameraError)}
    (taken : s.callStep env (.recordCharge session activity failed) = some (t, after)) :
    t = s.setPool (s.pool.chargeError activity s.clock) ∧
      after = if s.pool.metrics.consecutiveConversionErrors + 1 = frameErrorRecoveryThreshold
        then .recordWake failed else FrameHub.recorded failed := by
  simp only [FrameHub.callStep, FrameHub.recordStep] at taken
  split at taken
  · contradiction
  · obtain ⟨rfl, rfl⟩ := Prod.mk.inj (Option.some.inj taken)
    refine ⟨rfl, ?_⟩
    cases activity <;> rfl

theorem tally_moved (at_pc : s.ops[i]? = some pc) (idle : pc.waking = false)
    (still : after.waking = false) :
    { t with ops := s.ops.set i after }.tally =
      { consecutive := t.pool.metrics.consecutiveConversionErrors
        largest := t.pool.metrics.maxConsecutiveConversionErrors
        wakes := t.recoveryWake + s.ops.countP Pc.waking } := by
  have pending := waking_set at_pc after
  rw [idle, still] at pending
  simp only [Bool.false_eq_true, if_false, Nat.add_zero] at pending
  simp only [FrameHub.tally, pending]

theorem tally_quiet (at_pc : s.ops[i]? = some pc) (metrics : t.pool.metrics = s.pool.metrics)
    (wake : t.recoveryWake = s.recoveryWake) (idle : pc.waking = false)
    (still : after.waking = false) (none : pc.outcomes s after.lease.isSome = []) :
    { t with ops := s.ops.set i after }.tally =
      (pc.outcomes s after.lease.isSome).foldl Tally.add s.tally := by
  rw [tally_moved at_pc idle still, none, metrics, wake]
  rfl

private theorem reserve_tally {job : Job} {length : Nat} {raced : List ArcId}
    (at_pc : s.ops[i]? = some (.reservePool job length))
    (current : s.isCurrent job.session = true) :
    { (s.reserve raced job length).1 with
        ops := s.ops.set i (s.reserve raced job length).2 }.tally =
      ((Pc.reservePool job length).outcomes s
        (s.reserve raced job length).2.lease.isSome).foldl Tally.add s.tally := by
  have keeps := s.reserve_keeps raced job length
  have plain : ∀ granted, ((Pc.reservePool job length).outcomes s granted).foldl Tally.add
      s.tally = s.tally := by
    intro granted
    cases granted <;> simp [Pc.outcomes, current, Tally.add]
  rw [plain]
  rcases s.reserve_metrics raced job length with ⟨lease, goes, metrics⟩ | ⟨goes, metrics⟩
  · rw [tally_moved at_pc rfl (by rw [goes]; rfl), metrics, keeps]
    rfl
  · rw [tally_moved at_pc rfl (by rw [goes]; exact exhausted_waking job), metrics, keeps]
    rfl

private theorem charge_tally {env : Env} {session : Nat} {activity : Bool}
    {failed : Option (Lease × CameraError)}
    (at_pc : s.ops[i]? = some (.recordCharge session activity failed))
    (taken : s.callStep env (.recordCharge session activity failed) = some (t, after)) :
    { t with ops := s.ops.set i after }.tally = s.tally.add .failed := by
  obtain ⟨rfl, goes⟩ := charge_access taken
  have pending := waking_set at_pc after
  have wakes : after.waking = decide
      (s.pool.metrics.consecutiveConversionErrors + 1 = frameErrorRecoveryThreshold) := by
    rw [goes]
    split
    · next crossing => exact (decide_eq_true crossing).symm
    · next short => rw [recorded_waking, decide_eq_false short]
  rw [wakes] at pending
  simp only [Pc.waking, Bool.false_eq_true, if_false, Nat.add_zero,
    decide_eq_true_eq] at pending
  cases activity <;>
    (simp only [FrameHub.tally, pending, ← Nat.add_assoc]
     rfl)

private theorem run_tally {env : Env} (at_pc : s.ops[i]? = some pc)
    (taken : s.callStep env pc = some (t, after)) :
    { t with ops := s.ops.set i after }.tally =
      (pc.outcomes s after.lease.isSome).foldl Tally.add s.tally := by
  have access := FrameHub.callStep_access taken
  cases access with
  | @lookRefused job stale => exact tally_quiet at_pc rfl rfl rfl (exhausted_waking job) rfl
  | @poolRefused job length stale =>
      exact tally_quiet at_pc rfl rfl rfl (exhausted_waking job) (by simp [Pc.outcomes, stale])
  | @reserved job length raced unlocked current => exact reserve_tally at_pc current
  | @measured job lease elapsed unlocked same =>
      rw [tally_moved at_pc rfl rfl]
      simp [Pc.outcomes, same, Pool.measure, FrameHub.setPool, Tally.add, FrameHub.tally]
  | unmeasured different =>
      exact tally_quiet at_pc rfl rfl rfl rfl (if_neg different)
  | @recordRefused session activity failed =>
      exact tally_quiet at_pc rfl rfl rfl (recorded_waking failed) rfl
  | @charged session activity failed _ unlocked _ =>
      rw [charge_tally at_pc taken]
      cases activity <;> rfl
  | @woken failed =>
      have pending := waking_set at_pc (FrameHub.recorded failed)
      rw [recorded_waking] at pending
      simp only [Pc.waking, Bool.false_eq_true, if_true, if_false, Nat.add_zero] at pending
      change _ = s.tally
      simp [FrameHub.tally, FrameHub.wakeRecovery, ← pending]
      omega
  | dropCharged unlocked =>
      rw [tally_moved at_pc rfl rfl]
      rfl
  | startReset unlocked =>
      rw [tally_moved at_pc rfl rfl]
      rfl
  | stopWake =>
      rw [tally_moved at_pc rfl rfl]
      simp [Pc.outcomes, Tally.add, FrameHub.tally, FrameHub.wakeRecovery]
      omega
  | configured raced native answer unlocked =>
      exact tally_quiet at_pc (Pool.configure_metrics _ _ _) rfl rfl rfl rfl
  | budgetRead goes =>
      rcases goes with rfl | ⟨error, rfl⟩
      · exact tally_quiet at_pc rfl rfl rfl rfl rfl
      · exact tally_quiet at_pc rfl rfl rfl rfl rfl
  | _ => exact tally_quiet at_pc rfl rfl rfl rfl rfl

theorem Pc.Entry.waking (entry : pc.Entry) : pc.waking = false := by
  cases entry <;> rfl

theorem outside_tally (stepped : Stepped s a t) (other : ∀ i env, a ≠ .run i env) :
    t.tally = s.tally := by
  cases stepped with
  | called call =>
      have still := (Call.entry_entry s.clock call).waking
      simp [FrameHub.tally, List.countP_append, still]
  | @ran i env => exact absurd rfl (other i env)
  | consumed consumed =>
      rw [consumed.keeps]
      rfl
  | _ => rfl

theorem step_tally (taken : s.step a = some t) :
    t.tally = (outcomes s a t).foldl Tally.add s.tally := by
  cases a with
  | run i env =>
      obtain ⟨pc, u, after, at_pc, made, rfl⟩ := step_call taken
      have now : (s.ops.set i after)[i]? = some after :=
        List.getElem?_set_self (List.getElem?_eq_some_iff.mp at_pc).1
      rw [run_tally at_pc made, outcomes, at_pc, now]
      rfl
  | _ => exact outside_tally (step_stepped taken) (by simp)

/-! ### Runs -/

theorem trigger_errors {timeout k : Nat} (active : s.state.active = true) :
    s.recoveryTrigger timeout = some (.frameErrors k) ↔
      k = s.pool.metrics.consecutiveConversionErrors ∧ frameErrorRecoveryThreshold ≤ k := by
  unfold FrameHub.recoveryTrigger
  rw [active, if_neg (by decide)]
  constructor
  · intro raised
    split at raised
    · next reached =>
        obtain rfl := RecoveryTrigger.frameErrors.inj (Option.some.inj raised)
        exact ⟨rfl, reached⟩
    · split at raised <;> simp at raised
  · rintro ⟨rfl, reached⟩
    rw [if_pos reached]

/-- In every run the hub's burst counters, its trigger and its wakes are those of the
history. -/
theorem bursts_tracked
    (reached : (machine.logged outcomes).Reachable Lib.Machine.anything (s, log)) :
    s.TracksBursts log := by
  have tallied : s.tally = tally log := by
    refine reached.invariant (P := fun state => state.1.tally = tally state.2) ?_ ?_
    · rintro ⟨s, log⟩ ⟨⟨capacity, drawn, rfl⟩, rfl⟩
      rfl
    · intro before a after _ taken tallied
      obtain ⟨step, logged⟩ := Lib.Machine.logged_step taken
      rw [logged, tally_append, ← tallied]
      exact step_tally step
  have consecutive : s.pool.metrics.consecutiveConversionErrors = failures log :=
    congrArg Tally.consecutive tallied
  refine ⟨consecutive, congrArg Tally.largest tallied, ?_, ?_, congrArg Tally.wakes tallied⟩
  · intro timeout k active
    rw [← consecutive]
    exact trigger_errors active
  · intro timeout active moving short
    rw [← consecutive] at short
    simp [FrameHub.recoveryTrigger, active, moving, Nat.not_le.mpr short]

/-- A backend rejects the input of session 1, as call `i`. -/
def rejecting (i : OpId) : List Action :=
  [.call (.recordInputError 1), .run i {}, .run i {}]

/-- Eight rejected inputs, and the recovery task is woken; then a frame is published. -/
def rejectingEight : List Action :=
  [Action.call .start] ++ List.replicate 4 (Action.run 0 {}) ++
  rejecting 1 ++ rejecting 2 ++ rejecting 3 ++ rejecting 4 ++
  rejecting 5 ++ rejecting 6 ++ rejecting 7 ++ rejecting 8 ++ [Action.run 8 {}]

theorem bursts_tracked_eight :
    ∃ (s : FrameHub) (log : List Outcome), failures log = 8 ∧ s.recoveryWake = 1 ∧
      s.TracksBursts log := by
  have passed : (((machine.logged outcomes).exec (fun _ _ => true) (FrameHub.new 6, [])
      rejectingEight).any fun state => decide (failures state.2 = 8) &&
        decide (state.1.recoveryWake = 1)) = true := by
    decide +kernel
  have initial : (machine.logged outcomes).initial (FrameHub.new 6, []) :=
    ⟨machine_new 6, rfl⟩
  obtain ⟨⟨s, log⟩, reached, passed⟩ := Lib.Machine.Reachable.of_exec initial passed
  obtain ⟨eight, woken⟩ := Bool.and_eq_true_iff.mp passed
  have anyhow := reached.mono fun _ _ _ => (trivial : Lib.Machine.anything _ _)
  exact ⟨s, log, of_decide_eq_true eight, of_decide_eq_true woken, bursts_tracked anyhow⟩

end CameraRs.Frame

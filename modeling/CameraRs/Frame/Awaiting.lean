/-
Waiting for a recovery trigger.

`wait_for_recovery_trigger` subscribes to the wake channel and then reads the state and the
pool, one after the other. `stop` and the recorder that reaches the threshold raise the wake
after they have changed what is read, so a waiter that missed the change has not seen the wake.
-/

import CameraRs.Frame.Bursts
import CameraRs.Lib.Watch

namespace CameraRs.Frame

/-- A waiter before the access that is named; `suspended` is the `select!`, with the time at
which its sleep ends. -/
inductive WaitPhase
  | idle
  | lookState
  | lookPool
  | remaining
  | suspended (deadline : Nat)
  | returned (trigger : RecoveryTrigger)
deriving DecidableEq

namespace WaitPhase

def subscribed : WaitPhase → Bool
  | .idle | .returned _ => false
  | _ => true

def pastState : WaitPhase → Bool
  | .lookPool | .remaining | .suspended _ => true
  | _ => false

/-- The waiter has found fewer errors than the threshold. -/
def pastPool : WaitPhase → Bool
  | .remaining | .suspended _ => true
  | _ => false

end WaitPhase

/-- A task in `wait_for_recovery_trigger`, and the generation its receiver has seen. -/
structure Waiter where
  seen : Nat := 0
  phase : WaitPhase := .idle
  stallTimeout : Nat := 0

structure AwaitedHub where
  hub : FrameHub
  waiters : Nat → Waiter := fun _ => {}

inductive WaiterAction
  | hub (a : Action)
  | wait (id : Nat) (stallTimeout : Nat)
  | look (id : Nat)
  | wake (id : Nat)
  | elapse (id : Nat)
  | abandon (id : Nat)

def FrameHub.sourceStallRemaining (s : FrameHub) (timeout : Nat) : Nat :=
  s.pool.lastSourceActivity.elim 0 fun activity => timeout - (s.clock - activity)

namespace AwaitedHub

def setPhase (c : AwaitedHub) (id : Nat) (phase : WaitPhase) : AwaitedHub :=
  { c with waiters := Function.update c.waiters id { c.waiters id with phase := phase } }

/-- `subscribe`, or `changed` that has resolved. -/
def observe (c : AwaitedHub) (id : Nat) (stallTimeout : Nat) : AwaitedHub :=
  { c with
    waiters := Function.update c.waiters id
      { seen := c.hub.recoveryWake, phase := .lookState, stallTimeout := stallTimeout } }

/-- The two accesses of `recovery_trigger`, and `source_stall_remaining`. -/
def look (c : AwaitedHub) (id : Nat) : Option AwaitedHub :=
  match (c.waiters id).phase with
  | .lookState =>
      if !c.hub.state.active then some (c.setPhase id (.returned .sourceStopped))
      else some (c.setPhase id .lookPool)
  | .lookPool =>
      if c.hub.poolLock then none
      else if frameErrorRecoveryThreshold ≤ c.hub.pool.metrics.consecutiveConversionErrors then
        some (c.setPhase id
          (.returned (.frameErrors c.hub.pool.metrics.consecutiveConversionErrors)))
      else if c.hub.stalled (c.waiters id).stallTimeout then
        some (c.setPhase id (.returned .sourceStalled))
      else some (c.setPhase id .remaining)
  | .remaining =>
      if c.hub.poolLock then none
      else
        some (c.setPhase id (.suspended
          (c.hub.clock + c.hub.sourceStallRemaining (c.waiters id).stallTimeout)))
  | _ => none

/-- The hub outlives its waiters, so `changed` does not fail. -/
def step (c : AwaitedHub) : WaiterAction → Option AwaitedHub
  | .hub a => (c.hub.step a).map fun hub => { c with hub := hub }
  | .wait id stallTimeout =>
      if (c.waiters id).phase.subscribed then none else some (c.observe id stallTimeout)
  | .look id => c.look id
  | .wake id =>
      match (c.waiters id).phase with
      | .suspended _ =>
          if (c.waiters id).seen = c.hub.recoveryWake then none
          else some (c.observe id (c.waiters id).stallTimeout)
      | _ => none
  | .elapse id =>
      match (c.waiters id).phase with
      | .suspended deadline =>
          if deadline ≤ c.hub.clock then some (c.setPhase id .lookState) else none
      | _ => none
  | .abandon id =>
      match (c.waiters id).phase with
      | .suspended _ => some (c.setPhase id .idle)
      | _ => none

end AwaitedHub

def awaiting : Lib.Machine AwaitedHub WaiterAction where
  initial c := machine.initial c.hub ∧ ∀ id, (c.waiters id).phase = .idle
  step := AwaitedHub.step

/-- A call that has changed what waiters look at, and has still to raise the wake. -/
def Pc.announcing : Pc → Bool
  | .stopWake | .recordWake _ => true
  | _ => false

namespace FrameHub

/-- The source is stopped, and no `stop` has still to raise the wake. -/
structure Ended (s : FrameHub) : Prop where
  inactive : s.state.active = false
  announced : ∀ pc ∈ s.ops, pc ≠ .stopWake

/-- The errors are at the threshold, and no recorder has still to raise the wake. -/
structure Failing (s : FrameHub) : Prop where
  reached : frameErrorRecoveryThreshold ≤ s.pool.metrics.consecutiveConversionErrors
  announced : ∀ pc ∈ s.ops, pc.waking = false

end FrameHub

variable {s t : FrameHub} {a : Action} {i : OpId} {pc after : Pc}

/-! ### What raises the wake -/

theorem forall_mem_of_set {P : Pc → Prop} (at_pc : s.ops[i]? = some pc) (here : P pc)
    (rest : ∀ other ∈ s.ops.set i after, P other) : ∀ other ∈ s.ops, P other := by
  intro other member
  obtain ⟨j, at_j⟩ := List.mem_iff_getElem?.mp member
  by_cases same : j = i
  · subst same
    exact Option.some.inj (at_pc.symm.trans at_j) ▸ here
  · apply rest
    apply List.mem_of_getElem? (i := j)
    rw [FrameHub.getElem?_set_ops at_pc, if_neg same, at_j]

theorem mem_set_ops (at_pc : s.ops[i]? = some pc) : after ∈ s.ops.set i after := by
  apply List.mem_of_getElem? (i := i)
  rw [FrameHub.getElem?_set_ops at_pc, if_pos rfl]

namespace FrameHub

theorem Ended.before (ended : { t with ops := s.ops.set i after }.Ended)
    (at_pc : s.ops[i]? = some pc) (plain : pc ≠ .stopWake)
    (active : t.state.active = s.state.active) : s.Ended where
  inactive := active.symm.trans ended.inactive
  announced := forall_mem_of_set at_pc plain ended.announced

theorem Failing.before (failing : { t with ops := s.ops.set i after }.Failing)
    (at_pc : s.ops[i]? = some pc) (plain : pc.waking = false)
    (errors : t.pool.metrics.consecutiveConversionErrors =
      s.pool.metrics.consecutiveConversionErrors) : s.Failing where
  reached := errors ▸ failing.reached
  announced := forall_mem_of_set at_pc plain failing.announced

end FrameHub

private theorem ended_access {env : Env} (at_pc : s.ops[i]? = some pc)
    (taken : s.callStep env pc = some (t, after))
    (ended : { t with ops := s.ops.set i after }.Ended) :
    s.Ended ∨ s.recoveryWake < t.recoveryWake := by
  have access := FrameHub.callStep_access taken
  cases access with
  | stopWake => exact .inr (Nat.lt_succ_self _)
  | stopDeactivate => exact absurd rfl (ended.announced _ (mem_set_ops at_pc))
  | startReplace => cases ended.inactive
  | @reserved job length raced unlocked current =>
      refine .inl (ended.before at_pc (by simp) ?_)
      rw [FrameHub.reserve_keeps]
  | _ => exact .inl (ended.before at_pc (by simp) rfl)

private theorem failing_access {env : Env} (at_pc : s.ops[i]? = some pc)
    (taken : s.callStep env pc = some (t, after))
    (failing : { t with ops := s.ops.set i after }.Failing) :
    s.Failing ∨ s.recoveryWake < t.recoveryWake := by
  have access := FrameHub.callStep_access taken
  cases access with
  | woken => exact .inr (Nat.lt_succ_self _)
  | @charged session activity failed _ unlocked _ =>
      obtain ⟨-, goes⟩ := charge_access taken
      have here := failing.announced after (mem_set_ops at_pc)
      have reached : frameErrorRecoveryThreshold ≤
          s.pool.metrics.consecutiveConversionErrors + 1 := by
        have counted := failing.reached
        cases activity <;> exact counted
      rw [goes] at here
      split at here
      · cases here
      · next short =>
          -- the threshold had been crossed before
          refine .inl ⟨by omega, forall_mem_of_set at_pc rfl failing.announced⟩
  | @measured job lease elapsed unlocked same =>
      have reached := failing.reached
      simp [FrameHub.setPool, Pool.measure, frameErrorRecoveryThreshold] at reached
  | startReset unlocked =>
      have reached := failing.reached
      simp [Pool.reset, frameErrorRecoveryThreshold] at reached
  | @reserved job length raced unlocked current =>
      refine .inl (failing.before at_pc rfl ?_)
      obtain ⟨lease, goes, metrics⟩ | ⟨goes, metrics⟩ := s.reserve_metrics raced job length
      · rw [metrics]
        rfl
      · rw [metrics]
        rfl
  | configured raced native answer unlocked =>
      refine .inl (failing.before at_pc rfl ?_)
      rw [Pool.configure_metrics]
  | _ => exact .inl (failing.before at_pc rfl rfl)

theorem Pc.Entry.silent (entry : pc.Entry) : pc ≠ .stopWake ∧ pc.waking = false := by
  cases entry <;> simp [Pc.waking]

theorem outside_announced (stepped : Stepped s a t) (other : ∀ i env, a ≠ .run i env) :
    (t.Ended → s.Ended) ∧ (t.Failing → s.Failing) ∧ t.recoveryWake = s.recoveryWake := by
  cases stepped with
  | called call =>
      refine ⟨fun ended => ⟨ended.inactive, fun pc member => ?_⟩,
        fun failing => ⟨failing.reached, fun pc member => ?_⟩, rfl⟩
      · exact ended.announced pc (List.mem_append_left _ member)
      · exact failing.announced pc (List.mem_append_left _ member)
  | @ran i env => exact absurd rfl (other i env)
  | flagged call =>
      refine ⟨fun ended => ⟨?_, ended.announced⟩,
        fun failing => ⟨failing.reached, failing.announced⟩, rfl⟩
      have inactive := ended.inactive
      cases call <;> exact inactive
  | consumed consumed =>
      rw [consumed.keeps]
      exact ⟨fun ended => ⟨ended.inactive, ended.announced⟩,
        fun failing => ⟨failing.reached, failing.announced⟩, rfl⟩
  | _ =>
      exact ⟨fun ended => ⟨ended.inactive, ended.announced⟩,
        fun failing => ⟨failing.reached, failing.announced⟩, rfl⟩

private theorem step_ended (taken : s.step a = some t) (ended : t.Ended) :
    s.Ended ∨ s.recoveryWake < t.recoveryWake := by
  cases a with
  | run i env =>
      obtain ⟨pc, u, after, at_pc, made, rfl⟩ := step_call taken
      have announced := ended_access at_pc made ended
      exact announced
  | _ => exact .inl ((outside_announced (step_stepped taken) (by simp)).1 ended)

private theorem step_failing (taken : s.step a = some t) (failing : t.Failing) :
    s.Failing ∨ s.recoveryWake < t.recoveryWake := by
  cases a with
  | run i env =>
      obtain ⟨pc, u, after, at_pc, made, rfl⟩ := step_call taken
      have announced := failing_access at_pc made failing
      exact announced
  | _ => exact .inl ((outside_announced (step_stepped taken) (by simp)).2.1 failing)

private theorem step_wake (taken : s.step a = some t) : s.recoveryWake ≤ t.recoveryWake := by
  cases a with
  | run i env =>
      obtain ⟨pc, u, after, at_pc, made, rfl⟩ := step_call taken
      cases FrameHub.callStep_access made with
      | woken => exact Nat.le_succ _
      | stopWake => exact Nat.le_succ _
      | reserved raced unlocked current =>
          rw [FrameHub.reserve_keeps]
      | _ => exact Nat.le_refl _
  | _ =>
      have same := (outside_announced (step_stepped taken) (by simp)).2.2
      exact Nat.le_of_eq same.symm

/-! ### The waiters -/

inductive AwaitedHub.Moves (c : AwaitedHub) : AwaitedHub → Prop
  | hub {a hub} (taken : c.hub.step a = some hub) : Moves c { c with hub := hub }
  | observed {id} (stallTimeout : Nat) : Moves c (c.observe id stallTimeout)
  | went {id} {phase : WaitPhase} (subscribed : (c.waiters id).phase.subscribed = true)
      (active : phase.pastState = true →
        (c.waiters id).phase.pastState = true ∨ c.hub.state.active = true)
      (short : phase.pastPool = true → (c.waiters id).phase.pastPool = true ∨
        c.hub.pool.metrics.consecutiveConversionErrors < frameErrorRecoveryThreshold) :
      Moves c (c.setPhase id phase)

namespace AwaitedHub

variable {c d : AwaitedHub} {id other : Nat} {action : WaiterAction} {seen : Nat}

private theorem look_moves (taken : c.look id = some d) : c.Moves d := by
  unfold look at taken
  split at taken
  · next here =>
      split at taken
      · obtain rfl := Option.some.inj taken
        exact .went (by rw [here]; rfl) (by simp [WaitPhase.pastState]) (by simp [WaitPhase.pastPool])
      · next active =>
          obtain rfl := Option.some.inj taken
          exact .went (by rw [here]; rfl) (fun _ => .inr (by simpa using active))
            (by simp [WaitPhase.pastPool])
  · next here =>
      split at taken
      · cases taken
      · split at taken
        · obtain rfl := Option.some.inj taken
          exact .went (by rw [here]; rfl) (by simp [WaitPhase.pastState])
            (by simp [WaitPhase.pastPool])
        · next short =>
            split at taken
            · obtain rfl := Option.some.inj taken
              exact .went (by rw [here]; rfl) (by simp [WaitPhase.pastState])
                (by simp [WaitPhase.pastPool])
            · obtain rfl := Option.some.inj taken
              exact .went (by rw [here]; rfl) (fun _ => .inl (by rw [here]; rfl))
                (fun _ => .inr (Nat.lt_of_not_le short))
  · next here =>
      split at taken
      · cases taken
      · obtain rfl := Option.some.inj taken
        exact .went (by rw [here]; rfl) (fun _ => .inl (by rw [here]; rfl))
          (fun _ => .inl (by rw [here]; rfl))
  · cases taken

theorem step_moves (taken : c.step action = some d) : c.Moves d := by
  cases action with
  | hub a =>
      obtain ⟨hub, made, rfl⟩ := Option.map_eq_some_iff.mp taken
      exact .hub made
  | wait id stallTimeout =>
      simp only [step] at taken
      split at taken
      · cases taken
      · obtain rfl := Option.some.inj taken
        exact .observed stallTimeout
  | look id => exact look_moves taken
  | wake id =>
      simp only [step] at taken
      split at taken
      · split at taken
        · cases taken
        · obtain rfl := Option.some.inj taken
          exact .observed _
      · cases taken
  | elapse id =>
      simp only [step] at taken
      split at taken
      · next deadline here =>
          split at taken
          · obtain rfl := Option.some.inj taken
            exact .went (by rw [here]; rfl) (by simp [WaitPhase.pastState])
              (by simp [WaitPhase.pastPool])
          · cases taken
      · cases taken
  | abandon id =>
      simp only [step] at taken
      split at taken
      · next deadline here =>
          obtain rfl := Option.some.inj taken
          exact .went (by rw [here]; rfl) (by simp [WaitPhase.pastState])
            (by simp [WaitPhase.pastPool])
      · cases taken

/-- A subscribed waiter has something to do if what it has looked at has changed. -/
def watch : Lib.Watch AwaitedHub Nat where
  version c := c.hub.recoveryWake
  ready c id := (c.waiters id).phase.pastState = true ∧ c.hub.Ended ∨
    (c.waiters id).phase.pastPool = true ∧ c.hub.Failing
  parked c id := if (c.waiters id).phase.subscribed then some (c.waiters id).seen else none

theorem parked_some : watch.parked c id = some seen ↔
    (c.waiters id).phase.subscribed = true ∧ (c.waiters id).seen = seen := by
  simp only [watch]
  split
  · next here => simp [here]
  · next here => simp [here]

theorem setPhase_other {phase : WaitPhase} (different : other ≠ id) :
    (c.setPhase id phase).waiters other = c.waiters other :=
  Function.update_of_ne different _ _

theorem setPhase_self {phase : WaitPhase} :
    (c.setPhase id phase).waiters id = { c.waiters id with phase := phase } :=
  Function.update_self ..

theorem observe_other {stallTimeout : Nat} (different : other ≠ id) :
    (c.observe id stallTimeout).waiters other = c.waiters other :=
  Function.update_of_ne different _ _

theorem observe_self {stallTimeout : Nat} :
    (c.observe id stallTimeout).waiters id = ⟨c.hub.recoveryWake, .lookState, stallTimeout⟩ :=
  Function.update_self ..

namespace Moves

theorem parks (moves : c.Moves d) (parked : watch.parked d id = some seen) :
    watch.parked c id = some seen ∨ seen = watch.version d ∧ ¬watch.ready d id := by
  rw [parked_some] at parked ⊢
  cases moves with
  | hub taken => exact .inl parked
  | @observed moved stallTimeout =>
      by_cases same : id = moved
      · subst same
        rw [observe_self] at parked
        refine .inr ⟨parked.2.symm, ?_⟩
        simp [watch, observe_self, WaitPhase.pastState, WaitPhase.pastPool]
      · rw [observe_other same] at parked
        exact .inl parked
  | @went moved phase subscribed active short =>
      by_cases same : id = moved
      · subst same
        rw [setPhase_self] at parked
        exact .inl ⟨subscribed, parked.2⟩
      · rw [setPhase_other same] at parked
        exact .inl parked

theorem announces (moves : c.Moves d) (idle : ¬watch.ready c id) (ready : watch.ready d id) :
    watch.version c < watch.version d := by
  cases moves with
  | hub taken =>
      obtain ⟨past, ended⟩ | ⟨past, failing⟩ := ready
      · exact (step_ended taken ended).resolve_left fun before => idle (.inl ⟨past, before⟩)
      · exact (step_failing taken failing).resolve_left fun before => idle (.inr ⟨past, before⟩)
  | @observed moved stallTimeout =>
      by_cases same : id = moved
      · subst same
        simp [watch, observe_self, WaitPhase.pastState, WaitPhase.pastPool] at ready
      · simp only [watch, observe_other same] at ready
        exact absurd ready idle
  | @went moved phase subscribed active short =>
      by_cases same : id = moved
      · subst same
        simp only [watch, setPhase_self] at ready
        obtain ⟨past, ended⟩ | ⟨past, failing⟩ := ready
        · obtain before | running := active past
          · exact absurd (.inl ⟨before, ended⟩) idle
          · exact absurd (ended.inactive.symm.trans running) (by decide)
        · obtain before | few := short past
          · exact absurd (.inr ⟨before, failing⟩) idle
          · exact absurd failing.reached (Nat.not_le_of_lt few)
      · simp only [watch, setPhase_other same] at ready
        exact absurd ready idle

theorem grows (moves : c.Moves d) : watch.version c ≤ watch.version d := by
  cases moves with
  | hub taken => exact step_wake taken
  | _ => exact Nat.le_refl _

end Moves

private theorem watch_disciplined : watch.Disciplined awaiting Lib.Machine.anything where
  unparked c id initial := by
    simp only [watch]
    rw [initial.2 id]
    rfl
  grows _ _ _ taken := (step_moves taken).grows
  parks _ _ _ _ _ _ taken parked := (step_moves taken).parks parked
  announces _ _ _ _ _ _ taken _ idle ready := (step_moves taken).announces idle ready

end AwaitedHub

/-- A suspended waiter has not seen the current wake, whenever the source is stopped or has
failed too often and no call of the hub is in the middle of telling so. -/
theorem trigger_not_missed {c : AwaitedHub} {id deadline timeout : Nat}
    (reached : awaiting.Reachable Lib.Machine.anything c)
    (suspended : (c.waiters id).phase = .suspended deadline)
    (quiet : ∀ pc ∈ c.hub.ops, pc.announcing = false)
    (due : c.hub.recoveryTrigger timeout = some .sourceStopped ∨
      ∃ k, c.hub.recoveryTrigger timeout = some (.frameErrors k)) :
    (c.waiters id).seen < c.hub.recoveryWake := by
  have parked : AwaitedHub.watch.parked c id = some (c.waiters id).seen :=
    AwaitedHub.parked_some.mpr ⟨by rw [suspended]; rfl, rfl⟩
  have silent : ∀ pc ∈ c.hub.ops, pc ≠ .stopWake ∧ pc.waking = false := by
    intro pc member
    have done := quiet pc member
    constructor
    · rintro rfl
      cases done
    · cases pc <;> first | rfl | cases done
  apply AwaitedHub.watch_disciplined.wakes reached parked
  cases active : c.hub.state.active with
  | false =>
      refine .inl ⟨by rw [suspended]; rfl, active, fun pc member => (silent pc member).1⟩
  | true =>
      refine .inr ⟨by rw [suspended]; rfl, ?_, fun pc member => (silent pc member).2⟩
      obtain stopped | ⟨k, errors⟩ := due
      · unfold FrameHub.recoveryTrigger at stopped
        rw [active, if_neg (by decide)] at stopped
        split at stopped
        · cases stopped
        · split at stopped <;> cases stopped
      · obtain ⟨rfl, reached⟩ := (trigger_errors active).mp errors
        exact reached

def stoppingSuspended : List WaiterAction :=
  [WaiterAction.hub (.call .start)] ++ List.replicate 4 (WaiterAction.hub (.run 0 {})) ++
  [WaiterAction.wait 0 5, .look 0, .look 0, .look 0, .hub (.call .stop)] ++
  List.replicate 4 (WaiterAction.hub (.run 1 {}))

private theorem awaiting_new : awaiting.initial { hub := FrameHub.new 6 } :=
  ⟨machine_new 6, fun _ => rfl⟩

theorem trigger_not_missed_stopped :
    ∃ c deadline, awaiting.Reachable Lib.Machine.anything c ∧
      (c.waiters 0).phase = .suspended deadline ∧
      (∀ pc ∈ c.hub.ops, pc.announcing = false) ∧
      c.hub.recoveryTrigger 5 = some .sourceStopped ∧
      (c.waiters 0).seen < c.hub.recoveryWake := by
  have passed : ((awaiting.exec (fun _ _ => true) { hub := FrameHub.new 6 }
      stoppingSuspended).any fun c => decide ((c.waiters 0).phase = .suspended 5) &&
        (c.hub.ops.all fun pc => !pc.announcing) &&
        decide (c.hub.recoveryTrigger 5 = some .sourceStopped)) = true := by
    decide +kernel
  obtain ⟨c, reached, passed⟩ := Lib.Machine.Reachable.of_exec awaiting_new passed
  obtain ⟨passed, stopped⟩ := Bool.and_eq_true_iff.mp passed
  obtain ⟨suspended, quiet⟩ := Bool.and_eq_true_iff.mp passed
  have anyhow := reached.mono fun _ _ _ => (trivial : Lib.Machine.anything _ _)
  have here := of_decide_eq_true suspended
  have done : ∀ pc ∈ c.hub.ops, pc.announcing = false := by simpa using quiet
  have trigger := of_decide_eq_true stopped
  exact ⟨c, 5, anyhow, here, done, trigger, trigger_not_missed anyhow here done (.inl trigger)⟩

end CameraRs.Frame

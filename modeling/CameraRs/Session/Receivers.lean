/-
Receivers of a session whose source disconnects, stalls and is restarted.

The lifecycle of a device and the traffic of its frame hub run side by side. Epoch and
flags of the snapshot and the stop flags the receivers look at are those that the
lifecycle has set; frames, queues and receivers belong to the hub.
-/

import CameraRs.Session.Successor
import CameraRs.Frame.Epoch

namespace CameraRs.Frame

def Pc.switches : Pc → Bool
  | .startReset | .startClear _ | .startRead _ | .startReplace _ _ _
  | .stopMark | .stopClear | .stopDeactivate | .stopWake => true
  | _ => false

/-- The calls that `SessionInner` and its source make, and the setters of the flags. -/
def Action.switches : Action → Bool
  | .call .start | .call .stop | .flag _ | .raise _ => true
  | _ => false

theorem exhausted_switches (job : Job) : job.exhausted.switches = false := by
  obtain ⟨answer, same⟩ := exhausted_answers job
  rw [same]
  rfl

theorem recorded_switches (failed : Option (Lease × CameraError)) :
    (FrameHub.recorded failed).switches = false := by
  cases failed <;> rfl

namespace FrameHub

structure SameFlags (s t : FrameHub) : Prop where
  session : t.state.session = s.state.session
  active : t.state.active = s.state.active
  recovering : t.state.recovering = s.state.recovering
  reconnectEnabled : t.state.reconnectEnabled = s.state.reconnectEnabled
  raised : t.raised = s.raised

theorem SameFlags.refl (s : FrameHub) : s.SameFlags s := ⟨rfl, rfl, rfl, rfl, rfl⟩

end FrameHub

open FrameHub

variable {s t : FrameHub} {pc after : Pc} {a : Action}

/-- An access outside `start` and `stop` leaves the flags alone, and its call stays
outside. -/
private theorem Access.sameFlags (access : Access s pc t after) (outside : pc.switches = false) :
    s.SameFlags t ∧ after.switches = false := by
  cases access with
  | @lookRefused job stale => exact ⟨.refl s, exhausted_switches job⟩
  | @poolRefused job length stale => exact ⟨.refl s, exhausted_switches job⟩
  | @reserved job length raced unlocked current =>
      constructor
      · rw [reserve_keeps]
        exact ⟨rfl, rfl, rfl, rfl, rfl⟩
      · unfold FrameHub.reserve
        split
        · rfl
        · exact exhausted_switches job
  | @recordRefused session activity failed => exact ⟨.refl s, recorded_switches failed⟩
  | @woken failed => exact ⟨⟨rfl, rfl, rfl, rfl, rfl⟩, recorded_switches failed⟩
  | @charged session activity failed after unlocked goes =>
      refine ⟨⟨rfl, rfl, rfl, rfl, rfl⟩, ?_⟩
      rcases goes with rfl | rfl
      · rfl
      · exact recorded_switches failed
  | budgetRead goes =>
      refine ⟨.refl s, ?_⟩
      rcases goes with rfl | ⟨error, rfl⟩ <;> rfl
  | startReset => contradiction
  | startClear => contradiction
  | startRead => contradiction
  | startReplace => contradiction
  | stopMark => contradiction
  | stopClear => contradiction
  | stopDeactivate => contradiction
  | stopWake => contradiction
  | _ => exact ⟨⟨rfl, rfl, rfl, rfl, rfl⟩, rfl⟩

theorem Call.entry_switches (now : Nat) {call : Call} (other : call ≠ .start ∧ call ≠ .stop) :
    (call.entry now).switches = false := by
  have started : ∀ (job : Job) checked, (job.start checked).switches = false := by
    intro job checked
    cases checked <;> rfl
  cases call with
  | publishNativeInto session layout timestamp => exact started _ _
  | publishNative session layout timestamp sequence parts => exact started _ _
  | writableNative session layout => exact started _ _
  | start => exact absurd rfl other.1
  | stop => exact absurd rfl other.2
  | _ => rfl

theorem step_sameFlags (calls : ∀ pc ∈ s.ops, pc.switches = false) (outside : a.switches = false)
    (taken : s.step a = some t) :
    s.SameFlags t ∧ ∀ pc ∈ t.ops, pc.switches = false := by
  cases step_stepped taken with
  | called call =>
      refine ⟨⟨rfl, rfl, rfl, rfl, rfl⟩, fun pc member => ?_⟩
      rcases List.mem_append.mp member with old | new
      · exact calls pc old
      · rw [List.mem_singleton.mp new]
        refine Call.entry_switches s.clock ⟨?_, ?_⟩ <;>
          (rintro rfl; simp [Action.switches] at outside)
  | @ran i env pc after u at_pc access =>
      obtain ⟨same, stays⟩ := access.sameFlags (calls pc (List.mem_of_getElem? at_pc))
      refine ⟨⟨same.session, same.active, same.recovering, same.reconnectEnabled,
        same.raised⟩, fun other member => ?_⟩
      rcases List.mem_or_eq_of_mem_set member with old | rfl
      · exact calls other old
      · exact stays
  | flagged call => contradiction
  | raised flag => contradiction
  | consumed consumed =>
      rw [consumed.keeps]
      exact ⟨⟨rfl, rfl, rfl, rfl, rfl⟩, calls⟩
  | _ => exact ⟨⟨rfl, rfl, rfl, rfl, rfl⟩, calls⟩

namespace FrameHub

variable {id : ReceiverId} {r : Receiver}

private theorem next_refused {error : CameraError} (refused : (s.next id r).1 = .error error) :
    r.owner.any s.raised.contains = true ∨ s.state.reconnectEnabled = false := by
  unfold next at refused
  split at refused
  · next why =>
      rcases why with stopped | ⟨_, _, disabled⟩
      · exact .inl stopped
      · exact .inr disabled
  · contradiction

private theorem next_stopped (stopped : r.owner.any s.raised.contains = true) :
    (s.next id r).1 = .error .streamStopped := by
  unfold next
  rw [if_pos (.inl stopped)]

end FrameHub

end CameraRs.Frame

namespace CameraRs.Session

/-! ### Recovery is disabled for sessions that stop -/

def Device.enables (d : Device) : Action → List SessionId
  | .run i env =>
      match d.access i env with
      | some (s, .enableRecovery) => [s]
      | _ => []
  | _ => []

def Pc.halting : Pc → Bool
  | .requestStop _ .swapStopping => false
  | .requestStop _ _ => true
  | _ => false

section

attribute [local simp] Pc.halting Pc.armed Pc.guarded Pc.holdsLock

variable {native : Bool} {hub : HubView} {inner : SessionInner} {env : Env} {pc after : Pc}
  {effect : Effect}

theorem next_halting (taken : next native hub inner env pc = some (after, effect)) :
    (after.halting = true → effect = .storeStopping ∨ pc.halting = true) ∧
      (effect = .disableRecovery → pc.halting = true ∨ pc.armed = true) := by
  cases pc with
  | start pc =>
      cases pc <;> simp only [next, startNext] at taken <;> (repeat' split at taken) <;>
        first | contradiction | (obtain ⟨rfl, rfl⟩ := taken; simp)
  | startTask pc =>
      rcases pc with _ | ⟨_ | _⟩ <;> simp only [next, startTaskNext] at taken <;>
        (repeat' split at taken) <;>
        first | contradiction | (obtain ⟨rfl, rfl⟩ := taken; simp)
  | dropSession =>
      simp only [next] at taken
      split at taken <;> (obtain ⟨rfl, rfl⟩ := taken; simp)
  | requestStop thenStop pc =>
      cases pc <;> simp only [next, requestStopNext] at taken <;> (repeat' split at taken) <;>
        (obtain ⟨rfl, rfl⟩ := taken; simp)
  | stop pc =>
      cases pc <;> simp only [next, stopNext] at taken <;> (repeat' split at taken) <;>
        first | contradiction | (obtain ⟨rfl, rfl⟩ := taken; simp)
  | recovery vars pc =>
      cases pc <;> simp only [next, recoveryNext] at taken <;> (repeat' split at taken) <;>
        first | contradiction | (obtain ⟨rfl, rfl⟩ := taken; simp)
  | finished => contradiction

end

def halting : Assertion where
  session _ := True
  task _ inner pc := pc.halting = true → inner.stopping = true

private theorem halting_stable : Assertion.Stable .free .top halting where
  fresh _ := trivial
  starting _ _ _ := nofun
  closeCall _ _ _ _ _ := nofun
  dropCall _ _ _ _ _ := nofun
  dropped _ _ := trivial
  droppedTask _ _ _ stopping := stopping
  session _ _ _ _ _ _ := trivial
  task {i new _ hub inner _ _ _ effect} _ _ _ stopping _ taken := by
    intro later
    rcases (next_halting taken).1 later with rfl | before
    · rfl
    · exact Effect.stopping_stays effect (stopping before)
  spawned _ _ _ _ taken := by
    rcases Pc.entry_cases ((next_edge taken).spawning _ rfl) with
      rfl | ⟨_, rfl⟩ | ⟨_, rfl⟩ | rfl <;>
      exact nofun
  other {_ _ _ _ _ _ _ _ _ effect _} _ _ _ _ _ _ _ _ stopping _ := by
    intro halting
    exact Effect.stopping_stays effect (stopping halting)

private theorem halting_holds {d : Device} (reached : machine.Reachable Discipline.free.admits d) :
    halting.Holds d :=
  halting_stable.reachable (fun _ _ => Assertion.Holds.top) reached

namespace Device

variable {d d' : Device} {a : Action} {i : TaskId} {env : Env} {s : SessionId}
  {effect : Effect}

theorem access_on (access : d.access i env = some (s, effect)) :
    ∃ pc after, d.tasks i = .on s pc ∧
      next d.native d.hub (d.sessions s) env pc = some (after, effect) := by
  simp only [Device.access] at access
  split at access
  · next r pc at_pc =>
      obtain ⟨⟨after, made⟩, taken, same⟩ := Option.map_eq_some_iff.mp access
      injection same with sameSession sameEffect
      subst sameSession sameEffect
      exact ⟨pc, after, at_pc, taken⟩
  · contradiction

private theorem disables_stopping (reached : machine.Reachable Discipline.free.admits d)
    (access : d.access i env = some (s, .disableRecovery)) :
    (d.sessions s).stopping = true := by
  obtain ⟨pc, after, at_pc, taken⟩ := access_on access
  rcases (next_halting taken).2 rfl with halting | armed
  · exact (halting_holds reached).task i s pc at_pc halting
  · exact ((locks_hold reached).task i s pc at_pc).stopping armed

theorem stopping_step (taken : d.step a = some d') (inRange : s < d.created)
    (stopping : (d.sessions s).stopping = true) : (d'.sessions s).stopping = true := by
  rcases step_inner taken inRange with same | same | ⟨_, _, _, _, effect, _, _, _, same⟩
  · rw [same]
    exact stopping
  · rw [same]
    exact stopping
  · rw [same]
    exact effect.stopping_stays stopping

theorem Numbered.stopping (numbered : d.Numbered) (stopping : (d.sessions s).stopping = true) :
    s < d.created := by
  by_contra outside
  rw [numbered.ahead s (Nat.le_of_not_lt outside)] at stopping
  contradiction

end Device

namespace Device

variable {d d' : Device} {a : Action}

private theorem recovery_stepDevice {i : TaskId} {env : Env} (pc : DevicePc) :
    d.created ≤ (d.stepDevice i env pc).created ∧
      (d.stepDevice i env pc).hub.reconnectEnabled = d.hub.reconnectEnabled := by
  cases pc with
  | swapBusy candidates policy =>
      simp only [stepDevice]
      split <;> exact ⟨Nat.le_refl _, rfl⟩
  | configure candidates policy =>
      simp only [stepDevice]
      split
      · exact ⟨Nat.le_succ _, rfl⟩
      · exact ⟨Nat.le_refl _, rfl⟩
  | closeLoadBusy =>
      simp only [stepDevice]
      split <;> exact ⟨Nat.le_refl _, rfl⟩
  | closeRelease =>
      cases reaches : env.reaches <;>
        exact ⟨Nat.le_refl _, by simp [stepDevice, reaches, Effect.onHub, setTask, setHub]⟩
  | _ => exact ⟨Nat.le_refl _, rfl⟩

private theorem step_recovery (taken : d.step a = some d') :
    d.created ≤ d'.created ∧
    ((∀ i env, a = .run i env → d.access i env = none) ∧
        d'.hub.reconnectEnabled = d.hub.reconnectEnabled ∨
      ∃ i env s effect, a = .run i env ∧ d.access i env = some (s, effect) ∧
        d'.hub = effect.onHub d.hub) := by
  cases a with
  | start candidates policy =>
      simp only [step] at taken
      split at taken
      · cases taken
        exact ⟨Nat.le_refl _, .inl ⟨by simp, rfl⟩⟩
      · contradiction
  | closeCamera =>
      simp only [step] at taken
      split at taken
      · cases taken
        exact ⟨Nat.le_refl _, .inl ⟨by simp, rfl⟩⟩
      · contradiction
  | close s =>
      simp only [step] at taken
      split at taken
      · cases taken
        exact ⟨Nat.le_refl _, .inl ⟨by simp, rfl⟩⟩
      · contradiction
  | drop s =>
      simp only [step] at taken
      split at taken
      · cases taken
        exact ⟨Nat.le_refl _, .inl ⟨by simp, rfl⟩⟩
      · contradiction
  | backendStop =>
      cases taken
      exact ⟨Nat.le_refl _, .inl ⟨by simp, rfl⟩⟩
  | traffic metrics stats =>
      cases taken
      exact ⟨Nat.le_refl _, .inl ⟨by simp, rfl⟩⟩
  | run i env =>
      cases at_pc : d.tasks i with
      | absent => simp [step, at_pc] at taken
      | done => simp [step, at_pc] at taken
      | device pc =>
          simp only [step, at_pc, Option.some.injEq] at taken
          subst taken
          obtain ⟨created, kept⟩ := @recovery_stepDevice d i env pc
          refine ⟨created, .inl ⟨?_, kept⟩⟩
          intro j env same
          injection same with sameTask
          subst sameTask
          simp [access, at_pc]
      | on s pc =>
          obtain ⟨after, effect, made, rfl⟩ := step_on at_pc taken
          refine ⟨Nat.le_of_eq (apply_created d i s effect).symm, .inr ?_⟩
          exact ⟨i, env, s, effect, rfl, by simp [access, at_pc, made], apply_hub d i s effect⟩

theorem mem_enables {s : SessionId} (enabled : s ∈ d.enables a) :
    ∃ i env, a = .run i env ∧ d.access i env = some (s, .enableRecovery) := by
  unfold enables at enabled
  split at enabled
  · next i env =>
      split at enabled
      · next r access =>
          rw [List.mem_singleton.mp enabled]
          exact ⟨i, env, rfl, access⟩
      · contradiction
  · contradiction

end Device

private theorem Effect.reconnect_onHub (effect : Effect) (hub : HubView) :
    (effect.onHub hub).reconnectEnabled = hub.reconnectEnabled ∨ effect = .disableRecovery ∨
      (effect.onHub hub).reconnectEnabled = true := by
  cases effect with
  | disableRecovery => exact .inr (.inl rfl)
  | enableRecovery => exact .inr (.inr rfl)
  | sourceStart reaches => cases reaches <;> exact .inl rfl
  | sourceStop reaches => cases reaches <;> exact .inl rfl
  | reopen reaches => cases reaches <;> exact .inl rfl
  | _ => exact .inl rfl

/-! ### The lifecycle and the hub side by side -/

/-- `reconnecting` records for which sessions `enable_recovery` has been called: the
code never reads it. -/
structure Receiving where
  device : Device := {}
  frames : Frame.FrameHub
  reconnecting : List SessionId := []

inductive ReceivingAction
  | lifecycle (a : Action)
  | traffic (a : Frame.Action)
  | clearQueues

/-- The hub with the epoch and the flags of the lifecycle. A new epoch and a stop
take `latest` away. -/
def Device.mirror (d : Device) (frames : Frame.FrameHub) : Frame.FrameHub :=
  { frames with
    state :=
      { session := d.hub.session
        active := d.hub.active
        recovering := d.hub.recovering
        reconnectEnabled := d.hub.reconnectEnabled
        latest :=
          if d.hub.active = true ∧ d.hub.session = frames.state.session then frames.state.latest
          else none }
    raised := (List.range d.created).filter fun s => (d.sessions s).stopping }

namespace Receiving

/-- What goes on at the hub beside the lifecycle; `CaptureSession::subscribe` needs the
session handle for `with_stop_flag`. -/
def permits (v : Receiving) : Frame.Action → Bool
  | .call (.withStopFlag _ s) => (v.device.sessions s).handle
  | a => !a.switches

/-- `clear_queues` of a `start` or `stop` comes before the change of the snapshot, and
publishes may come in between: it is an action of its own. -/
def step (v : Receiving) : ReceivingAction → Option Receiving
  | .lifecycle a =>
      (v.device.step a).map fun d =>
        { device := d
          frames := d.mirror v.frames
          reconnecting := v.reconnecting ++ v.device.enables a }
  | .traffic a =>
      if v.permits a then (v.frames.step a).map fun frames => { v with frames := frames } else none
  | .clearQueues => some { v with frames := v.frames.clearQueues }

def sparesReconnecting (v : Receiving) : ReceivingAction → Bool
  | .lifecycle (.run i env) =>
      match v.device.access i env with
      | some (r, .disableRecovery) =>
          v.reconnecting.all fun s => s == r || (v.device.sessions s).stopping
      | _ => true
  | _ => true

def spared (v : Receiving) (a : ReceivingAction) : Prop := v.sparesReconnecting a = true

end Receiving

/-- A new device with a new hub. -/
def receivingMachine : Lib.Machine Receiving ReceivingAction where
  initial v := ∃ native capacity,
    v = { device := { native := native }, frames := Frame.FrameHub.new capacity }
  step := Receiving.step

theorem receivingMachine_new (capacity : Nat) :
    receivingMachine.initial { frames := Frame.FrameHub.new capacity } :=
  ⟨true, capacity, rfl⟩

namespace Receiving

/-- What receivers see is what the lifecycle has set. -/
structure Mirrored (v : Receiving) : Prop where
  session : v.frames.state.session = v.device.hub.session
  active : v.frames.state.active = v.device.hub.active
  recovering : v.frames.state.recovering = v.device.hub.recovering
  reconnectEnabled : v.frames.state.reconnectEnabled = v.device.hub.reconnectEnabled
  raised : v.frames.raised =
    (List.range v.device.created).filter fun s => (v.device.sessions s).stopping
  calls : ∀ pc ∈ v.frames.ops, pc.switches = false

theorem Mirrored.step {v v' : Receiving} {a : ReceivingAction} (mirrored : v.Mirrored)
    (taken : v.step a = some v') : v'.Mirrored := by
  cases a with
  | lifecycle a =>
      obtain ⟨d, made, rfl⟩ := Option.map_eq_some_iff.mp taken
      exact ⟨rfl, rfl, rfl, rfl, rfl, mirrored.calls⟩
  | traffic a =>
      simp only [Receiving.step] at taken
      split at taken
      · next permitted =>
          obtain ⟨frames, made, rfl⟩ := Option.map_eq_some_iff.mp taken
          have outside : a.switches = false := by
            unfold permits at permitted
            split at permitted
            · rfl
            · simpa using permitted
          obtain ⟨same, calls⟩ := Frame.step_sameFlags mirrored.calls outside made
          exact ⟨same.session.trans mirrored.session, same.active.trans mirrored.active,
            same.recovering.trans mirrored.recovering,
            same.reconnectEnabled.trans mirrored.reconnectEnabled,
            same.raised.trans mirrored.raised, calls⟩
      · contradiction
  | clearQueues =>
      cases taken
      exact ⟨mirrored.session, mirrored.active, mirrored.recovering,
        mirrored.reconnectEnabled, mirrored.raised, mirrored.calls⟩

variable {v v' : Receiving} {admits : Receiving → ReceivingAction → Prop}

theorem lifecycle_reachable (reached : receivingMachine.Reachable admits v) :
    machine.Reachable Discipline.free.admits v.device := by
  refine reached.invariant (P := fun v => machine.Reachable Discipline.free.admits v.device)
    ?_ ?_
  · rintro v ⟨native, capacity, rfl⟩
    exact Lib.Machine.Reachable.of_initial ⟨native, rfl⟩
  · intro v a v' _ taken before
    cases a with
    | lifecycle a =>
        obtain ⟨d, made, rfl⟩ := Option.map_eq_some_iff.mp taken
        exact before.extend (.single (Discipline.free_admits v.device a) made)
    | traffic a =>
        have taken : v.step (.traffic a) = some v' := taken
        simp only [Receiving.step] at taken
        split at taken
        · obtain ⟨frames, made, rfl⟩ := Option.map_eq_some_iff.mp taken
          exact before
        · contradiction
    | clearQueues =>
        cases taken
        exact before

/-- Recovery stays enabled for a session until the session is stopping. -/
structure Enabled (v : Receiving) : Prop where
  known : ∀ s ∈ v.reconnecting, s < v.device.created
  enabled : ∀ s ∈ v.reconnecting, (v.device.sessions s).stopping = false →
    v.device.hub.reconnectEnabled = true

theorem Enabled.lifecycle (reached : machine.Reachable Discipline.free.admits v.device)
    (holds : v.Enabled) {a : Action} {d : Device} (spared : v.spared (.lifecycle a))
    (taken : v.device.step a = some d) :
    Enabled ⟨d, d.mirror v.frames, v.reconnecting ++ v.device.enables a⟩ := by
  have numbered := Device.Numbered.reachable reached
  obtain ⟨created, how⟩ := Device.step_recovery taken
  constructor
  · intro s member
    rcases List.mem_append.mp member with old | new
    · exact Nat.lt_of_lt_of_le (holds.known s old) created
    · obtain ⟨i, env, rfl, access⟩ := Device.mem_enables new
      obtain ⟨pc, after, at_pc, made⟩ := Device.access_on access
      exact Nat.lt_of_lt_of_le (numbered.known i s pc at_pc) created
  · intro s member running
    change d.hub.reconnectEnabled = true
    rcases List.mem_append.mp member with old | new
    · have before : (v.device.sessions s).stopping = false := by
        by_contra stopping
        rw [Device.stopping_step taken (holds.known s old)
          (Bool.eq_true_of_not_eq_false stopping)] at running
        contradiction
      have enabled := holds.enabled s old before
      rcases how with ⟨_, kept⟩ | ⟨i, env, r, effect, rfl, access, hub⟩
      · rw [kept]
        exact enabled
      · rw [hub]
        rcases effect.reconnect_onHub v.device.hub with kept | rfl | on
        · rw [kept]
          exact enabled
        · -- only for `s` itself may recovery be disabled, and then `s` is stopping
          have mine : s = r ∨ (v.device.sessions s).stopping = true := by
            simp only [Receiving.spared, sparesReconnecting, access, List.all_eq_true,
              Bool.or_eq_true, beq_iff_eq] at spared
            exact spared s old
          rcases mine with rfl | stopping
          · rw [Device.disables_stopping reached access] at before
            contradiction
          · rw [stopping] at before
            contradiction
        · exact on
    · obtain ⟨i, env, rfl, access⟩ := Device.mem_enables new
      rcases how with ⟨none, _⟩ | ⟨j, later, r, effect, same, accessed, hub⟩
      · rw [none i env rfl] at access
        contradiction
      · injection same with sameTask sameEnv
        subst sameTask sameEnv
        rw [access] at accessed
        injection accessed with same
        injection same with _ same
        subst same
        rw [hub]
        rfl

theorem enabled_holds (reached : receivingMachine.Reachable Receiving.spared v) : v.Enabled := by
  refine Lib.Machine.Reachable.invariant_under (Q := Enabled)
    (fun v reached => lifecycle_reachable reached) ?_ ?_ reached
  · rintro v ⟨native, capacity, rfl⟩
    exact ⟨by simp, by simp⟩
  · intro v a v' spared before _ taken holds
    cases a with
    | lifecycle a =>
        obtain ⟨d, made, rfl⟩ := Option.map_eq_some_iff.mp taken
        exact holds.lifecycle before spared made
    | traffic a =>
        have taken : v.step (.traffic a) = some v' := taken
        simp only [Receiving.step] at taken
        split at taken
        · obtain ⟨frames, made, rfl⟩ := Option.map_eq_some_iff.mp taken
          exact ⟨holds.known, holds.enabled⟩
        · contradiction
    | clearQueues =>
        cases taken
        exact ⟨holds.known, holds.enabled⟩

theorem mirrored_holds (reached : receivingMachine.Reachable admits v) : v.Mirrored := by
  refine reached.invariant (P := Mirrored) ?_ fun v a v' _ taken holds => holds.step taken
  rintro v ⟨native, capacity, rfl⟩
  exact ⟨rfl, rfl, rfl, rfl, rfl, by simp [Frame.FrameHub.new]⟩

def Owns (v : Receiving) (s : SessionId) (id : Frame.ReceiverId) (r : Frame.Receiver) : Prop :=
  v.frames.receivers[id]? = some r ∧ r.owner = some s

/-- `next` gives up only when the session is stopping, hands out frames of the newest
epoch, and after the session is stopping no frame at all. -/
structure Survives (v : Receiving) : Prop where
  kept : ∀ s id r error, s ∈ v.reconnecting → v.Owns s id r →
    (v.frames.next id r).1 = .error error → (v.device.sessions s).stopping = true
  newest : ∀ s id r f, v.Owns s id r → (v.frames.next id r).1 = .ok (some f) →
    f.key.session = v.device.hub.session
  ended : ∀ s, (v.device.sessions s).stopping = true →
    ∀ actions v', receivingMachine.Run Lib.Machine.anything v actions v' →
      ∀ id r, v'.Owns s id r → (v'.frames.next id r).1 = .error .streamStopped

theorem Mirrored.raised_iff (mirrored : v.Mirrored) {s : SessionId} :
    v.frames.raised.contains s = true ↔
      s < v.device.created ∧ (v.device.sessions s).stopping = true := by
  rw [mirrored.raised]
  simp

private theorem stopping_run {s : SessionId} {actions : List ReceivingAction}
    (reached : receivingMachine.Reachable Lib.Machine.anything v)
    (stopping : (v.device.sessions s).stopping = true)
    (run : receivingMachine.Run Lib.Machine.anything v actions v') :
    (v'.device.sessions s).stopping = true := by
  have kept : receivingMachine.Reachable Lib.Machine.anything v' ∧
      (v'.device.sessions s).stopping = true := by
    induction run with
    | nil => exact ⟨reached, stopping⟩
    | @snoc middle finish actions action _ admitted taken ih =>
        obtain ⟨here, stopping⟩ := ih
        refine ⟨here.extend (.single admitted taken), ?_⟩
        cases action with
        | lifecycle a =>
            obtain ⟨d, made, rfl⟩ := Option.map_eq_some_iff.mp taken
            have numbered := Device.Numbered.reachable (lifecycle_reachable here)
            exact Device.stopping_step made (numbered.stopping stopping) stopping
        | traffic a =>
            have taken : middle.step (.traffic a) = some finish := taken
            simp only [Receiving.step] at taken
            split at taken
            · obtain ⟨frames, made, rfl⟩ := Option.map_eq_some_iff.mp taken
              exact stopping
            · contradiction
        | clearQueues =>
            cases taken
            exact stopping
  exact kept.2

/-- In runs in which no session disables recovery for another one that runs, receivers
survive every disconnect, stall, stop, restart and failed attempt. -/
theorem receivers_survive (reached : receivingMachine.Reachable Receiving.spared v) :
    v.Survives := by
  have anyhow := reached.mono fun _ _ _ => (trivial : Lib.Machine.anything _ _)
  have mirrored := mirrored_holds reached
  constructor
  · intro s id r error reconnecting owns refused
    by_contra running
    rcases Frame.FrameHub.next_refused refused with stopped | disabled
    · rw [owns.2, Option.any_some, mirrored.raised_iff] at stopped
      exact running stopped.2
    · rw [mirrored.reconnectEnabled, (enabled_holds reached).enabled s reconnecting
        (Bool.eq_false_of_not_eq_true running)] at disabled
      contradiction
  · intro s id r f _ given
    rw [← mirrored.session]
    exact (Frame.next_given given).2
  · intro s stopping actions v' run id r owns
    have here := anyhow.extend run
    have numbered := Device.Numbered.reachable (lifecycle_reachable here)
    have later := stopping_run anyhow stopping run
    refine Frame.FrameHub.next_stopped ?_
    rw [owns.2, Option.any_some, (mirrored_holds here).raised_iff]
    exact ⟨numbered.stopping later, later⟩

/-- A start with recovery that succeeds: task `i` runs it, task `j` is its start task. -/
def handingOut (i j : TaskId) : List ReceivingAction :=
  ([Action.start 1 (some ⟨none⟩)] ++ List.replicate 4 (Action.run i {}) ++
    List.replicate 11 (Action.run j {}) ++
    List.replicate 6 (Action.run i {}) : List Action).map .lifecycle

def subscribing (s : SessionId) : List ReceivingAction :=
  ([.call (.subscribe {}), .run 0 {}, .run 0 {}, .call (.withStopFlag 0 s), .run 1 {},
    .run 1 {}] : List Frame.Action).map .traffic

/-- Session 0 is handed out with recovery enabled and has a receiver. -/
def subscribed : List ReceivingAction :=
  handingOut 0 1 ++ subscribing 0

/-- The camera is unplugged; the receiver waits. -/
theorem receivers_survive_once :
    ∃ v, receivingMachine.Reachable Receiving.spared v ∧ 0 ∈ v.reconnecting ∧
      v.device.hub.active = false ∧ v.Survives := by
  have passed : ((receivingMachine.exec Receiving.sparesReconnecting
      { frames := Frame.FrameHub.new 2 } (subscribed ++ [.lifecycle .backendStop])).any fun v =>
        decide (0 ∈ v.reconnecting) && decide (v.device.hub.active = false) &&
        v.frames.receivers.any fun r => decide (r.owner = some 0)) = true := by
    decide +kernel
  obtain ⟨v, reached, ended⟩ := Lib.Machine.Reachable.of_exec (receivingMachine_new 2) passed
  simp only [Bool.and_eq_true, decide_eq_true_eq] at ended
  exact ⟨v, reached, ended.1.1, ended.1.2, receivers_survive reached⟩

/-! ### What goes wrong otherwise -/

/-- As in `lateRequestStop`, but session 1 is started with recovery, handed out and
subscribed to before the first `close` of session 0 goes on. -/
def lateDisable : List ReceivingAction :=
  (startedOnce ++ [Action.close 0, .close 0, .run 2 {}, .run 2 {}] ++
    List.replicate 13 (Action.run 3 {}) : List Action).map .lifecycle ++
  handingOut 4 5 ++ subscribing 1 ++
  List.replicate 4 (ReceivingAction.lifecycle (.run 2 {}))

private theorem lateDisable_ends_receiver :
    ((receivingMachine.exec (fun _ _ => true) { frames := Frame.FrameHub.new 2 }
      lateDisable).any fun v =>
        decide (1 ∈ v.reconnecting) && !(v.device.sessions 1).stopping &&
        v.frames.receivers[0]?.any fun r =>
          decide (r.owner = some 1) &&
          decide ((v.frames.next 0 r).1 = .error .streamStopped)) = true := by
  decide +kernel

theorem not_always_survive :
    ¬ ∀ v, receivingMachine.Reachable Lib.Machine.anything v → v.Survives := by
  intro always
  obtain ⟨v, reached, late⟩ :=
    Lib.Machine.Reachable.of_exec (receivingMachine_new 2) lateDisable_ends_receiver
  simp only [Bool.and_eq_true, decide_eq_true_eq, Bool.not_eq_true',
    Option.any_eq_true] at late
  obtain ⟨⟨reconnecting, running⟩, r, here, owner, refused⟩ := late
  have stopping := (always v (reached.mono fun _ _ _ => trivial)).kept 1 0 r _ reconnecting
    ⟨here, owner⟩ refused
  rw [stopping] at running
  contradiction

end Receiving

end CameraRs.Session

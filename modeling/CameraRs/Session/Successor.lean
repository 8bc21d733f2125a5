/-
Stopping an old session and the sessions that come after it.

`request_stop` looks at `stopping` and `closed` once and then works on the hub
without the `lifecycle` lock, and the blocking `source.stop()` of a dropped `close`
goes on without it. Another closer may finish the shutdown meanwhile. When `closed`
is only stored while no `request_stop` of the session is on its way to `hub.stop`
and no such call is left, nothing that runs for a closed session touches the device.
-/

import CameraRs.Session.Launch

namespace CameraRs.Session

/-- `request_stop` is past its checks and has not called `hub.stop` yet, or the
blocking stop that a dropped `close` has left is not over. -/
def Pc.quieting : Pc → Bool
  | .requestStop _ .setStopping | .requestStop _ .disableRecovery
  | .requestStop _ .endRecovery | .requestStop _ .hubStop => true
  | .stop .blockingHubStop | .stop .blockingDeviceStop => true
  | _ => false

def closesWhenQuiet : Discipline where
  own _ _ _ := true
  beside effect other :=
    match effect with
    | .storeClosed => !other.quieting
    | _ => true

def Effect.disturbs : Effect → Bool
  | .hubStop | .disableRecovery | .endRecovery | .beginRecovery
  | .sourceStart _ | .sourceStop _ | .reopen _ => true
  | _ => false

namespace Device

def access (d : Device) (i : TaskId) (env : Env) : Option (SessionId × Effect) :=
  match d.tasks i with
  | .on s pc => (next d.native d.hub (d.sessions s) env pc).map fun (_, effect) => (s, effect)
  | _ => none

/-- No access for a session that was handed to its caller and is closed stops the
hub or the source. -/
def LeavesSuccessors (d : Device) : Prop :=
  ∀ i env s effect, d.access i env = some (s, effect) →
    (d.sessions s).launched = true → (d.sessions s).closed = true →
      effect.touchesDevice = false

/-- An action on behalf of `s`, or one that leaves the epoch of the hub alone. -/
def spares (s : SessionId) (d : Device) : Action → Prop
  | .run i env =>
      (∀ r effect, d.access i env = some (r, effect) → r = s ∨ effect.disturbs = false) ∧
      d.tasks i ≠ .device .closeRelease
  | .backendStop => False
  | _ => True

end Device

section

attribute [local simp] Pc.quieting Pc.guarded Pc.holdsLock Pc.presend Effect.disturbs

variable {native : Bool} {hub : HubView} {inner : SessionInner} {env : Env} {pc after : Pc}
  {effect : Effect}

private theorem next_disturbs (taken : next native hub inner env pc = some (after, effect))
    (disturbs : effect.disturbs = true) :
    pc.guarded = true ∨ pc.quieting = true ∨ pc.presend = true := by
  cases pc with
  | start pc =>
      cases pc <;> simp only [next, startNext] at taken <;> (repeat' split at taken) <;>
        first
        | contradiction
        | (obtain ⟨rfl, rfl⟩ := taken; contradiction)
  | startTask pc =>
      cases pc with
      | unlock =>
          obtain ⟨rfl, rfl⟩ := taken
          contradiction
      | _ => simp
  | dropSession =>
      simp only [next] at taken
      split at taken <;> (obtain ⟨rfl, rfl⟩ := taken; contradiction)
  | requestStop thenStop pc =>
      cases pc <;> simp only [next, requestStopNext] at taken <;> (repeat' split at taken) <;>
        first
        | (obtain ⟨rfl, rfl⟩ := taken; contradiction)
        | simp
  | stop pc =>
      cases pc <;> simp only [next, stopNext] at taken <;> (repeat' split at taken) <;>
        first
        | contradiction
        | (obtain ⟨rfl, rfl⟩ := taken; contradiction)
        | simp
  | recovery vars pc =>
      cases pc <;> simp only [next, recoveryNext] at taken <;> (repeat' split at taken) <;>
        first
        | contradiction
        | (obtain ⟨rfl, rfl⟩ := taken; contradiction)
        | simp
  | finished => contradiction

private theorem next_quieting (taken : next native hub inner env pc = some (after, effect))
    (quieting : after.quieting = true) :
    effect ≠ .storeClosed ∧ (pc.quieting = true ∨ inner.closed = false) := by
  cases pc with
  | requestStop thenStop pc =>
      cases pc <;> cases thenStop <;> simp only [next, requestStopNext] at taken <;>
        (repeat' split at taken) <;>
        (obtain ⟨rfl, rfl⟩ := taken; first | contradiction | simp_all)
  | start pc =>
      cases pc <;> simp only [next, startNext] at taken <;> (repeat' split at taken) <;>
        first | contradiction | (obtain ⟨rfl, rfl⟩ := taken; contradiction)
  | startTask pc =>
      rcases pc with _ | ⟨_ | _⟩ <;> simp only [next, startTaskNext] at taken <;>
        (repeat' split at taken) <;>
        first | contradiction | (obtain ⟨rfl, rfl⟩ := taken; contradiction)
  | dropSession =>
      simp only [next] at taken
      split at taken <;> (obtain ⟨rfl, rfl⟩ := taken; contradiction)
  | stop pc =>
      cases pc <;> simp only [next, stopNext] at taken <;> (repeat' split at taken) <;>
        first
        | contradiction
        | (obtain ⟨rfl, rfl⟩ := taken; first | contradiction | simp)
  | recovery vars pc =>
      cases pc <;> simp only [next, recoveryNext] at taken <;> (repeat' split at taken) <;>
        first | contradiction | (obtain ⟨rfl, rfl⟩ := taken; contradiction)
  | finished => contradiction

private theorem next_leaves
    (taken : next native hub inner env pc = some (after, .spawn (.stop .blockingHubStop))) :
    pc.guarded = true := by
  cases pc with
  | start pc =>
      cases pc <;> simp only [next, startNext] at taken <;> (repeat' split at taken) <;>
        first | contradiction | injections
  | startTask pc =>
      rcases pc with _ | ⟨_ | _⟩ <;> simp only [next, startTaskNext] at taken <;>
        (repeat' split at taken) <;> first | contradiction | injections
  | dropSession =>
      simp only [next] at taken
      split at taken <;> injections
  | requestStop thenStop pc =>
      cases pc <;> simp only [next, requestStopNext] at taken <;>
        (repeat' split at taken) <;> injections
  | stop pc =>
      cases pc <;> simp only [next, stopNext] at taken <;> (repeat' split at taken) <;>
        first | contradiction | rfl | injections
  | recovery vars pc =>
      cases pc <;> simp only [next, recoveryNext] at taken <;> (repeat' split at taken) <;>
        first | contradiction | injections
  | finished => contradiction

end

/-! ### Closed sessions stay out of the way -/

def quiet : Assertion where
  session _ := True
  task _ inner pc := pc.quieting = true → inner.closed = false

private theorem quiet_stable : Assertion.Stable closesWhenQuiet locks quiet where
  fresh _ := trivial
  starting _ _ _ := nofun
  closeCall _ _ _ _ _ := nofun
  dropCall _ _ _ _ _ := nofun
  dropped _ _ := trivial
  droppedTask _ _ _ opened := opened
  session _ _ _ _ _ _ := trivial
  task _ _ _ opened _ taken := by
    intro later
    obtain ⟨notClosing, why⟩ := next_quieting taken later
    rw [Effect.closed_unless notClosing]
    rcases why with before | now
    · exact opened before
    · exact now
  spawned _ facts _ _ taken := by
    rcases Pc.entry_cases ((next_edge taken).spawning _ rfl) with
      rfl | ⟨_, rfl⟩ | ⟨_, rfl⟩ | rfl
    · exact nofun
    · exact nofun
    · exact nofun
    · intro _
      rw [Effect.closed_onInner]
      exact facts.opened (next_leaves taken)
  other {_ _ _ _ _ _ _ _ _ effect pending} _ _ _ _ _ _ _ _ opened beside := by
    intro later
    rw [Effect.closed_unless]
    · exact opened later
    · rintro rfl
      simp [closesWhenQuiet, later] at beside

private theorem quiet_holds {d : Device} (reached : machine.Reachable closesWhenQuiet.admits d) :
    quiet.Holds d :=
  quiet_stable.reachable (fun _ reached => locks_hold reached) reached

variable {d d' : Device} {s : SessionId}

theorem closed_session_idle (reached : machine.Reachable closesWhenQuiet.admits d)
    (launched : (d.sessions s).launched = true) (closed : (d.sessions s).closed = true)
    {i : TaskId} {env : Env} {effect : Effect} (access : d.access i env = some (s, effect)) :
    effect.disturbs = false := by
  simp only [Device.access] at access
  split at access
  · next r pc at_pc =>
      obtain ⟨⟨after, made⟩, taken, same⟩ := Option.map_eq_some_iff.mp access
      injection same with sameSession sameEffect
      subst sameSession sameEffect
      by_contra disturbs
      have open_session : (d.sessions r).closed = false := by
        rcases next_disturbs taken (Bool.eq_true_of_not_eq_false disturbs) with
          guarded | quieting | presend
        · exact ((locks_hold reached).task i r pc at_pc).opened guarded
        · exact (quiet_holds reached).task i r pc at_pc quieting
        · -- the start task of a launched session has sent its answer
          have answered := ((launch_holds reached).session r).2 launched
          rw [((launch_holds reached).task i r pc at_pc).presend presend] at answered
          contradiction
      rw [open_session] at closed
      contradiction
  · contradiction

private theorem Effect.touches_disturbs {effect : Effect} (calm : effect.disturbs = false) :
    effect.touchesDevice = false := by
  cases effect <;> first | rfl | contradiction

theorem Effect.epoch_onHub {effect : Effect} {hub : HubView} (calm : effect.disturbs = false) :
    (effect.onHub hub).session = hub.session ∧ (effect.onHub hub).active = hub.active := by
  cases effect <;> first | exact ⟨rfl, rfl⟩ | contradiction

namespace Device

theorem apply_hub (d : Device) (i : TaskId) (s : SessionId) (effect : Effect) :
    (d.apply i s effect).hub = effect.onHub d.hub := by
  cases effect <;> rfl

theorem epoch_stepDevice {i : TaskId} {env : Env} {pc : DevicePc} (keeps : pc ≠ .closeRelease) :
    (d.stepDevice i env pc).hub = d.hub := by
  cases pc with
  | swapBusy candidates policy =>
      simp only [stepDevice]
      split <;> rfl
  | configure candidates policy =>
      simp only [stepDevice]
      split <;> rfl
  | closeLoadBusy =>
      simp only [stepDevice]
      split <;> rfl
  | closeRelease => contradiction
  | _ => rfl

private theorem epoch_step (reached : machine.Reachable closesWhenQuiet.admits d)
    (launched : (d.sessions s).launched = true) (closed : (d.sessions s).closed = true)
    {a : Action} (spares : d.spares s a) (taken : d.step a = some d') :
    d'.hub.session = d.hub.session ∧ d'.hub.active = d.hub.active := by
  cases a with
  | start candidates policy =>
      simp only [step] at taken
      split at taken
      · cases taken
        exact ⟨rfl, rfl⟩
      · contradiction
  | closeCamera =>
      simp only [step] at taken
      split at taken
      · cases taken
        exact ⟨rfl, rfl⟩
      · contradiction
  | close r =>
      simp only [step] at taken
      split at taken
      · cases taken
        exact ⟨rfl, rfl⟩
      · contradiction
  | drop r =>
      simp only [step] at taken
      split at taken
      · cases taken
        exact ⟨rfl, rfl⟩
      · contradiction
  | backendStop => exact spares.elim
  | traffic metrics stats =>
      cases taken
      exact ⟨rfl, rfl⟩
  | run i env =>
      cases at_pc : d.tasks i with
      | absent => simp [step, at_pc] at taken
      | done => simp [step, at_pc] at taken
      | device pc =>
          simp only [step, at_pc, Option.some.injEq] at taken
          subst taken
          rw [epoch_stepDevice fun same => spares.2 (by rw [at_pc, same])]
          exact ⟨rfl, rfl⟩
      | on r pc =>
          simp only [step, at_pc, Option.map_eq_some_iff] at taken
          obtain ⟨⟨after, effect⟩, made, rfl⟩ := taken
          have access : d.access i env = some (r, effect) := by
            simp [access, at_pc, made]
          have calm : effect.disturbs = false := by
            rcases spares.1 r effect access with rfl | calm
            · exact closed_session_idle reached launched closed access
            · exact calm
          change (d.apply i r effect).hub.session = _ ∧ (d.apply i r effect).hub.active = _
          rw [apply_hub]
          exact Effect.epoch_onHub calm

/-- As long as every action is made for a closed session or spares the epoch, the
epoch that was running stays as it was. -/
private theorem epoch_run (reached : machine.Reachable closesWhenQuiet.admits d)
    (launched : (d.sessions s).launched = true) (closed : (d.sessions s).closed = true)
    {actions : List Action}
    (run : machine.Run (fun d a => closesWhenQuiet.admits d a ∧ d.spares s a) d actions d') :
    d'.hub.session = d.hub.session ∧ d'.hub.active = d.hub.active := by
  have kept : machine.Reachable closesWhenQuiet.admits d' ∧
      (d'.sessions s).launched = true ∧ (d'.sessions s).closed = true ∧
      d'.hub.session = d.hub.session ∧ d'.hub.active = d.hub.active := by
    induction run with
    | nil => exact ⟨reached, launched, closed, rfl, rfl⟩
    | @snoc middle finish actions action _ admitted taken ih =>
        obtain ⟨here, launched, closed, session, active⟩ := ih
        have inRange := (Numbered.reachable here).launched launched
        have taken : middle.step action = some finish := taken
        obtain ⟨sameSession, sameActive⟩ := epoch_step here launched closed admitted.2 taken
        exact ⟨here.extend (.single admitted.1 taken), launched_step taken inRange launched,
          closed_step taken inRange closed, sameSession.trans session, sameActive.trans active⟩
  exact kept.2.2.2

end Device

/-- In runs in which `closed` is only stored while no `request_stop` of the session is
on its way to `hub.stop` and no blocking stop of a dropped `close` is left: no access
for a closed session stops the hub or the source, and such accesses leave the epoch
of a later session as it is. -/
theorem closed_leaves_successors (reached : machine.Reachable closesWhenQuiet.admits d) :
    d.LeavesSuccessors ∧
    ∀ s d' actions, (d.sessions s).launched = true → (d.sessions s).closed = true →
      machine.Run (fun d a => closesWhenQuiet.admits d a ∧ d.spares s a) d actions d' →
      d'.hub.session = d.hub.session ∧ d'.hub.active = d.hub.active := by
  constructor
  · intro i env s effect access launched closed
    exact Effect.touches_disturbs (closed_session_idle reached launched closed access)
  · intro s d' actions launched closed run
    exact Device.epoch_run reached launched closed run

theorem closed_leaves_successors_once :
    ∃ d, machine.Reachable closesWhenQuiet.admits d ∧
      (d.sessions 0).launched = true ∧ (d.sessions 0).closed = true ∧ d.LeavesSuccessors := by
  have passed : ((machine.exec closesWhenQuiet.allows {} (startedOnce ++ [Action.close 0] ++
      List.replicate 19 (Action.run 2 {}))).any fun d =>
        (d.sessions 0).launched && (d.sessions 0).closed) = true := by
    decide +kernel
  obtain ⟨d, reached, ended⟩ := Lib.Machine.Reachable.of_exec machine_opened passed
  obtain ⟨launched, closed⟩ := Bool.and_eq_true_iff.mp ended
  exact ⟨d, reached, launched, closed, (closed_leaves_successors reached).1⟩

/-! ### What goes wrong otherwise -/

namespace Device

private theorem not_leaves {i : TaskId} {effect : Effect} {pc after : Pc}
    (at_pc : d.tasks i = .on s pc)
    (taken : next d.native d.hub (d.sessions s) {} pc = some (after, effect))
    (launched : (d.sessions s).launched = true) (closed : (d.sessions s).closed = true)
    (touches : effect.touchesDevice = true) : ¬ d.LeavesSuccessors := by
  intro leaves
  have access : d.access i {} = some (s, effect) := by
    simp [Device.access, at_pc, taken]
  rw [leaves i {} s effect access launched closed] at touches
  contradiction

/-- A closed session with a task in the excluded window goes on to stop the hub or
the source, whatever session they serve by then. -/
theorem quieting_touches {i : TaskId} {pc : Pc} (at_pc : d.tasks i = .on s pc)
    (quieting : pc.quieting = true) (launched : (d.sessions s).launched = true)
    (closed : (d.sessions s).closed = true) :
    ∃ actions d', machine.Run Lib.Machine.anything d actions d' ∧ ¬ d'.LeavesSuccessors := by
  unfold Pc.quieting at quieting
  split at quieting
  · next thenStop =>
      -- `set_state(Stopping)` comes first, then `disable_recovery`
      obtain ⟨d', taken, at_next, sessions⟩ : ∃ d', d.step (.run i {}) = some d' ∧
          d'.tasks i = .on s (.requestStop thenStop .disableRecovery) ∧
          d'.sessions s = { d.sessions s with state := .stopping } := by
        simp [Device.step, at_pc, next, requestStopNext, Device.apply, Device.setTask,
          Device.setInner, Device.setHub, Device.setBusy, Effect.onInner]
      have run : machine.Run Lib.Machine.anything d [.run i {}] d' := .single trivial taken
      refine ⟨_, d', run, not_leaves at_next rfl ?_ ?_ rfl⟩
      · rw [sessions]
        exact launched
      · rw [sessions]
        exact closed
  · exact ⟨[], d, .nil, not_leaves at_pc rfl launched closed rfl⟩
  · exact ⟨[], d, .nil, not_leaves at_pc rfl launched closed rfl⟩
  · exact ⟨[], d, .nil, not_leaves at_pc rfl launched closed rfl⟩
  · exact ⟨[], d, .nil, not_leaves at_pc rfl launched closed rfl⟩
  · exact ⟨[], d, .nil, not_leaves at_pc rfl launched closed rfl⟩
  · contradiction

end Device

/-- Two `close` calls on session 0. The first has passed its checks when the second
finds `stopping` set, shuts the session down and gives `busy` back. Session 1
starts and its source begins an epoch; then the first call goes on. -/
def lateRequestStop : List Action :=
  startedOnce ++ [Action.close 0, .close 0, .run 2 {}, .run 2 {}] ++
  List.replicate 13 (Action.run 3 {}) ++ [Action.start 1 none] ++
  List.replicate 4 (Action.run 4 {}) ++
  List.replicate 5 (Action.run 5 {}) ++ List.replicate 3 (Action.run 2 {})

private theorem lateRequestStop_stops_successor :
    ((machine.exec (fun _ _ => true) {} lateRequestStop).any fun d =>
      d.hub.active && (d.sessions 0).launched && (d.sessions 0).closed &&
      decide (d.Live 1) && !(d.sessions 1).stopping &&
      (d.access 2 {}).any fun (s, effect) => s == 0 && effect.touchesDevice) = true := by
  decide +kernel

/-- A `close` of session 0 is dropped while it waits for `source.stop()`. The task that
`request_stop` spawned shuts the session down; session 1 starts and its source
begins an epoch; then the blocking call that was left goes on. -/
def droppedClose : List Action :=
  startedOnce ++ [Action.close 0] ++ List.replicate 13 (Action.run 2 {}) ++
  [.run 2 { cancelled := true }, .run 2 {}] ++
  List.replicate 12 (Action.run 3 {}) ++ [Action.start 1 none] ++
  List.replicate 4 (Action.run 5 {}) ++ List.replicate 5 (Action.run 6 {})

example : ((machine.exec (fun _ _ => true) {} droppedClose).any fun d =>
    d.hub.active && (d.sessions 0).launched && (d.sessions 0).closed &&
    decide (d.Live 1) && !(d.sessions 1).stopping &&
    (d.access 4 {}).any fun (s, effect) => s == 0 && effect.touchesDevice) = true := by
  decide +kernel

theorem not_always_leaves_successors :
    ¬ ∀ d, machine.Reachable Lib.Machine.anything d → d.LeavesSuccessors := by
  intro always
  obtain ⟨d, reached, late⟩ :=
    Lib.Machine.Reachable.of_exec machine_opened lateRequestStop_stops_successor
  simp only [Bool.and_eq_true] at late
  obtain ⟨⟨⟨⟨⟨_, launched⟩, closed⟩, _⟩, _⟩, touching⟩ := late
  cases access : d.access 2 {} with
  | none => simp [access] at touching
  | some made =>
      obtain ⟨s, effect⟩ := made
      simp only [access, Option.any_some, Bool.and_eq_true, beq_iff_eq] at touching
      obtain ⟨rfl, touches⟩ := touching
      rw [always d (reached.mono fun _ _ _ => trivial) 2 {} 0 effect access launched closed]
        at touches
      contradiction

end CameraRs.Session

/-
The lifecycle code, one shared access at a time.

`next` says for every program counter what the task does to the shared state and
where it goes; `apply` carries the access out. A disabled access (a held lock, an
empty channel) is `none`. What the environment decides (results of native calls,
cancelled futures, recovery triggers) is in `Env`.
-/

import CameraRs.Session.State
import CameraRs.Lib.Machine

namespace CameraRs.Session

/-- Choices of the world outside the lifecycle code at one step. `reaches` tells
whether `Source::start` came as far as `FrameHub::start`, or `Source::stop` and
`NativeSource::reopen` as far as `FrameHub::stop`. -/
structure Env where
  result : CameraResult Unit := .ok ()
  reaches : Bool := true
  cancelled : Bool := false
  trigger : Option RecoveryTrigger := none

inductive Effect
  | read
  | lock
  | unlock
  | storeStopping
  | storeClosed
  | setState (state : SessionState)
  | launch
  | storeTerminalMetrics
  | releaseBusy
  | hubStop
  | disableRecovery
  | endRecovery
  | beginRecovery
  | enableRecovery
  | sourceStart (reaches : Bool)
  | sourceStop (reaches : Bool)
  | reopen (reaches : Bool)
  | spawn (pc : Pc)
  | dropReceiver
  | send (result : CameraResult Unit)
  | handOut

/-- Calls of `FrameHub::stop`, `disable_recovery`, `end_recovery`, `Source::stop`. -/
def Effect.touchesDevice : Effect → Bool
  | .hubStop | .disableRecovery | .endRecovery | .sourceStop _ => true
  | _ => false

/-- `SessionInner::request_stop`; `close` goes on with `stop`, a drop ends. -/
def requestStopNext (inner : SessionInner) (thenStop : Bool) :
    RequestStopPc → Pc × Effect
  | .swapStopping =>
      if inner.stopping then (if thenStop then .stop .lock else .finished, .read)
      else (.requestStop thenStop .loadClosed, .storeStopping)
  | .loadClosed =>
      if inner.closed then (if thenStop then .stop .lock else .finished, .read)
      else (.requestStop thenStop .setStopping, .read)
  | .setStopping => (.requestStop thenStop .disableRecovery, .setState .stopping)
  | .disableRecovery => (.requestStop thenStop .endRecovery, .disableRecovery)
  | .endRecovery => (.requestStop thenStop .hubStop, .endRecovery)
  | .hubStop => (.requestStop thenStop .spawnStop, .hubStop)
  | .spawnStop => (if thenStop then .stop .lock else .finished, .spawn (.stop .lock))

/-- `SessionInner::stop`. A caller may drop the future while it waits for the lock and
while it waits for `source.stop()`; `spawn_blocking` has the source stopped all the
same, the hub first and then the device. -/
def stopNext (inner : SessionInner) (env : Env) : StopPc → Option (Pc × Effect)
  | .lock =>
      if env.cancelled then some (.finished, .read)
      else if inner.lifecycle.isNone then some (.stop .loadClosed, .lock)
      else none
  | .loadClosed =>
      if inner.closed then some (.stop (.unlock inner.state.closeResult), .read)
      else some (.stop .storeStopping, .read)
  | .storeStopping => some (.stop .disableRecovery, .storeStopping)
  | .disableRecovery => some (.stop .endRecovery, .disableRecovery)
  | .endRecovery => some (.stop .hubStop, .endRecovery)
  | .hubStop => some (.stop .sourceStop, .hubStop)
  | .sourceStop =>
      if env.cancelled then some (.stop .dropGuard, .spawn (.stop .blockingHubStop))
      else some (.stop (.terminalMetrics env.result), .sourceStop env.reaches)
  | .terminalMetrics result => some (.stop (.storeClosed result), .storeTerminalMetrics)
  | .storeClosed result => some (.stop (.setState result), .storeClosed)
  | .setState result =>
      some (.stop (.storeBusy result),
        .setState (match result with | .ok _ => .stopped | .error error => .failed error))
  | .storeBusy result => some (.stop (.unlock result), .releaseBusy)
  | .unlock result => some (.stop (.returned result), .unlock)
  | .returned _ => none
  | .dropGuard => some (.finished, .unlock)
  | .blockingHubStop => some (.stop .blockingDeviceStop, .sourceStop env.reaches)
  | .blockingDeviceStop => some (.finished, .sourceStop false)

/-- `Camera::start_inner` from the creation of its `StartGuard` on. Leaving early
drops the guard, which runs `request_stop`. -/
def startNext (inner : SessionInner) (env : Env) : StartPc → Option (Pc × Effect)
  | .applyOptions candidates policy =>
      if env.cancelled then some (.requestStop false .swapStopping, .dropReceiver)
      else
        match env.result with
        | .ok _ => some (.start (.spawnTask candidates policy), .read)
        | .error _ => some (.requestStop false .swapStopping, .dropReceiver)
  | .spawnTask candidates policy =>
      some (.start (.awaitResult policy), .spawn (.startTask (.lock candidates)))
  | .awaitResult policy =>
      -- cancellation and the deadline drop the receiver before the guard
      if env.cancelled then some (.start .dropReceiver, .read)
      else
        match inner.outcome with
        | none => none
        | some (.ok _) => some (.start (.setStreaming policy), .read)
        | some (.error _) => some (.start .dropReceiver, .read)
  | .dropReceiver => some (.requestStop false .swapStopping, .dropReceiver)
  | .setStreaming policy =>
      match env.result with
      | .ok _ => some (.start (.captureMode policy), .launch)
      | .error _ => some (.start .dropReceiver, .read)
  | .captureMode policy =>
      match env.result, policy with
      | .error _, _ => some (.start .dropReceiver, .read)
      | .ok _, none => some (.start .disarm, .read)
      | .ok _, some policy => some (.start (.enableRecovery policy), .read)
  | .enableRecovery policy => some (.start (.spawnRecovery policy), .enableRecovery)
  | .spawnRecovery policy =>
      some (.start .disarm, .spawn (.recovery { policy := policy } .upgrade))
  | .disarm => some (.finished, .handOut)

def startTaskNext (hub : HubView) (inner : SessionInner) (env : Env) :
    StartTaskPc → Option (Pc × Effect)
  | .lock candidates =>
      if inner.lifecycle.isNone then
        some (.startTask (.loopStopping candidates
          (.error (.unsupportedFormat "No usable capture configuration"))), .lock)
      else none
  | .loopStopping 0 result => some (.startTask (.exitStopping result), .read)
  | .loopStopping (candidates + 1) result =>
      if inner.stopping then some (.startTask (.exitStopping result), .read)
      else some (.startTask (.loopReceiver candidates result), .read)
  | .loopReceiver candidates result =>
      if inner.receiver then some (.startTask (.previousSession candidates), .read)
      else some (.startTask (.exitStopping result), .read)
  | .previousSession candidates =>
      some (.startTask (.sourceStart candidates hub.session), .read)
  | .sourceStart candidates previous =>
      match env.result with
      | .ok _ => some (.startTask (.session candidates previous), .sourceStart env.reaches)
      | .error error => some (.startTask (.stopFailed candidates error),
          .sourceStart env.reaches)
  | .session candidates previous =>
      if hub.session = previous then
        some (.startTask (.stopFailed candidates
          (.invalidState "Backend did not begin a new frame session")), .read)
      else some (.startTask (.firstFrame candidates), .read)
  | .firstFrame candidates =>
      match env.result with
      | .ok _ => some (.startTask (.exitStopping (.ok ())), .read)
      | .error error => some (.startTask (.stopFailed candidates error), .read)
  | .stopFailed candidates error =>
      some (.startTask (.loopStopping candidates (.error error)), .sourceStop env.reaches)
  | .exitStopping result =>
      if inner.stopping then some (.startTask (.sourceStop result), .read)
      else some (.startTask (.exitReceiver result), .read)
  | .exitReceiver result =>
      if inner.receiver ∧ result = .ok () then some (.startTask (.send result), .read)
      else some (.startTask (.sourceStop result), .read)
  | .sourceStop result => some (.startTask (.storeStopping result), .sourceStop env.reaches)
  | .storeStopping result => some (.startTask (.storeClosed result), .storeStopping)
  | .storeClosed result => some (.startTask (.setStopped result), .storeClosed)
  | .setStopped result => some (.startTask (.storeBusy result), .setState .stopped)
  | .storeBusy result => some (.startTask (.send result), .releaseBusy)
  | .send result => some (.startTask .unlock, .send result)
  | .unlock => some (.finished, .unlock)

/-- One round of the loop in `CaptureSession::spawn_recovery`. -/
def recoveryNext (native : Bool) (hub : HubView) (inner : SessionInner) (vars : RecoveryVars)
    (env : Env) : RecoveryPc → Option (Pc × Effect)
  | .upgrade =>
      -- the weak reference can only be dead once the session handle is gone
      if env.cancelled ∧ inner.handle = false then some (.finished, .read)
      else some (.recovery vars .wait, .read)
  | .wait =>
      match vars.pending, env.trigger with
      | some trigger, _ => some (.recovery vars (.loadStopping trigger), .read)
      | none, none => none
      | none, some trigger =>
          if trigger = .sourceStopped ∧ hub.active then none
          else some (.recovery vars (.loadStopping trigger), .read)
  | .loadStopping trigger =>
      if inner.stopping then some (.finished, .read)
      else some (.recovery vars (.lock trigger), .read)
  | .lock trigger =>
      if inner.lifecycle.isNone then some (.recovery vars (.loadStoppingLocked trigger), .lock)
      else none
  | .loadStoppingLocked trigger =>
      if inner.stopping then some (.recovery vars .unlockBreak, .read)
      else some (.recovery vars (.recheckTrigger trigger), .read)
  | .recheckTrigger trigger =>
      if vars.pending.isNone ∧ hub.active ∧ env.trigger.isNone then
        some (.recovery vars .unlockContinue, .read)
      else
        some (.recovery { vars with attempt := vars.attempt + 1 } (.setRecovering trigger), .read)
  | .setRecovering trigger =>
      some (.recovery vars (.beginRecovery trigger), .setState (.recovering vars.attempt))
  | .beginRecovery trigger => some (.recovery vars (.sourceStop trigger), .beginRecovery)
  | .sourceStop trigger =>
      some (.recovery vars (.reopen trigger env.result), .sourceStop env.reaches)
  | .reopen trigger stopResult =>
      let force := vars.attempt > 1 ∨ trigger = .sourceStopped
      if native ∧ (force ∨ stopResult ≠ .ok ()) then
        match env.result with
        | .ok _ => some (.recovery vars (.loadStoppingStart trigger), .reopen env.reaches)
        | .error error =>
            some (.recovery vars (.loadStoppingOutcome trigger (.error error)),
              .reopen env.reaches)
      else
        match stopResult with
        | .ok _ => some (.recovery vars (.loadStoppingStart trigger), .read)
        | .error error =>
            some (.recovery vars (.loadStoppingOutcome trigger (.error error)), .read)
  | .loadStoppingStart trigger =>
      if inner.stopping then
        some (.recovery vars (.loadStoppingOutcome trigger (.error .streamStopped)), .read)
      else some (.recovery vars (.sourceStart trigger), .read)
  | .sourceStart trigger =>
      match env.result with
      | .ok _ => some (.recovery vars (.firstFrame trigger), .sourceStart env.reaches)
      | .error error =>
          some (.recovery vars (.loadStoppingOutcome trigger (.error error)),
            .sourceStart env.reaches)
  | .firstFrame trigger =>
      some (.recovery vars (.loadStoppingOutcome trigger env.result), .read)
  | .loadStoppingOutcome trigger result =>
      if inner.stopping then some (.recovery vars .abandonStop, .read)
      else
        match result with
        | .ok _ => some (.recovery vars .endRecovery, .read)
        | .error error => some (.recovery vars (.retryStop trigger error), .read)
  | .abandonStop => some (.recovery vars .unlockBreak, .sourceStop env.reaches)
  | .endRecovery => some (.recovery vars .setStreaming, .endRecovery)
  | .setStreaming =>
      some (.recovery { vars with attempt := 0, pending := none } .unlockContinue,
        .setState .streaming)
  | .retryStop trigger error =>
      some (.recovery vars (.retryHubStop trigger error), .sourceStop env.reaches)
  | .retryHubStop trigger error =>
      let vars := { vars with pending := some trigger }
      if vars.policy.maxAttempts.any (fun n => vars.attempt ≥ n) then
        some (.recovery vars (.setFailed error), .hubStop)
      else some (.recovery vars .unlockContinue, .hubStop)
  | .setFailed error => some (.recovery vars .storeStopping, .setState (.failed error))
  | .storeStopping => some (.recovery vars .disableRecovery, .storeStopping)
  | .disableRecovery => some (.recovery vars .endRecoveryFailed, .disableRecovery)
  | .endRecoveryFailed => some (.recovery vars .hubStop, .endRecovery)
  | .hubStop => some (.recovery vars .finalStop, .hubStop)
  | .finalStop => some (.recovery vars .terminalMetrics, .sourceStop env.reaches)
  | .terminalMetrics => some (.recovery vars .storeClosed, .storeTerminalMetrics)
  | .storeClosed => some (.recovery vars .storeBusy, .storeClosed)
  | .storeBusy => some (.recovery vars .unlockBreak, .releaseBusy)
  | .unlockContinue => some (.recovery vars .upgrade, .unlock)
  | .unlockBreak => some (.finished, .unlock)

/-- The next shared access of a task that runs on behalf of session `inner`. -/
def next (native : Bool) (hub : HubView) (inner : SessionInner) (env : Env) :
    Pc → Option (Pc × Effect)
  | .start pc => startNext inner env pc
  | .startTask pc => startTaskNext hub inner env pc
  | .dropSession =>
      some (if inner.stopping then .finished else .requestStop false .swapStopping, .read)
  | .requestStop thenStop pc => some (requestStopNext inner thenStop pc)
  | .stop pc => stopNext inner env pc
  | .recovery vars pc => recoveryNext native hub inner vars env pc
  | .finished => none

/-- What an access of task `i` does to its session; `spawned` is the identifier a
new task would get. -/
def Effect.onInner (i spawned : TaskId) (hub : HubView) (inner : SessionInner) :
    Effect → SessionInner
  | .lock => { inner with lifecycle := some i }
  | .unlock => { inner with lifecycle := none }
  | .storeStopping => { inner with stopping := true }
  | .storeClosed => { inner with closed := true }
  | .setState state => { inner with state := state }
  | .launch => { inner with state := .streaming, launched := true }
  | .storeTerminalMetrics => { inner with terminalMetrics := some (hub.metrics, hub.stats) }
  | .dropReceiver => { inner with receiver := false }
  | .send result => { inner with outcome := some result }
  | .handOut => { inner with handle := true }
  | .spawn (.startTask _) => { inner with starter := some spawned }
  | _ => inner

/-- What an access does to the shared frame hub. -/
def Effect.onHub (hub : HubView) : Effect → HubView
  | .hubStop => { hub with active := false }
  | .disableRecovery => { hub with reconnectEnabled := false, recovering := false }
  | .endRecovery => { hub with recovering := false }
  | .beginRecovery => { hub with recovering := true }
  | .enableRecovery => { hub with reconnectEnabled := true }
  | .sourceStart true => { hub with session := hub.session + 1, active := true }
  | .sourceStop true | .reopen true => { hub with active := false }
  | _ => hub

def Effect.onBusy (busy : Bool) : Effect → Bool
  | .releaseBusy => false
  | _ => busy

namespace Device

def apply (d : Device) (i : TaskId) (s : SessionId) (effect : Effect) : Device :=
  let after := ((d.setInner s (effect.onInner i d.spawned d.hub (d.sessions s))).setHub
    (effect.onHub d.hub)).setBusy (effect.onBusy d.busy)
  match effect with
  | .spawn pc => after.spawn (.on s pc)
  | _ => after

/-- A new `SessionInner` for the start that task `i` runs. -/
def create (d : Device) (i : TaskId) : Device :=
  { d with
    created := d.created + 1
    sessions := Function.update d.sessions d.created (.fresh i) }

/-- `start_inner` up to its `SessionInner`, and `Camera::close`. -/
def stepDevice (d : Device) (i : TaskId) (env : Env) : DevicePc → Device
  | .swapBusy candidates policy =>
      if d.closed ∨ d.busy then d.setTask i .done
      else (d.setBusy true).setTask i (.device (.configure candidates policy))
  | .configure candidates policy =>
      match d.hub.active, env.result with
      | false, .ok _ =>
          (d.create i).setTask i (.on d.created (.start (.applyOptions candidates policy)))
      | _, _ => d.setTask i (.device .configureFailed)
  | .configureFailed => (d.setBusy false).setTask i .done
  | .closeLoadBusy =>
      if d.busy then d.setTask i .done else d.setTask i (.device .closeStore)
  | .closeStore => { d with closed := true }.setTask i (.device .closeRelease)
  | .closeRelease =>
      (d.setHub ((Effect.sourceStop env.reaches).onHub d.hub)).setTask i .done

end Device

/-- Calls from outside, and one step of task `i`. -/
inductive Action
  | start (candidates : Nat) (policy : Option ReconnectPolicy)
  | close (s : SessionId)
  | drop (s : SessionId)
  | closeCamera
  | backendStop
  | traffic (metrics : FrameMetrics) (stats : StreamStats)
  | run (i : TaskId) (env : Env)

namespace Device

def step (d : Device) : Action → Option Device
  | .start candidates policy =>
      if d.free then
        some ({ d with borrower := some d.spawned }.spawn
          (.device (.swapBusy candidates policy)))
      else none
  | .closeCamera =>
      if d.free then
        some ({ d with borrower := some d.spawned }.spawn (.device .closeLoadBusy))
      else none
  | .close s =>
      if (d.sessions s).handle then
        some (d.spawn (.on s (.requestStop true .swapStopping)))
      else none
  | .drop s =>
      if (d.sessions s).handle then
        some ((d.setInner s { d.sessions s with handle := false }).spawn (.on s .dropSession))
      else none
  | .backendStop => some (d.setHub { d.hub with active := false })
  | .traffic metrics stats =>
      some (d.setHub { d.hub with metrics := metrics, stats := stats })
  | .run i env =>
      match d.tasks i with
      | .absent | .done => none
      | .device pc => some (d.stepDevice i env pc)
      | .on s pc =>
          (next d.native d.hub (d.sessions s) env pc).map fun (pc', effect) =>
            (d.apply i s effect).setTask i (.on s pc')

end Device

/-- One opened `Camera` and everything that is started on it. -/
def machine : Lib.Machine Device Action where
  initial d := ∃ native, d = { native := native }
  step := Device.step

/-- A start that succeeds: session 0 is handed out, its start task is over. -/
def startedOnce : List Action :=
  [Action.start 1 none] ++ List.replicate 4 (Action.run 0 {}) ++
  List.replicate 11 (Action.run 1 {}) ++
  List.replicate 4 (Action.run 0 {})

theorem machine_opened : machine.initial {} := ⟨true, rfl⟩

end CameraRs.Session

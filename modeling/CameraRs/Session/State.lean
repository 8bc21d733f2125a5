/-
Shared state of one `Camera` as its lifecycle code sees it: the `busy` flag, the
`SessionInner` of every session started so far, the frame hub's flags, and the
tasks that are running `start_inner`, the spawned start task, `request_stop`,
`SessionInner::stop` and the recovery loop.

A program counter names the next shared access of its task. Values a task keeps
in local variables are arguments of the counter.
-/

import CameraRs.Frame.Types
import Mathlib.Logic.Function.Basic

namespace CameraRs.Session

abbrev SessionId := Nat
abbrev TaskId := Nat

inductive SessionState
  | starting
  | streaming
  | recovering (attempt : Nat)
  | stopping
  | stopped
  | failed (error : CameraError)
deriving DecidableEq, Repr

def SessionState.isTerminal : SessionState → Bool
  | .stopped | .failed _ => true
  | _ => false

/-- What `SessionInner::stop` answers for a session it finds closed. -/
def SessionState.closeResult : SessionState → CameraResult Unit
  | .failed error => .error error
  | _ => .ok ()

/-- The `FrameHub` that all sessions of a device share: epoch and flags of its
snapshot, and the statistics it would report now. -/
structure HubView where
  session : Nat := 0
  active : Bool := false
  recovering : Bool := false
  reconnectEnabled : Bool := false
  metrics : FrameMetrics := {}
  stats : StreamStats := {}
deriving DecidableEq, Repr

/-- `ReconnectPolicy`; its delays only decide when a task is scheduled. -/
structure ReconnectPolicy where
  maxAttempts : Option Nat
deriving DecidableEq, Repr

inductive RecoveryTrigger
  | sourceStopped
  | sourceStalled
  | frameErrors
deriving DecidableEq, Repr

/-- `SessionInner::request_stop` after the statement that is named. -/
inductive RequestStopPc
  | swapStopping
  | loadClosed
  | setStopping
  | disableRecovery
  | endRecovery
  | hubStop
  | spawnStop

/-- `SessionInner::stop`. The last three are what a caller leaves behind that drops
the future while it waits for `source.stop()`: the guard, and the blocking call,
which goes on by itself. -/
inductive StopPc
  | lock
  | loadClosed
  | storeStopping
  | disableRecovery
  | endRecovery
  | hubStop
  | sourceStop
  | terminalMetrics (result : CameraResult Unit)
  | storeClosed (result : CameraResult Unit)
  | setState (result : CameraResult Unit)
  | storeBusy (result : CameraResult Unit)
  | unlock (result : CameraResult Unit)
  | returned (result : CameraResult Unit)
  | dropGuard
  | blockingHubStop
  | blockingDeviceStop

/-- `Camera::start_inner` once its `SessionInner` and guard exist. -/
inductive StartPc
  | applyOptions (candidates : Nat) (policy : Option ReconnectPolicy)
  | spawnTask (candidates : Nat) (policy : Option ReconnectPolicy)
  | awaitResult (policy : Option ReconnectPolicy)
  | dropReceiver
  | setStreaming (policy : Option ReconnectPolicy)
  | captureMode (policy : Option ReconnectPolicy)
  | enableRecovery (policy : ReconnectPolicy)
  | spawnRecovery (policy : ReconnectPolicy)
  | disarm

/-- The task `start_inner` spawns; `candidates` counts the configurations left. -/
inductive StartTaskPc
  | lock (candidates : Nat)
  | loopStopping (candidates : Nat) (result : CameraResult Unit)
  | loopReceiver (candidates : Nat) (result : CameraResult Unit)
  | previousSession (candidates : Nat)
  | sourceStart (candidates previous : Nat)
  | session (candidates previous : Nat)
  | firstFrame (candidates : Nat)
  | stopFailed (candidates : Nat) (error : CameraError)
  | exitStopping (result : CameraResult Unit)
  | exitReceiver (result : CameraResult Unit)
  | sourceStop (result : CameraResult Unit)
  | storeStopping (result : CameraResult Unit)
  | storeClosed (result : CameraResult Unit)
  | setStopped (result : CameraResult Unit)
  | storeBusy (result : CameraResult Unit)
  | send (result : CameraResult Unit)
  | unlock

/-- The task of `spawn_recovery`, between the statements of one round. -/
inductive RecoveryPc
  | upgrade
  | wait
  | loadStopping (trigger : RecoveryTrigger)
  | lock (trigger : RecoveryTrigger)
  | loadStoppingLocked (trigger : RecoveryTrigger)
  | recheckTrigger (trigger : RecoveryTrigger)
  | setRecovering (trigger : RecoveryTrigger)
  | beginRecovery (trigger : RecoveryTrigger)
  | sourceStop (trigger : RecoveryTrigger)
  | reopen (trigger : RecoveryTrigger) (stopResult : CameraResult Unit)
  | loadStoppingStart (trigger : RecoveryTrigger)
  | sourceStart (trigger : RecoveryTrigger)
  | firstFrame (trigger : RecoveryTrigger)
  | loadStoppingOutcome (trigger : RecoveryTrigger) (result : CameraResult Unit)
  | abandonStop
  | endRecovery
  | setStreaming
  | retryStop (trigger : RecoveryTrigger) (error : CameraError)
  | retryHubStop (trigger : RecoveryTrigger) (error : CameraError)
  | setFailed (error : CameraError)
  | storeStopping
  | disableRecovery
  | endRecoveryFailed
  | hubStop
  | finalStop
  | terminalMetrics
  | storeClosed
  | storeBusy
  | unlockContinue
  | unlockBreak

/-- The local variables of the recovery loop. -/
structure RecoveryVars where
  policy : ReconnectPolicy
  attempt : Nat := 0
  pending : Option RecoveryTrigger := none

inductive Pc
  | start (pc : StartPc)
  | startTask (pc : StartTaskPc)
  | dropSession
  | requestStop (thenStop : Bool) (pc : RequestStopPc)
  | stop (pc : StopPc)
  | recovery (vars : RecoveryVars) (pc : RecoveryPc)
  | finished

/-- Calls on the `Camera` itself: `start_inner` before a session exists, `close`. -/
inductive DevicePc
  | swapBusy (candidates : Nat) (policy : Option ReconnectPolicy)
  | configure (candidates : Nat) (policy : Option ReconnectPolicy)
  | configureFailed
  | closeLoadBusy
  | closeStore
  | closeRelease

inductive Task
  | absent
  | device (pc : DevicePc)
  | on (session : SessionId) (pc : Pc)
  | done

def Task.isDone : Task → Bool
  | .done | .on _ .finished => true
  | _ => false

/-- `SessionInner`. `receiver` and `outcome` are the two ends of the one-shot
channel of `start_inner`, `handle` the owning `CaptureSession`. The last three
fields record who acts for the session: the code never reads them. -/
structure SessionInner where
  state : SessionState
  stopping : Bool
  closed : Bool
  lifecycle : Option TaskId
  terminalMetrics : Option (FrameMetrics × StreamStats)
  receiver : Bool
  outcome : Option (CameraResult Unit)
  handle : Bool
  caller : TaskId
  starter : Option TaskId
  launched : Bool

/-- The `SessionInner` that `start_inner`, run by task `caller`, creates. -/
def SessionInner.fresh (caller : TaskId) : SessionInner where
  state := .starting
  stopping := false
  closed := false
  lifecycle := none
  terminalMetrics := none
  receiver := true
  outcome := none
  handle := false
  caller := caller
  starter := none
  launched := false

/-- `borrower` is the last call that took the `Camera` by `&mut self`. -/
structure Device where
  native : Bool := true
  busy : Bool := false
  closed : Bool := false
  hub : HubView := {}
  borrower : Option TaskId := none
  created : Nat := 0
  sessions : SessionId → SessionInner := fun _ => .fresh 0
  spawned : Nat := 0
  tasks : TaskId → Task := fun _ => .absent

namespace Device

/-- Started or starting, and not closed. -/
def Live (d : Device) (s : SessionId) : Prop :=
  s < d.created ∧ (d.sessions s).closed = false

instance (d : Device) (s : SessionId) : Decidable (d.Live s) :=
  inferInstanceAs (Decidable (s < d.created ∧ (d.sessions s).closed = false))

def setTask (d : Device) (i : TaskId) (task : Task) : Device :=
  { d with tasks := Function.update d.tasks i task }

def setInner (d : Device) (s : SessionId) (inner : SessionInner) : Device :=
  { d with sessions := Function.update d.sessions s inner }

def setHub (d : Device) (hub : HubView) : Device := { d with hub := hub }

def setBusy (d : Device) (busy : Bool) : Device := { d with busy := busy }

def spawn (d : Device) (task : Task) : Device :=
  { d with spawned := d.spawned + 1, tasks := Function.update d.tasks d.spawned task }

/-- No call that holds the `Camera` by `&mut self` is under way. -/
def free (d : Device) : Bool :=
  d.borrower.all fun i => (d.tasks i).isDone

end Device

end CameraRs.Session

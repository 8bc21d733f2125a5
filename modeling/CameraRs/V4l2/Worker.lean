/-
The capture worker of a V4L2 camera and the callers that start and stop it.

`start`, `stop`, `get_config` and `set_buffer_size` hold the mutex of the state from their first
access of it to their answer; a worker never takes it. The accesses of the hub, of the wake socket
and of the channel are steps, and so are the calls of the driver.
-/

import CameraRs.Config
import CameraRs.Lib.Machine
import Mathlib.Logic.Function.Basic

namespace CameraRs.V4l2

abbrev ThreadId := Nat
abbrev ClientId := Nat

inductive Request
  | start (config : CameraConfig)
  | stop
  | getConfig
  | setBufferSize (size : Nat)

inductive Reply
  | done (result : CameraResult Unit)
  | config (config : Option CameraConfig)

/-- What follows `stop_locked`: the answer of `stop`, the launch of a worker, or the error of a
failed start. -/
inductive Continuation
  | answer
  | launch (config : CameraConfig)
  | refuse (e : CameraError)

/-- A caller before the access that is named. -/
inductive ClientPc
  | idle
  | locking (request : Request)
  | checking (request : Request)
  | stopping (after : Continuation)
  | waking (after : Continuation)
  | joining (w : ThreadId) (after : Continuation)
  | pairing (config : CameraConfig)
  | beginning (config : CameraConfig)
  | spawning (config : CameraConfig)
  | unwinding (e : CameraError)
  | receiving (w : ThreadId)

/-- A worker before the call that is named; in `dropping` only its `StopHub` is left. A result is
`none` after a panic. -/
inductive ThreadPc
  | setup
  | reporting (result : CameraResult CameraConfig)
  | capturing (actual : CameraConfig)
  | dropping (result : Option (CameraResult Unit))
  | ended (result : Option (CameraResult Unit))

/-- `message` is what it sent to its `start`, and `listening` whether `start` still has the
receiver. -/
structure Thread where
  config : CameraConfig
  buffers : Nat
  session : Nat
  pc : ThreadPc := .setup
  woken : Bool := false
  listening : Bool := true
  message : Option (CameraResult CameraConfig) := none

/-- `Inner` with its state, the hub and the threads. -/
structure Inner where
  lock : Option ClientId := none
  worker : Option ThreadId := none
  wake : Option ThreadId := none
  config : Option CameraConfig := none
  buffers : Nat
  active : Bool := false
  session : Nat := 0
  nextSession : Nat := 1
  spawned : Nat := 0
  threads : ThreadId → Option Thread := fun _ => none
  clients : ClientId → ClientPc := fun _ => .idle
  replies : List (ClientId × Reply) := []
  published : List (ThreadId × Nat) := []

/-- What `Stream::next` and the callback in it come to. -/
inductive Next
  | frame
  | damaged
  | timedOut (stalled : Bool)
  | failed (e : CameraError)
  | panicked

/-- The answers to the calls of one step. -/
structure Outcome where
  setup : Option (CameraResult CameraConfig)
  next : Next
  stop : CameraResult Unit
  failure : Option CameraError

/-- A request comes in, another camera of the process takes a session number, or somebody takes
the next step. -/
inductive WorkerAction
  | request (k : ClientId) (request : Request)
  | elsewhere
  | client (k : ClientId) (outcome : Outcome)
  | thread (w : ThreadId) (outcome : Outcome)

/-- The first checks of `start`. -/
def startable (config : CameraConfig) : CameraResult Unit := do
  config.validate
  if config.format = .h264 then
    .error (.unsupportedFormat ("V4L2 cannot decode " ++ config.format.name))
  else .ok ()

def Request.admit : Request → CameraResult Unit
  | .start config => startable config
  | .setBufferSize size =>
      if 2 ≤ size ∧ size ≤ 32 then .ok ()
      else .error (.invalidConfig "V4L2 buffer count must be between 2 and 32")
  | _ => .ok ()

def joined : Option (CameraResult Unit) → CameraResult Unit
  | some result => result
  | none => .error (.streamError "V4L2 capture worker panicked")

namespace Inner

variable (s : Inner)

def at' (k : ClientId) (pc : ClientPc) : Inner :=
  { s with clients := Function.update s.clients k pc }

/-- The answer, after which the guard of the mutex is dropped. -/
def reply (k : ClientId) (reply : Reply) : Inner :=
  { s with
    lock := none
    clients := Function.update s.clients k .idle
    replies := s.replies ++ [(k, reply)] }

def setThread (w : ThreadId) (t : Thread) : Inner :=
  { s with threads := Function.update s.threads w (some t) }

@[simp] theorem setThread_self {w : ThreadId} {t : Thread} :
    (s.setThread w t).threads w = some t :=
  Function.update_self _ _ _

theorem setThread_other {v w : ThreadId} {t : Thread} (other : v ≠ w) :
    (s.setThread w t).threads v = s.threads v :=
  Function.update_of_ne other _ _

/-- What follows `stop_locked` with the result of the worker. -/
def proceed (k : ClientId) (result : CameraResult Unit) : Continuation → Inner
  | .answer => s.reply k (.done result)
  | .launch config => s.at' k (.pairing config)
  | .refuse e => s.reply k (.done (.error e))

/-- The access of the hub under the lock that comes first. -/
def check (k : ClientId) : Request → Inner
  | .start config =>
      if s.active then
        s.reply k (.done (if s.config = some config then .ok ()
          else .error (.streamError "Stop the V4L2 stream before changing configuration")))
      else s.at' k (.stopping (.launch config))
  | .stop => s.at' k (.stopping .answer)
  | .getConfig => s.reply k (.config (if s.active then s.config else none))
  | .setBufferSize size =>
      if s.active then
        s.reply k (.done (.error (.streamError "Stop V4L2 before changing buffer count")))
      else { s with buffers := size }.reply k (.done (.ok ()))

def wakeWorker : Inner :=
  match s.wake.bind fun w => (s.threads w).map fun t => (w, t) with
  | some (w, t) => { s.setThread w { t with woken := true } with wake := none, config := none }
  | none => { s with wake := none, config := none }

/-- `stop_locked` behind `hub.stop()` up to the join. -/
def takeWorker (k : ClientId) (after : Continuation) : Inner :=
  match s.worker with
  | some w => { s.wakeWorker with worker := none }.at' k (.joining w after)
  | none => s.wakeWorker.proceed k (.ok ()) after

/-- The new thread with what the closure captured. -/
def spawn (k : ClientId) (config : CameraConfig) : Inner :=
  { s.setThread s.spawned { config := config, buffers := s.buffers, session := s.session } with
    spawned := s.spawned + 1
    worker := some s.spawned
    wake := some s.spawned }.at' k (.receiving s.spawned)

@[simp] theorem spawn_self {k : ClientId} {config : CameraConfig} :
    (s.spawn k config).threads s.spawned =
      some { config := config, buffers := s.buffers, session := s.session } :=
  Function.update_self _ _ _

theorem spawn_other {k : ClientId} {config : CameraConfig} {v : ThreadId} (old : v ≠ s.spawned) :
    (s.spawn k config).threads v = s.threads v :=
  Function.update_of_ne old _ _

/-- `receiver.recv()`; it waits while nothing was sent and the sender is alive. -/
def receive (k : ClientId) (w : ThreadId) (t : Thread) : Option Inner :=
  let s := s.setThread w { t with listening := false }
  match t.message with
  | some (.ok actual) => some ({ s with config := some actual }.reply k (.done (.ok ())))
  | some (.error e) => some (s.at' k (.stopping (.refuse e)))
  | none =>
      match t.pc with
      | .ended _ =>
          some (s.at' k (.stopping (.refuse (.streamError "V4L2 worker exited during startup"))))
      | _ => none

def client (k : ClientId) (outcome : Outcome) : Option Inner :=
  match s.clients k with
  | .idle => none
  | .locking request =>
      match s.lock with
      | some _ => none
      | none => some ({ s with lock := some k }.at' k (.checking request))
  | .checking request => some (s.check k request)
  | .stopping after => some ({ s with active := false }.at' k (.waking after))
  | .waking after => some (s.takeWorker k after)
  | .joining w after =>
      match (s.threads w).map Thread.pc with
      | some (.ended result) => some (s.proceed k (joined result) after)
      | _ => none
  | .pairing config =>
      match outcome.failure with
      | some e => some (s.reply k (.done (.error e)))
      | none => some (s.at' k (.beginning config))
  | .beginning config =>
      some ({ s with
        active := true
        session := s.nextSession
        nextSession := s.nextSession + 1 }.at' k (.spawning config))
  | .spawning config =>
      match outcome.failure with
      | some e => some (s.at' k (.unwinding e))
      | none => some (s.spawn k config)
  | .unwinding e => some ({ s with active := false }.reply k (.done (.error e)))
  | .receiving w =>
      match s.threads w with
      | some t => s.receive k w t
      | none => none

/-- One turn of the capture loop; a worker that was woken gets no more buffers. -/
def capture (w : ThreadId) (t : Thread) (outcome : Outcome) : Inner :=
  match outcome.next with
  | .failed e => s.setThread w { t with pc := .dropping (some (.error e)) }
  | next =>
      if t.woken then s.setThread w { t with pc := .dropping (some outcome.stop) }
      else
        match next with
        | .frame =>
            if s.active ∧ t.session = s.session then
              { s with published := s.published ++ [(w, s.session)] }
            else s
        | .timedOut true =>
            s.setThread w { t with
              pc := .dropping (some (.error
                (.streamError "V4L2 delivered no buffers for 5 seconds"))) }
        | .panicked => s.setThread w { t with pc := .dropping none }
        | _ => s

def thread (w : ThreadId) (outcome : Outcome) : Option Inner :=
  match s.threads w with
  | none => none
  | some t =>
      match t.pc with
      | .setup =>
          match outcome.setup with
          | some result => some (s.setThread w { t with pc := .reporting result })
          | none => some (s.setThread w { t with pc := .dropping none })
      | .reporting result =>
          let sent := { t with message := if t.listening then some result else t.message }
          match result with
          | .ok actual =>
              if t.listening then some (s.setThread w { sent with pc := .capturing actual })
              else some (s.setThread w { sent with pc := .dropping (some (.ok ())) })
          | .error _ => some (s.setThread w { sent with pc := .dropping (some (.ok ())) })
      | .capturing _ => some (s.capture w t outcome)
      | .dropping result =>
          some { s.setThread w { t with pc := .ended result } with active := false }
      | .ended _ => none

def step : WorkerAction → Option Inner
  | .request k request =>
      match s.clients k with
      | .idle =>
          match request.admit with
          | .error e => some { s with replies := s.replies ++ [(k, .done (.error e))] }
          | .ok _ => some (s.at' k (.locking request))
      | _ => none
  | .elsewhere => some { s with nextSession := s.nextSession + 1 }
  | .client k outcome => s.client k outcome
  | .thread w outcome => s.thread w outcome

end Inner

/-- A camera that was opened with a number of buffers. -/
def workerMachine : Lib.Machine Inner WorkerAction where
  initial s := ∃ buffers, s = { buffers := buffers }
  step := Inner.step

end CameraRs.V4l2

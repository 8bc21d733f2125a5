/-
Camera objects that one `NativeSource` opens, one after the other, on its hub.

`reopen` takes the camera out of the source and opens the device again. A camera object
lives until its last clone is dropped, and an open that is given up goes on in its worker
thread. Dropping a camera object and dropping a worker stop the hub.
-/

import CameraRs.MediaFoundation.Worker
import Mathlib.Data.List.Basic

namespace CameraRs.MediaFoundation

abbrev CameraId := Nat
abbrev ThreadId := Nat

/-- The thread of `new_selected`: before there is a `Worker`, about to announce it, inside
`Worker::run`, about to drop the `Worker`, at its end. -/
inductive WorkerThread
  | opening
  | announcing
  | running
  | dropping
  | gone
deriving DecidableEq

/-- What one call of `new_selected` makes. `ready` is what its channel has been sent, a
camera or an error; `awaited` tells whether the caller still receives. -/
structure Opened where
  thread : WorkerThread := .opening
  ready : Option Bool := none
  awaited : Bool := true
  state : State := {}

/-- A thread outside the workers before the statement that is named. `reopens` goes on
with `create_selected_camera` afterwards. -/
inductive Thread
  | take (reopens : Bool)
  | release (c : CameraId) (reopens : Bool)
  | join (c : CameraId) (reopens : Bool)
  | create
  | await (c : CameraId)
  | joinFailed (c : CameraId)
  | store (c : CameraId)
  | control (c : CameraId)
  | call (c : CameraId) (k : CallId)
  | done
deriving DecidableEq

def Thread.holds (c : CameraId) : Thread → Bool
  | .release d _ | .store d | .control d | .call d _ => d == c
  | _ => false

def Thread.following (reopens : Bool) : Thread := if reopens then .create else .done

/-- `camera` is the field of the source; cameras are numbered in the order in which they
are opened. `begun` records on behalf of which cameras the hub was started: the code never
reads it. -/
structure NativeSource where
  camera : Option CameraId := some 0
  session : Nat := 0
  streaming : Bool := false
  opened : Nat := 1
  cameras : CameraId → Opened := fun _ =>
    { thread := .running, ready := some true, awaited := false }
  threads : List Thread := []
  begun : List CameraId := []

inductive SourceAction
  | reopen
  | release
  | capabilities
  | control
  | call (start : Bool)
  | run (t : ThreadId) (ok gaveUp : Bool)
  | worker (c : CameraId) (native : Native)
  | onReadSample (c : CameraId) (epoch : Nat)
  | onFlush (c : CameraId)
  | hubStop

namespace NativeSource

def strongCount (v : NativeSource) (c : CameraId) : Nat :=
  v.camera.toList.count c + v.threads.countP (Thread.holds c)

def setThread (v : NativeSource) (t : ThreadId) (thread : Thread) : NativeSource :=
  { v with threads := v.threads.set t thread }

def spawn (v : NativeSource) (thread : Thread) : NativeSource :=
  { v with threads := v.threads ++ [thread] }

def setOpened (v : NativeSource) (c : CameraId) (opened : Opened) : NativeSource :=
  { v with cameras := Function.update v.cameras c opened }

def view (v : NativeSource) (c : CameraId) : State :=
  { (v.cameras c).state with
    worker :=
      { (v.cameras c).state.worker with hubSession := v.session, streaming := v.streaming } }

def adopt (v : NativeSource) (c : CameraId) (s : State) : NativeSource :=
  { v.setOpened c { v.cameras c with state := s } with
    session := s.worker.hubSession
    streaming := s.worker.streaming }

def dropCamera (v : NativeSource) (c : CameraId) : NativeSource :=
  let s := v.view c
  v.adopt c { s with worker := s.worker.hubStop.push .quit, dropped := true }

/-- The next statement of thread `t`; `ok` says whether the device was found and its
worker spawned, `gaveUp` whether a wait ends without an answer. -/
def runThread (v : NativeSource) (t : ThreadId) (ok gaveUp : Bool) :
    Thread → Option NativeSource
  | .take reopens =>
      some (({ v with camera := none }).setThread t
        (match v.camera with
        | some c => .release c reopens
        | none => .following reopens))
  | .release c reopens =>
      if v.strongCount c = 1 then some ((v.dropCamera c).setThread t (.join c reopens))
      else some (v.setThread t (.following reopens))
  | .join c reopens =>
      if (v.cameras c).thread = .gone then some (v.setThread t (.following reopens)) else none
  | .create =>
      if ok then
        some (({ v.setOpened v.opened {} with opened := v.opened + 1 }).setThread t
          (.await v.opened))
      else some (v.setThread t .done)
  | .await c =>
      if gaveUp then
        some ((v.setOpened c { v.cameras c with awaited := false }).setThread t .done)
      else
        match (v.cameras c).ready with
        | some true => some (v.setThread t (.store c))
        | some false => some (v.setThread t (.joinFailed c))
        | none => none
  | .joinFailed c =>
      if (v.cameras c).thread = .gone then some (v.setThread t .done) else none
  | .store c =>
      -- the assignment drops the camera that was there
      some (({ v with camera := some c }).setThread t
        (match v.camera with
        | some old => .release old false
        | none => .done))
  | .control c =>
      ((v.view c).step .other).map fun s => (v.adopt c s).setThread t (.release c false)
  | .call c k =>
      match (v.cameras c).state.calls k with
      | none => none
      | some call =>
          if call.pc = .returned then some (v.setThread t (.release c false))
          else ((v.view c).step (.run k gaveUp)).map (v.adopt c)
  | .done => none

def runWorker (v : NativeSource) (c : CameraId) (native : Native) : Option NativeSource :=
  let o := v.cameras c
  match o.thread with
  | .opening =>
      if native.ok then some (v.setOpened c { o with thread := .announcing })
      else some (v.setOpened c { o with thread := .gone, ready := some false })
  | .announcing =>
      if o.awaited then
        some (v.setOpened c { o with thread := .running, ready := some true })
      else some (v.setOpened c { o with thread := .dropping })
  | .running =>
      if o.state.worker.pc = .ended then some (v.setOpened c { o with thread := .dropping })
      else ((v.view c).step (.worker native)).map (v.adopt c)
  | .dropping => some { v.setOpened c { o with thread := .gone } with streaming := false }
  | .gone => none

end NativeSource

def Worker.fails (w : Worker) (cancelled : CallId → Bool) (native : Native) : Bool :=
  match w.pc with
  | .idle =>
      match w.queue with
      | .stop _ :: _ | .quit :: _ => true
      | _ => false
  | .read _ | .reread => !native.ok
  | .recheck k _ => cancelled k
  | .process _ =>
      match native.sample with
      | .failed => true
      | _ => false
  | _ => false

/-- The next step of the worker calls `FrameHub::start`. -/
def WorkerPc.begins : WorkerPc → Bool
  | .begin _ => true
  | _ => false

namespace NativeSource

def starts (v : NativeSource) : SourceAction → Option CameraId
  | .worker c _ =>
      if (v.cameras c).thread = .running ∧ (v.cameras c).state.worker.pc.begins = true then some c
      else none
  | _ => none

def stops (v : NativeSource) : SourceAction → Option CameraId
  | .run t _ _ =>
      match v.threads[t]? with
      | some (.release c _) => if v.strongCount c = 1 then some c else none
      | some (.call c k) =>
          if ((v.cameras c).state.calls k).any (·.pc = .hubStop) then some c else none
      | _ => none
  | .worker c native =>
      match (v.cameras c).thread with
      | .dropping => some c
      | .running =>
          if (v.cameras c).state.worker.fails (v.cameras c).state.cancelled native then some c
          else none
      | _ => none
  | _ => none

/-- Cameras are cloned by whoever finds one in the source. `capabilities` reads what the
open has stored, so that only the drop of its clone is left to do. -/
def act (v : NativeSource) : SourceAction → Option NativeSource
  | .reopen => some (v.spawn (.take true))
  | .release => some (v.spawn (.take false))
  | .capabilities => v.camera.map fun c => v.spawn (.release c false)
  | .control => v.camera.map fun c => v.spawn (.control c)
  | .call start => v.camera.bind fun c =>
      ((v.view c).step (.call start)).map fun s =>
        (v.adopt c s).spawn (.call c (v.cameras c).state.issued)
  | .run t ok gaveUp => v.threads[t]?.bind (v.runThread t ok gaveUp)
  | .worker c native => if c < v.opened then v.runWorker c native else none
  | .onReadSample c epoch =>
      if c < v.opened ∧ (v.cameras c).thread = .running then
        ((v.view c).step (.onReadSample epoch)).map (v.adopt c)
      else none
  | .onFlush c =>
      if c < v.opened ∧ (v.cameras c).thread = .running then
        ((v.view c).step .onFlush).map (v.adopt c)
      else none
  | .hubStop => some { v with streaming := false }

def step (v : NativeSource) (a : SourceAction) : Option NativeSource :=
  (v.act a).map fun v' => { v' with begun := v.begun ++ (v.starts a).toList }

end NativeSource

def sourceMachine : Lib.Machine NativeSource SourceAction where
  initial v := v = {}
  step := NativeSource.step

end CameraRs.MediaFoundation

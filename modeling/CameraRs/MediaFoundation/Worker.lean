/-
The Media Foundation worker, its event queue and the callers that wait for it.

One thread owns the source reader. Calls, the callbacks of the reader and the quit message
reach it through one queue. A caller of `start_sync` or `stop_sync` holds the `lifecycle`
lock and may give up waiting at any time. A flush that completes discards the requests that
were outstanding; no sample arrives for them afterwards.
-/

import CameraRs.Lib.Machine
import Mathlib.Logic.Function.Basic

namespace CameraRs.MediaFoundation

abbrev CallId := Nat

/-- A sample carries the epoch in which it was requested; the code has no such field. -/
inductive Event
  | start (k : CallId)
  | other
  | stop (k : CallId)
  | flushed
  | sample (epoch : Nat)
  | quit
deriving DecidableEq

inductive Answer
  | ok
  | error
  | timeout
deriving DecidableEq

/-- The closure of `start_sync` from its first look at the flag to its answer, the `Flush`
of a `Stop`, and what follows a sample. -/
inductive WorkerPc
  | idle
  | check (k : CallId)
  | guard (k : CallId)
  | begin (k : CallId)
  | read (k : CallId)
  | recheck (k : CallId) (answer : Answer)
  | answer (k : CallId) (answer : Answer)
  | flush (k : CallId)
  | process (epoch : Nat)
  | reread
  | ended
deriving DecidableEq

/-- The reader's requests and the hub are part of the state, and so are the published
samples with the session they were published under. -/
structure Worker where
  queue : List Event := []
  pc : WorkerPc := .idle
  running : Bool := false
  stopping : Option CallId := none
  session : Nat := 0
  hubSession : Nat := 0
  streaming : Bool := false
  outstanding : List Nat := []
  flushing : Bool := false
  answers : List (CallId × Answer) := []
  replies : List CallId := []
  published : List (Nat × Nat) := []
  flushFailed : Bool := false

inductive SampleOutcome
  | failed
  | empty
  | frame

/-- The results of the native calls of one step. -/
structure Native where
  ok : Bool
  sample : SampleOutcome

namespace Worker

/-- Nobody receives once the worker has ended. -/
def push (w : Worker) (event : Event) : Worker :=
  match w.pc with
  | .ended => w
  | _ => { w with queue := w.queue ++ [event] }

def hubStop (w : Worker) : Worker := { w with streaming := false }

def fail (w : Worker) : Worker := { w with running := false, streaming := false }

/-- `Worker::run` for the next event. -/
def take (w : Worker) : Option Worker :=
  match w.queue with
  | [] => none
  | event :: rest =>
      let w := { w with queue := rest }
      match event with
      | .start k => some { w with pc := .check k }
      | .other => some w
      | .stop k =>
          match w.stopping with
          | some _ => some { w.fail with replies := w.replies ++ [k] }
          | none => some { w.fail with pc := .flush k }
      | .flushed =>
          match w.stopping with
          | some k => some { w with stopping := none, replies := w.replies ++ [k] }
          | none => some w
      | .sample epoch => some (if w.running then { w with pc := .process epoch } else w)
      | .quit => some { w.fail with pc := .ended }

/-- The guard of `Worker::start` and its format setup. -/
def letIn (w : Worker) (native : Native) : Bool :=
  !w.running && w.stopping.isNone && native.ok

def run (w : Worker) (cancelled : CallId → Bool) (native : Native) : Option Worker :=
  match w.pc with
  | .idle => w.take
  | .check k => some { w with pc := if cancelled k then .answer k .timeout else .guard k }
  | .guard k => some { w with pc := if w.letIn native then .begin k else .recheck k .error }
  | .begin k =>
      some { w with
        hubSession := w.hubSession + 1
        streaming := true
        session := w.hubSession + 1
        running := true
        pc := .read k }
  | .read k =>
      if native.ok then
        some { w with outstanding := w.outstanding ++ [w.session], pc := .recheck k .ok }
      else some { w.fail with pc := .recheck k .error }
  | .recheck k answer =>
      if cancelled k then some { w.fail with pc := .answer k .timeout }
      else some { w with pc := .answer k answer }
  | .answer k answer => some { w with answers := w.answers ++ [(k, answer)], pc := .idle }
  | .flush k =>
      if native.ok then some { w with stopping := some k, flushing := true, pc := .idle }
      else some { w with replies := w.replies ++ [k], flushFailed := true, pc := .idle }
  | .process epoch =>
      match native.sample with
      | .failed => some { w.fail with pc := .idle }
      | .empty => some { w with pc := .reread }
      | .frame => some { w with published := w.published ++ [(epoch, w.session)], pc := .reread }
  | .reread =>
      if native.ok then some { w with outstanding := w.outstanding ++ [w.session], pc := .idle }
      else some { w.fail with pc := .idle }
  | .ended => none

def onReadSample (w : Worker) (epoch : Nat) : Option Worker :=
  if epoch ∈ w.outstanding then
    some ({ w with outstanding := w.outstanding.erase epoch }.push (.sample epoch))
  else none

def onFlush (w : Worker) : Option Worker :=
  if w.flushing then some ({ w with flushing := false, outstanding := [] }.push .flushed)
  else none

end Worker

/-- `start_sync` and `stop_sync`; they share the part that stops the hub and sends `Stop`. -/
inductive CallPc
  | lock
  | check
  | send
  | wait
  | cancel
  | hubStop
  | sendStop
  | awaitStop
  | unlock
  | returned
deriving DecidableEq

/-- `timedOut` is set where a start that gave up has sent its `Stop`. -/
structure Call where
  start : Bool
  pc : CallPc := .lock
  cancelled : Bool := false
  timedOut : Bool := false

structure State where
  worker : Worker := {}
  lifecycle : Option CallId := none
  issued : Nat := 0
  calls : CallId → Option Call := fun _ => none
  lastStart : Option CallId := none
  dropped : Bool := false

inductive Action
  | call (start : Bool)
  | other
  | run (k : CallId) (gaveUp : Bool)
  | worker (native : Native)
  | onReadSample (epoch : Nat)
  | onFlush
  | drop

namespace State

def setCall (s : State) (k : CallId) (call : Call) : State :=
  { s with calls := Function.update s.calls k (some call) }

def cancelled (s : State) (k : CallId) : Bool := (s.calls k).any Call.cancelled

def answered (s : State) (k : CallId) : Option Answer :=
  (s.worker.answers.find? fun answer => answer.1 == k).map Prod.snd

/-- One step of `start_sync` or `stop_sync`; `gaveUp` says whether a wait ends without an
answer. -/
def runCall (s : State) (k : CallId) (call : Call) (gaveUp : Bool) : Option State :=
  match call.pc with
  | .lock =>
      if s.lifecycle.isNone then
        some { s.setCall k { call with pc := if call.start then .check else .hubStop } with
          lifecycle := some k }
      else none
  | .check => some (s.setCall k { call with pc := if s.worker.streaming then .unlock else .send })
  | .send =>
      if s.worker.pc = .ended then some (s.setCall k { call with pc := .unlock })
      else
        some { s.setCall k { call with pc := .wait } with
          worker := s.worker.push (.start k)
          lastStart := some k }
  | .wait =>
      if gaveUp then some (s.setCall k { call with pc := .cancel })
      else
        match s.answered k with
        | some .timeout => some (s.setCall k { call with pc := .cancel })
        | some _ => some (s.setCall k { call with pc := .unlock })
        | none => none
  | .cancel => some (s.setCall k { call with pc := .hubStop, cancelled := true })
  | .hubStop => some { s.setCall k { call with pc := .sendStop } with worker := s.worker.hubStop }
  | .sendStop =>
      let later := { call with
        pc := if call.start then .unlock else .awaitStop
        timedOut := call.start }
      some { s.setCall k later with worker := s.worker.push (.stop k) }
  | .awaitStop =>
      if gaveUp ∨ k ∈ s.worker.replies then some (s.setCall k { call with pc := .unlock }) else none
  | .unlock => some { s.setCall k { call with pc := .returned } with lifecycle := none }
  | .returned => none

/-- Every call so far has returned, as it has when the last owner drops the camera. -/
def quiet (s : State) : Bool :=
  (List.range s.issued).all fun k => (s.calls k).all fun call => decide (call.pc = .returned)

def step (s : State) : Action → Option State
  | .call start =>
      if s.dropped then none
      else some { s.setCall s.issued { start := start } with issued := s.issued + 1 }
  | .other => if s.dropped then none else some { s with worker := s.worker.push .other }
  | .run k gaveUp =>
      match s.calls k with
      | none => none
      | some call => s.runCall k call gaveUp
  | .worker native => (s.worker.run s.cancelled native).map fun w => { s with worker := w }
  | .onReadSample epoch => (s.worker.onReadSample epoch).map fun w => { s with worker := w }
  | .onFlush => s.worker.onFlush.map fun w => { s with worker := w }
  | .drop =>
      if s.quiet ∧ s.dropped = false then
        some { s with worker := s.worker.hubStop.push .quit, dropped := true }
      else none

end State

def machine : Lib.Machine State Action where
  initial s := s = {}
  step := State.step

end CameraRs.MediaFoundation

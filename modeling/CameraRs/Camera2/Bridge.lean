/-
The Camera2 bridge: one capture session behind `session_mutex`, and the callbacks of the NDK.

Every section of `callback_mutex` and every access to `streaming` is one step. A start is
known by the number it gets when it is called; its callback and the device it opens carry
that number. No callback of a device arrives once `ACameraDevice_close` has returned.
-/

import CameraRs.Lib.Machine

namespace CameraRs.Camera2

abbrev StartId := Nat

/-- `NdkCameraStatus`, as far as `start_streaming` returns it. -/
inductive Status
  | ok
  | notFound
  | invalidParam
  | alreadyStreaming
  | internal
  | openFailed
  | sessionFailed
deriving DecidableEq

/-- What follows `cleanup_streaming`. -/
inductive Cleanup
  | begin (k : StartId)
  | fail (k : StartId) (status : Status)
  | stop
deriving DecidableEq

/-- Where the holder of `session_mutex` is. -/
inductive Section
  | check (k : StartId)
  | cleanup (next : Cleanup)
  | clearCallback (next : Cleanup)
  | closeDevice (next : Cleanup)
  | deleteReader (next : Cleanup)
  | setCallback (k : StartId)
  | newReader (k : StartId)
  | getWindow (k : StartId)
  | openCamera (k : StartId)
  | captureRequest (k : StartId)
  | createSession (k : StartId)
  | setRepeating (k : StartId)
  | store (k : StartId)
  | answer (k : StartId) (status : Status)
  | stop (wasStreaming : Bool)
deriving DecidableEq

/-- `stops` holds what `exchange` told the stops that wait for the mutex. The last five fields
record what has been observed; `stopping` is set by a stop of the device that is open. -/
structure State where
  devices : Nat
  streaming : Bool := false
  frameCb : Option StartId := none
  cameraDevice : Option StartId := none
  imageReader : Bool := false
  sessionMutex : Option Section := none
  stops : List Bool := []
  issued : Nat := 0
  returned : List (StartId × Status) := []
  frames : List StartId := []
  nullFrames : List StartId := []
  cleared : List StartId := []
  lost : List StartId := []
  stopping : Bool := false

inductive Action
  | startStreaming (deviceIndex : Int) (given : Bool)
  | stopStreaming
  | lockStop (i : Nat)
  | run (ok : Bool)
  | onImageAvailable (acquired : Bool)
  | onDeviceDisconnected
  | onDeviceError

def Cleanup.after : Cleanup → Option Section
  | .begin k => some (.setCallback k)
  | .fail k status => some (.answer k status)
  | .stop => none

namespace State

def hasResources (s : State) : Bool := s.cameraDevice.isSome || s.imageReader

def goto (s : State) (next : Section) : State := { s with sessionMutex := some next }

/-- The next step of `start_streaming`, `stop_streaming` or `cleanup_streaming`; `ok` is the
result of the native calls of that step. -/
def runSection (s : State) (ok : Bool) : Section → State
  | .check k =>
      if s.streaming then s.goto (.answer k .alreadyStreaming) else s.goto (.cleanup (.begin k))
  | .cleanup next => { s.goto (.clearCallback next) with streaming := false }
  | .clearCallback next =>
      { s.goto (.closeDevice next) with frameCb := none, cleared := s.cleared ++ s.frameCb.toList }
  | .closeDevice next => { s.goto (.deleteReader next) with cameraDevice := none }
  | .deleteReader next => { s with sessionMutex := next.after, imageReader := false }
  | .setCallback k => { s.goto (.newReader k) with frameCb := some k }
  | .newReader k =>
      if ok then { s.goto (.getWindow k) with imageReader := true }
      else s.goto (.cleanup (.fail k .internal))
  | .getWindow k => s.goto (if ok then .openCamera k else .cleanup (.fail k .internal))
  | .openCamera k =>
      if ok then { s.goto (.captureRequest k) with cameraDevice := some k, stopping := false }
      else s.goto (.cleanup (.fail k .openFailed))
  | .captureRequest k => s.goto (if ok then .createSession k else .cleanup (.fail k .invalidParam))
  | .createSession k => s.goto (if ok then .setRepeating k else .cleanup (.fail k .sessionFailed))
  | .setRepeating k => s.goto (if ok then .store k else .cleanup (.fail k .sessionFailed))
  | .store k => { s.goto (.answer k .ok) with streaming := true }
  | .answer k status => { s with sessionMutex := none, returned := s.returned ++ [(k, status)] }
  | .stop wasStreaming =>
      if !wasStreaming && !s.hasResources then { s with sessionMutex := none }
      else s.goto (.cleanup .stop)

def reportLost (s : State) (k : StartId) : State :=
  { s with lost := if s.stopping then s.lost else s.lost ++ [k] }

def sendNull (s : State) : State :=
  { s with streaming := false, nullFrames := s.nullFrames ++ s.frameCb.toList }

def onDeviceLost (s : State) : Option State :=
  s.cameraDevice.map fun k => (if s.streaming then s.sendNull else s).reportLost k

def onImageAvailable (s : State) (acquired : Bool) : Option State :=
  if s.imageReader then
    if s.streaming && acquired then some { s with frames := s.frames ++ s.frameCb.toList } else some s
  else none

def refuse (s : State) (status : Status) : State :=
  { s with issued := s.issued + 1, returned := s.returned ++ [(s.issued, status)] }

def step (s : State) : Action → Option State
  | .startStreaming deviceIndex given =>
      if deviceIndex < 0 ∨ deviceIndex ≥ s.devices then some (s.refuse .notFound)
      else if !given then some (s.refuse .invalidParam)
      else if s.sessionMutex.isSome then none
      else some { s.goto (.check s.issued) with issued := s.issued + 1 }
  | .stopStreaming =>
      some { s with streaming := false, stops := s.stops ++ [s.streaming], stopping := true }
  | .lockStop i =>
      if s.sessionMutex.isSome then none
      else (s.stops[i]?).map fun wasStreaming =>
        { s.goto (.stop wasStreaming) with stops := s.stops.eraseIdx i, stopping := true }
  | .run ok => s.sessionMutex.map (s.runSection ok)
  | .onImageAvailable acquired => s.onImageAvailable acquired
  | .onDeviceDisconnected => s.onDeviceLost
  | .onDeviceError => s.onDeviceLost

end State

def machine : Lib.Machine State Action where
  initial s := s = { devices := s.devices }
  step := State.step

end CameraRs.Camera2

/-
One JNI handle and the calls that are made on it.

A call is followed from one shared access to the next. Starting a session, shutting one
down and the whole section that holds the reader are one access each. A lock is never
poisoned, since no section panics.
-/

import CameraRs.Lib.Machine
import Mathlib.Logic.Function.Basic

namespace CameraRs.Android

abbrev SessionId := Nat
abbrev CallId := Nat

/-- A `Session` that `Device::start` has returned; `native` is the output mode the start
was called with, which the session itself does not know. -/
structure Session where
  native : Bool
  stopping : Bool := false
  closed : Bool := false

/-- A frame belongs to the session whose receiver handed it out. -/
structure Frame where
  session : SessionId
deriving DecidableEq

structure Reader where
  session : SessionId
  pending : Option Frame

/-- How the bytes of a frame were written to the direct buffer. -/
inductive Encoding
  | native
  | rgb8
  | argb8
deriving DecidableEq

def Encoding.isNative : Encoding → Bool
  | .native => true
  | _ => false

/-- `start_handle` once its arguments are accepted. -/
inductive StartPc
  | lookup
  | gate
  | loadClosed
  | cameraStart
  | storeOutput (s : SessionId)
  | storeSession (s : SessionId)
  | unlock
  | returned

/-- What `nativeStop` and `nativeClose` do from the lifecycle gate on. -/
inductive ShutdownPc
  | gate
  | takeSession
  | requestStop (s : SessionId)
  | stop (s : SessionId)
  | unlock
  | returned

inductive NextFramePc
  | lookup
  | session
  | loadOutput (s : SessionId)
  | reader (s : SessionId) (native : Bool)
  | returned (frame : Option (Frame × Encoding))

/-- `nativeMetrics`; the control calls stop before the reader. -/
inductive QueryPc
  | lookup
  | session
  | reader
  | returned

inductive Call
  | start (native : Bool) (pc : StartPc)
  | stopLookup
  | stopAbsent
  | closeRemove
  | closeAbsent
  | closeStore
  | shutdown (closing : Bool) (pc : ShutdownPc)
  | nextFrame (argb : Bool) (pc : NextFramePc)
  | query (metrics : Bool) (pc : QueryPc)

/-- `Handle` with its entry in the registry, and the `busy` flag of its camera. -/
structure Handle where
  registered : Bool := true
  closed : Bool := false
  lifecycle : Option CallId := none
  session : Option SessionId := none
  reader : Option Reader := none
  nativeOutput : Bool := true
  busy : Bool := false
  created : Nat := 0
  sessions : SessionId → Session := fun _ => { native := true }
  issued : Nat := 0
  calls : CallId → Option Call := fun _ => none

/-- What is not decided by the handle: whether a start, a wait for a frame or the copy
of one succeeds. -/
structure Env where
  started : Bool := true
  received : Bool := true
  copied : Bool := true

inductive Effect
  | read
  | remove
  | storeClosed
  | lock
  | unlock
  | startSession (native : Bool)
  | storeOutput (native : Bool)
  | storeSession (s : SessionId)
  | takeSession
  | requestStop (s : SessionId)
  | stop (s : SessionId)
  | storeReader (reader : Reader)

def Handle.startNext (h : Handle) (native : Bool) (env : Env) :
    StartPc → Option (Call × Effect)
  | .lookup => some (.start native (if h.registered then .gate else .returned), .read)
  | .gate =>
      if h.lifecycle.isNone then some (.start native .loadClosed, .lock) else none
  | .loadClosed => some (.start native (if h.closed then .unlock else .cameraStart), .read)
  | .cameraStart =>
      -- `busy` is taken by the start and given back by the end of its session
      if h.busy ∨ env.started = false then some (.start native .unlock, .read)
      else some (.start native (.storeOutput h.created), .startSession native)
  | .storeOutput s => some (.start native (.storeSession s), .storeOutput native)
  | .storeSession s => some (.start native .unlock, .storeSession s)
  | .unlock => some (.start native .returned, .unlock)
  | .returned => none

def Handle.shutdownNext (h : Handle) (closing : Bool) : ShutdownPc → Option (Call × Effect)
  | .gate =>
      if h.lifecycle.isNone then some (.shutdown closing .takeSession, .lock) else none
  | .takeSession =>
      match h.session with
      | some s => some (.shutdown closing (.requestStop s), .takeSession)
      | none => some (.shutdown closing .unlock, .takeSession)
  | .requestStop s => some (.shutdown closing (.stop s), .requestStop s)
  | .stop s => some (.shutdown closing .unlock, .stop s)
  | .unlock => some (.shutdown closing .returned, .unlock)
  | .returned => none

def Handle.readerOf (h : Handle) (s : SessionId) : Reader :=
  match h.reader with
  | some reader => if reader.session = s then reader else ⟨s, none⟩
  | none => ⟨s, none⟩

/-- The section of `next_frame_into` that holds the reader. -/
def Handle.readFrame (h : Handle) (s : SessionId) (native argb : Bool) (env : Env) :
    Option (Frame × Encoding) × Reader :=
  let reader := h.readerOf s
  let received : Option Frame :=
    match reader.pending with
    | some frame => some frame
    | none => if env.received ∧ (h.sessions s).stopping = false then some ⟨s⟩ else none
  match received with
  | none => (none, reader)
  | some frame =>
      -- a buffer that is too small leaves the frame pending
      if env.copied then
        (some (frame, if native then .native else if argb then .argb8 else .rgb8),
          { reader with pending := none })
      else (none, { reader with pending := some frame })

def Handle.nextFrameNext (h : Handle) (argb : Bool) (env : Env) :
    NextFramePc → Option (Call × Effect)
  | .lookup => some (.nextFrame argb (if h.registered then .session else .returned none), .read)
  | .session =>
      match h.session with
      | some s => some (.nextFrame argb (.loadOutput s), .read)
      | none => some (.nextFrame argb (.returned none), .read)
  | .loadOutput s =>
      if argb ∧ h.nativeOutput then some (.nextFrame argb (.returned none), .read)
      else some (.nextFrame argb (.reader s h.nativeOutput), .read)
  | .reader s native =>
      let (frame, reader) := h.readFrame s native argb env
      some (.nextFrame argb (.returned frame), .storeReader reader)
  | .returned _ => none

def Handle.queryNext (h : Handle) (metrics : Bool) : QueryPc → Option (Call × Effect)
  | .lookup => some (.query metrics (if h.registered then .session else .returned), .read)
  | .session =>
      some (.query metrics (if h.session.isSome ∧ metrics then .reader else .returned), .read)
  | .reader => some (.query metrics .returned, .read)
  | .returned => none

def Handle.next (h : Handle) (env : Env) : Call → Option (Call × Effect)
  | .start native pc => h.startNext native env pc
  | .stopLookup => some (if h.registered then .shutdown false .gate else .stopAbsent, .read)
  | .closeRemove => some (if h.registered then .closeStore else .closeAbsent, .remove)
  | .closeStore => some (.shutdown true .gate, .storeClosed)
  | .shutdown closing pc => h.shutdownNext closing pc
  | .nextFrame argb pc => h.nextFrameNext argb env pc
  | .query metrics pc => h.queryNext metrics pc
  | .stopAbsent | .closeAbsent => none

def Handle.setSession (h : Handle) (s : SessionId) (session : Session) : Handle :=
  { h with sessions := Function.update h.sessions s session }

/-- The end of a session gives `busy` back, once. -/
def Handle.stopSession (h : Handle) (s : SessionId) : Handle :=
  if (h.sessions s).closed then h
  else
    { h.setSession s { h.sessions s with stopping := true, closed := true } with busy := false }

def Handle.apply (h : Handle) (c : CallId) : Effect → Handle
  | .read => h
  | .remove => { h with registered := false }
  | .storeClosed => { h with closed := true }
  | .lock => { h with lifecycle := some c }
  | .unlock => { h with lifecycle := none }
  | .startSession native =>
      { h.setSession h.created { native := native } with created := h.created + 1, busy := true }
  | .storeOutput native => { h with nativeOutput := native }
  | .storeSession s => { h with session := some s }
  | .takeSession => { h with session := none }
  | .requestStop s => h.setSession s { h.sessions s with stopping := true }
  | .stop s => h.stopSession s
  | .storeReader reader => { h with reader := some reader }

def Handle.setCall (h : Handle) (c : CallId) (call : Call) : Handle :=
  { h with calls := Function.update h.calls c (some call) }

/-- A call from some thread, one access of a call, and what ends a session from inside:
its recovery gives up, or the task that a dropped handle of it has spawned. -/
inductive Action
  | nativeStart (native : Bool)
  | nativeStop
  | nativeClose
  | nativeNextFrame (argb : Bool)
  | nativeMetrics
  | control
  | run (c : CallId) (env : Env)
  | giveUp (s : SessionId)
  | settle (s : SessionId)

def Action.call : Action → Option Call
  | .nativeStart native => some (.start native .lookup)
  | .nativeStop => some .stopLookup
  | .nativeClose => some .closeRemove
  | .nativeNextFrame argb => some (.nextFrame argb .lookup)
  | .nativeMetrics => some (.query true .lookup)
  | .control => some (.query false .lookup)
  | _ => none

def Handle.step (h : Handle) (a : Action) : Option Handle :=
  match a with
  | .run c env =>
      match h.calls c with
      | none => none
      | some call => (h.next env call).map fun (after, effect) => (h.apply c effect).setCall c after
  | .giveUp s =>
      if s < h.created then some (h.setSession s { h.sessions s with stopping := true }) else none
  | .settle s =>
      if s < h.created ∧ (h.sessions s).stopping then some (h.stopSession s) else none
  | _ => a.call.map fun call => { h.setCall h.issued call with issued := h.issued + 1 }

def machine : Lib.Machine Handle Action where
  initial h := h = {}
  step := Handle.step

end CameraRs.Android

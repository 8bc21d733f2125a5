/-
MJPEG frames on their way from the callback of libuvc to the decode worker.

Two buffers go round: the callback takes one from the pool, copies the frame and offers it to a
channel with one place; the worker takes it from there, decodes and gives the buffer back. Every
access of the pool, of the channel and of the hub is a step.
-/

import CameraRs.Frame.Ledger

namespace CameraRs.Uvc

open CameraRs.Frame (OpId)

inductive UvcFrameFormat
  | mjpeg | h264 | yuyv | uyvy | rgb | bgr | gray8 | other
deriving DecidableEq, Repr

/-- `ffi::UvcFrame`; `data` is null if it is empty. -/
structure UvcFrame where
  frameFormat : UvcFrameFormat
  data : List UInt8
  width : UInt32
  height : UInt32
  sequence : UInt32
  step : Nat := 0
deriving DecidableEq, Repr

/-- A `Vec` of the pool; `id` tells the buffers apart. -/
structure Buffer where
  id : Nat
  bytes : List UInt8 := []
deriving DecidableEq, Repr

structure MjpegJob where
  data : Buffer
  width : UInt32
  height : UInt32
  sequence : Nat
deriving DecidableEq, Repr

/-- The bytes, the size and the sequence number. -/
structure Payload where
  bytes : List UInt8
  width : UInt32
  height : UInt32
  sequence : Nat
deriving DecidableEq, Repr

/-- The callback before the access that is named. -/
inductive CallbackPc
  | idle
  | popping (frame : UvcFrame)
  | sending (frame : UvcFrame) (job : MjpegJob)
  | returning (frame : UvcFrame) (data : Buffer)
  | dropping (frame : UvcFrame)
  | calling (i : OpId)
deriving DecidableEq

inductive WorkerPc
  | receiving
  | decoding (job : MjpegJob)
  | publishing (job : MjpegJob) (i : OpId)
  | returning (data : Buffer)
deriving DecidableEq

/-- One epoch. `start_mjpeg_worker` makes the buffers and the channel. -/
structure Handoff where
  hub : Frame.FrameHub
  session : Nat
  buffers : List Buffer := [{ id := 0 }, { id := 1 }]
  channel : Option MjpegJob := none
  callback : CallbackPc := .idle
  worker : WorkerPc := .receiving

def UvcFrame.payload (frame : UvcFrame) : Payload :=
  ⟨frame.data, frame.width, frame.height, frame.sequence.toNat⟩

def UvcFrame.job (frame : UvcFrame) (buffer : Buffer) : MjpegJob :=
  { data := { buffer with bytes := frame.data }
    width := frame.width
    height := frame.height
    sequence := frame.sequence.toNat }

namespace MjpegJob

def payload (job : MjpegJob) : Payload := ⟨job.data.bytes, job.width, job.height, job.sequence⟩

def call (job : MjpegJob) (session : Nat) : Frame.Call :=
  .publishRgbMetadata session job.width job.height none (some job.sequence)

/-- The decoded frame has a size that the hub takes. -/
def fits (job : MjpegJob) : Bool := (Frame.frameLength (.rgb job.width job.height) true).isOk

end MjpegJob

def CallbackPc.frame : CallbackPc → Option UvcFrame
  | .popping frame | .sending frame _ | .returning frame _ | .dropping frame => some frame
  | _ => none

def CallbackPc.buffer : CallbackPc → Option Buffer
  | .sending _ job => some job.data
  | .returning _ data => some data
  | _ => none

def WorkerPc.buffer : WorkerPc → Option Buffer
  | .decoding job | .publishing job _ => some job.data
  | .returning data => some data
  | .receiving => none

/-- A job that is not offered to the hub yet. -/
def WorkerPc.pending : WorkerPc → Option MjpegJob
  | .decoding job => some job
  | _ => none

/-- The layouts that are published as they are. -/
def UvcFrameFormat.native : UvcFrameFormat → Option PixelFormat
  | .mjpeg => some .mjpeg
  | .h264 => some .h264
  | .yuyv => some .yuyv
  | .uyvy => some .uyvy
  | .rgb => some .rgb8
  | .bgr => some .bgr8
  | .gray8 => some .gray8
  | .other => none

def UvcFrame.stride (frame : UvcFrame) (format : PixelFormat) : Nat :=
  if frame.step > 0 then frame.step
  else
    frame.width.toNat *
      match format with
      | .rgb8 | .bgr8 => 3
      | .yuyv | .uyvy => 2
      | _ => 1

/-- An MJPEG frame that `mjpeg::validate` accepts. -/
def UvcFrame.validated (validate : List UInt8 → CameraResult Unit) (frame : UvcFrame) : Bool :=
  decide (frame.data ≠ []) && decide (frame.frameFormat = .mjpeg) && (validate frame.data).isOk

inductive Arrival
  | ignored
  | calls (call : Frame.Call)
  | dispatched

namespace Handoff

inductive Action
  | hub (action : Frame.Action)
  | arrive (frame : UvcFrame)
  | callback
  | worker

variable (validate : List UInt8 → CameraResult Unit)

/-- `frame_callback` up to the dispatch, in an epoch that has a worker. -/
def frameCallback (s : Handoff) (frame : UvcFrame) : Arrival :=
  if frame.data = [] then .ignored
  else if frame.frameFormat = .mjpeg ∧ (validate frame.data).isOk = false then
    .calls (.recordInputError s.session)
  else if s.hub.nativeOutput then
    match frame.frameFormat.native with
    | none => .ignored
    | some format =>
        .calls (.publishNative s.session
          (.packed frame.width frame.height format (frame.stride format) frame.data.length)
          none (some frame.sequence.toNat) [frame.data])
  else if frame.frameFormat = .mjpeg then .dispatched
  else
    .calls (.publishRgbMetadata s.session frame.width frame.height none
      (some frame.sequence.toNat))

/-- A call of the hub; its accesses are steps of the hub. -/
def call (s : Handoff) (call : Frame.Call) : Handoff :=
  { s with hub := { s.hub with ops := s.hub.ops ++ [call.entry s.hub.clock] } }

def next (s : Handoff) : OpId := s.hub.ops.length

def returned (s : Handoff) (i : OpId) : Bool :=
  match s.hub.ops[i]? with
  | some (.returned _) => true
  | _ => false

def arrive (s : Handoff) (frame : UvcFrame) : Handoff :=
  match s.frameCallback validate frame with
  | .ignored => s
  | .calls call => { s.call call with callback := .calling s.next }
  | .dispatched => { s with callback := .popping frame }

/-- The dispatch. The receiver lives as long as the worker, so `try_send` is never
`Disconnected`. -/
def callbackStep (s : Handoff) : Option Handoff :=
  match s.callback with
  | .idle => none
  | .popping frame =>
      match s.buffers.getLast? with
      | none => some { s with callback := .dropping frame }
      | some buffer =>
          some { s with
            buffers := s.buffers.dropLast
            callback := .sending frame (frame.job buffer) }
  | .sending frame job =>
      match s.channel with
      | none => some { s with channel := some job, callback := .idle }
      | some _ => some { s with callback := .returning frame job.data }
  | .returning frame data =>
      some { s with buffers := s.buffers ++ [data], callback := .dropping frame }
  | .dropping _ =>
      some { s.call (.recordInputDrop s.session) with callback := .calling s.next }
  | .calling i => if s.returned i then some { s with callback := .idle } else none

/-- The loop of the worker; `recv` waits for a job, and an error of the hub is only logged. -/
def workerStep (s : Handoff) : Option Handoff :=
  match s.worker with
  | .receiving => s.channel.map fun job => { s with channel := none, worker := .decoding job }
  | .decoding job => some { s.call (job.call s.session) with worker := .publishing job s.next }
  | .publishing job i =>
      if s.returned i then some { s with worker := .returning job.data } else none
  | .returning data =>
      some { s with buffers := s.buffers ++ [{ data with bytes := [] }], worker := .receiving }

def step (s : Handoff) : Action → Option Handoff
  | .hub action => (s.hub.step action).map fun hub => { s with hub := hub }
  | .arrive frame => if s.callback = .idle then some (s.arrive validate frame) else none
  | .callback => s.callbackStep
  | .worker => s.workerStep

/-- An epoch that begins in any state of the hub. -/
def machine : Lib.Machine Handoff Action where
  initial s := s = { hub := s.hub, session := s.session }
  step := step validate

/-- The epoch is active, and its output is RGB: the hub is not configured while it is active. -/
def inEpoch (s : Handoff) : Bool := s.hub.isCurrent s.session && !s.hub.nativeOutput

/-! ### The history -/

/-- What is seen of the hub, and of a validated frame: it came in, it was handed over or the
drop `i` was called for it; the job was received, and offered to the hub by call `i`. -/
inductive Seen
  | hub (event : Frame.Event)
  | arrived (frame : UvcFrame)
  | handed (frame : UvcFrame)
  | dropped (frame : UvcFrame) (i : OpId)
  | received (job : MjpegJob)
  | offered (job : MjpegJob) (i : OpId)

def seenArrive (s : Handoff) (frame : UvcFrame) : List Seen :=
  let valid := if frame.validated validate then [.arrived frame] else []
  match s.frameCallback validate frame with
  | .calls call => valid ++ [.hub (.called s.next call)]
  | _ => valid

def seenCallback (s : Handoff) : List Seen :=
  match s.callback with
  | .sending frame _ => if s.channel = none then [.handed frame] else []
  | .dropping frame =>
      [.hub (.called s.next (.recordInputDrop s.session)), .dropped frame s.next]
  | _ => []

def seenWorker (s : Handoff) : List Seen :=
  match s.worker with
  | .receiving => s.channel.toList.map .received
  | .decoding job => [.hub (.called s.next (job.call s.session)), .offered job s.next]
  | _ => []

def seen (s : Handoff) (a : Action) (t : Handoff) : List Seen :=
  match a with
  | .hub action => (Frame.events s.hub action t.hub).map .hub
  | .arrive frame => s.seenArrive validate frame
  | .callback => s.seenCallback
  | .worker => s.seenWorker

def Seen.hub? : Seen → Option Frame.Event
  | .hub event => some event
  | _ => none

def Seen.arrived? : Seen → Option UvcFrame
  | .arrived frame => some frame
  | _ => none

/-- What the callback did with a frame; a drop has its call. -/
def Seen.fate? : Seen → Option (UvcFrame × Option OpId)
  | .handed frame => some (frame, none)
  | .dropped frame i => some (frame, some i)
  | _ => none

def Seen.handed? : Seen → Option UvcFrame
  | .handed frame => some frame
  | _ => none

def Seen.received? : Seen → Option MjpegJob
  | .received job => some job
  | _ => none

def Seen.offered? : Seen → Option (MjpegJob × OpId)
  | .offered job i => some (job, i)
  | _ => none

/-- The call that a drop or a job made. -/
def Seen.op? : Seen → Option OpId
  | .dropped _ i | .offered _ i => some i
  | _ => none

def hubLog (log : List Seen) : List Frame.Event := log.filterMap Seen.hub?

def owned (s : Handoff) : List Buffer :=
  s.buffers ++ s.channel.toList.map (·.data) ++ s.callback.buffer.toList ++ s.worker.buffer.toList

/-- Nothing of the hand-off is lost or doubled on the way to the hub. -/
structure Carries (s : Handoff) (log : List Seen) : Prop where
  buffers : (s.owned.map (·.id)).Perm [0, 1]
  arrived : log.filterMap Seen.arrived? =
    (log.filterMap Seen.fate?).map (·.1) ++ s.callback.frame.toList
  handed : (log.filterMap Seen.handed?).map (·.payload) =
    (log.filterMap Seen.received?).map (·.payload) ++ s.channel.toList.map (·.payload)
  received : log.filterMap Seen.received? =
    (log.filterMap Seen.offered?).map (·.1) ++ s.worker.pending.toList
  calls : (log.filterMap Seen.op?).Nodup
  dropped : ∀ frame i, .dropped frame i ∈ log → s.callback ≠ .calling i →
    Frame.ledger i (hubLog log) = .drop

/-- And every frame that the worker is done with is counted as one thing. -/
structure Conserves (s : Handoff) (log : List Seen) : Prop extends Carries s log where
  settled : ∀ job i, .offered job i ∈ log → s.worker ≠ .publishing job i →
    (Frame.ledger i (hubLog log)).settled = true

end Handoff

end CameraRs.Uvc

/-
Publication under the state lock, the subscribers' queues and the receiving side.
-/

import CameraRs.Frame.State

namespace CameraRs.Frame

namespace SubscriptionOptions

def validate (options : SubscriptionOptions) (budget : MemoryBudget) : CameraResult Unit :=
  match options.delivery with
  | .buffered capacity _ =>
      if capacity = 0 ∨ capacity ≥ budget.buffers then
        .error (.invalidConfig
          "Subscription queue must be positive and smaller than the frame pool")
      else .ok ()
  | .latest => .ok ()

end SubscriptionOptions

namespace Receiver

/-- `clear_queues` for one subscriber. -/
def clear (r : Receiver) : Receiver :=
  if r.registered then
    if r.alive then { r with queue := [] } else { r with registered := false }
  else r

def tooEarly (r : Receiver) (frame : CapturedFrame) : Bool :=
  match r.maxRate, r.lastEnqueued with
  | some interval, some previous => frame.capturedAt - previous < interval
  | _, _ => false

def enqueue (r : Receiver) (frame : CapturedFrame) : Receiver :=
  match r.delivery with
  | .latest => { r with dropped := r.dropped + r.queue.length, queue := [frame] }
  | .buffered capacity overflow =>
      if r.queue.length ≥ capacity then
        match overflow with
        | .dropNewest => { r with dropped := r.dropped + 1 }
        | .dropOldest => { r with dropped := r.dropped + 1, queue := r.queue.tail ++ [frame] }
      else { r with queue := r.queue ++ [frame] }

/-- The body of the loop over the subscribers in `finish_publish`. -/
def offer (r : Receiver) (raised : List FlagId) (frame : CapturedFrame) : Receiver :=
  if !r.registered then r
  else if !r.alive then { r with registered := false }
  else if r.owner.any raised.contains then { r with queue := [], registered := false }
  else if r.tooEarly frame then { r with dropped := r.dropped + 1 }
  else if r.maxRate.isSome then
    { r with lastEnqueued := some frame.capturedAt }.enqueue frame
  else r.enqueue frame

/-- The frame `next` would take: older ones are thrown away. -/
def wanted (r : Receiver) (session : Nat) (f : CapturedFrame) : Bool :=
  some f.key != r.last && f.key.session == session

def pop (r : Receiver) (session : Nat) : Receiver × Option CapturedFrame :=
  match r.queue.dropWhile fun f => !r.wanted session f with
  | [] => ({ r with queue := [] }, none)
  | f :: rest => ({ r with queue := rest, last := some f.key }, some f)

/-- The `FrameReceiver` is dropped, and with it its queue. -/
def close (r : Receiver) : Receiver :=
  { r with alive := false, queue := [] }

end Receiver

namespace FrameHub

def isCurrent (s : FrameHub) (session : Nat) : Bool :=
  s.state.active && s.state.session == session

def clearQueues (s : FrameHub) : FrameHub :=
  { s with receivers := s.receivers.map Receiver.clear }

/-- `CapturedFrame` built by `finish_publish`. -/
def capture (s : FrameHub) (job : Job) (lease : Lease) (timestampNs : Nat) : CapturedFrame where
  key := { session := job.session, sequence := s.state.latest.elim 1 (·.key.sequence + 1) }
  storage := lease.data
  layout := job.layout
  capturedAt := job.capturedAt
  timestampNs := timestampNs
  sourceTimestampNs := job.timestamp.map (·.nanoseconds)
  sourceClock := job.timestamp.elim .unknown (·.clock)
  sourceSequence := job.sourceSequence

/-- The closure of `send_if_modified`, for a session that is current. -/
def deliver (s : FrameHub) (frame : CapturedFrame) : FrameHub :=
  { s with
    state := { s.state with latest := some frame }
    receivers := s.receivers.map (·.offer s.raised frame) }

/-- The last part of `subscribe_with`. -/
def subscribe (s : FrameHub) (options : SubscriptionOptions) : FrameHub :=
  let fresh : Receiver := { delivery := options.delivery, maxRate := options.maxRate }
  let receiver :=
    match s.state.latest with
    | some f => { fresh with queue := [f], lastEnqueued := some f.capturedAt }
    | none => fresh
  { s with receivers := s.receivers ++ [receiver] }

/-- One look of `FrameReceiver::next`: an error, a frame, or nothing yet. -/
def next (s : FrameHub) (id : ReceiverId) (r : Receiver) :
    CameraResult (Option CapturedFrame) × FrameHub :=
  if r.owner.any s.raised.contains ∨
      (s.state.active = false ∧ s.state.recovering = false ∧ s.state.reconnectEnabled = false) then
    (.error .streamStopped, s)
  else
    let (r, found) := r.pop s.state.session
    (.ok found,
      { s with receivers := s.receivers.set id r, held := s.held ++ found.toList })

end FrameHub

end CameraRs.Frame

/-
The data of a `FrameHub`: storage behind reference-counted pointers, the bounded
pool, the published snapshot, the subscribers with their receivers, and the calls
that are under way.

An `Arc` allocation is a number. What it holds is in the heap; who holds it can be
read off the state (slots, leases, frames that are alive, consumer clones), so its
strong count is computed, not stored. A `Frame` occurs once for each handle.
-/

import CameraRs.Frame.Types

namespace CameraRs.Frame

abbrev ArcId := Nat
abbrev OpId := Nat
abbrev ReceiverId := Nat
abbrev FlagId := Nat

/-- What an `Arc<Pixels<u8>>` or `Arc<Vec<u8>>` points to. -/
structure Buffer where
  bytes : List UInt8
  capacity : Nat
deriving DecidableEq, Repr

inductive Storage
  | rgb (arc : ArcId) (height width : Nat)
  | bytes (arc : ArcId)
deriving DecidableEq, Repr

def Storage.arc : Storage → ArcId
  | .rgb arc _ _ => arc
  | .bytes arc => arc

structure Heap where
  buffers : ArcId → Buffer := fun _ => ⟨[], 0⟩
  next : ArcId := 0

/-- Instants are nanoseconds of the monotonic clock. -/
structure CapturedFrame where
  key : FrameKey
  storage : Storage
  layout : FrameLayout
  capturedAt : Nat
  timestampNs : Nat
  sourceTimestampNs : Option Int
  sourceClock : ClockDomain
  sourceSequence : Option Nat
deriving DecidableEq, Repr

structure Snapshot where
  session : Nat := 0
  active : Bool := false
  recovering : Bool := false
  reconnectEnabled : Bool := false
  latest : Option CapturedFrame := none
deriving DecidableEq

structure Slot where
  data : Option Storage
  bytes : Nat
deriving DecidableEq, Repr

structure Pool where
  slots : List Slot := []
  budget : MemoryBudget
  metrics : FrameMetrics := {}
  started : Option Nat := none
  stopped : Option Nat := none
  lastSourceActivity : Option Nat := none
  recent : List Nat := []
  conversionSamples : List Nat := []
  lastErrorReport : Option Nat := none
  suppressedErrorReports : Nat := 0
deriving DecidableEq

/-- A `Subscriber` with the `FrameReceiver` that owns it. `alive` while the receiver
exists, `registered` while the hub's vector has the weak reference; `maxRate` is the
interval of the rate. -/
structure Receiver where
  queue : List CapturedFrame := []
  delivery : DeliveryPolicy
  dropped : Nat := 0
  maxRate : Option Nat
  lastEnqueued : Option Nat := none
  owner : Option FlagId := none
  last : Option FrameKey := none
  alive : Bool := true
  registered : Bool := true
deriving DecidableEq

structure Lease where
  index : Nat
  data : Storage
deriving DecidableEq, Repr

structure SubscriptionOptions where
  delivery : DeliveryPolicy := .latest
  maxRate : Option Nat := none
deriving DecidableEq

/-- The part of `StreamRequest` that `configure` reads. -/
structure StreamRequest where
  memory : MemoryBudget
  native : Bool
deriving DecidableEq

/-- How the reserved bytes are written: by the closure of the caller, by the copy
loop of `publish_native`, or through a `NativeWriteLease`. -/
inductive Fill
  | closure
  | parts (parts : List (List UInt8))
  | lease

/-- One frame on its way to publication; `Publication` without `elapsed`. -/
structure Job where
  session : Nat
  layout : FrameLayout
  timestamp : Option SourceTimestamp
  sourceSequence : Option Nat
  capturedAt : Nat
  rgb : Bool
  fill : Fill

inductive Answer
  | published (result : CameraResult Bool)
  | done (result : CameraResult Unit)
  | session (session : Nat)
  | receiver (receiver : CameraResult ReceiverId)

/-- A call of the hub before the statement that is named. Between two counters the
call makes one access: to the state channel, or inside one section of the pool lock. -/
inductive Pc
  | reserveLook (job : Job)
  | reservePool (job : Job) (length : Nat)
  | converting (job : Job) (lease : Lease)
  | finishing (job : Job) (lease : Lease) (elapsed : Nat)
  | measuring (job : Job) (lease : Lease) (elapsed : Nat)
  | recordLook (session : Nat) (activity : Bool) (failed : Option (Lease × CameraError))
  | recordCharge (session : Nat) (activity : Bool) (failed : Option (Lease × CameraError))
  | recordWake (failed : Option (Lease × CameraError))
  | releasing (lease : Lease) (answer : Answer)
  | dropLook (session : Nat)
  | dropCharge (session : Nat)
  | startReset
  | startClear (session : Nat)
  | startRead (session : Nat)
  | startReplace (session : Nat) (recovering reconnectEnabled : Bool)
  | stopMark
  | stopClear
  | stopDeactivate
  | stopWake
  | configureLook (request : StreamRequest)
  | configurePool (request : StreamRequest)
  | subscribeBudget (options : SubscriptionOptions)
  | subscribePush (options : SubscriptionOptions)
  | ownerClear (receiver : ReceiverId) (flag : FlagId)
  | ownerSet (receiver : ReceiverId) (flag : FlagId)
  | returned (answer : Answer)

def Pc.lease : Pc → Option Lease
  | .converting _ lease | .finishing _ lease _ | .measuring _ lease _
  | .releasing lease _ => some lease
  | .recordLook _ _ failed | .recordCharge _ _ failed | .recordWake failed =>
      failed.map (·.1)
  | _ => none

/-- `poolLock` is set while `start` holds the pool lock across its sections;
`nextSession` is the static counter that all hubs of the process share. `held` are
the frame handles of consumers, `clones` and `weaks` their clones of RGB `Arc`s. -/
structure FrameHub where
  state : Snapshot := {}
  pool : Pool
  poolLock : Bool := false
  receivers : List Receiver := []
  nativeOutput : Bool := false
  recoveryWake : Nat := 0
  heap : Heap := {}
  held : List CapturedFrame := []
  clones : List ArcId := []
  weaks : List ArcId := []
  raised : List FlagId := []
  nextSession : Nat := 1
  clock : Nat := 0
  ops : List Pc := []

namespace FrameHub

def new (capacity : Nat) : FrameHub :=
  { pool := { budget := { buffers := max capacity 2 } } }

/-- Every handle of a captured frame that exists. -/
def frames (s : FrameHub) : List CapturedFrame :=
  s.state.latest.toList ++ s.receivers.flatMap (·.queue) ++ s.held

/-- `Arc::strong_count`. A captured frame counts once however many handles it has. -/
def strongCount (s : FrameHub) (arc : ArcId) : Nat :=
  s.pool.slots.countP (fun slot => slot.data.any (·.arc == arc)) +
  s.ops.countP (fun pc => pc.lease.any (·.data.arc == arc)) +
  s.frames.dedup.countP (·.storage.arc == arc) +
  s.clones.count arc

/-- `Storage::unique`: no other strong reference. A reference that is dropped or
upgraded while the check runs can make it fail: those are the `raced` ones. -/
def unique (s : FrameHub) (raced : List ArcId) (data : Storage) : Bool :=
  s.strongCount data.arc == 1 && !raced.contains data.arc

end FrameHub

end CameraRs.Frame

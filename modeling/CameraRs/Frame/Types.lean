/-
Plain records of the frame layer: keys, budgets, delivery policies, time stamps
and the two statistics snapshots. Counters are naturals, instants and durations
are nanoseconds.
-/

import CameraRs.Format

namespace CameraRs

structure FrameKey where
  session : Nat
  sequence : Nat
deriving DecidableEq, Repr

inductive OverflowPolicy
  | dropOldest
  | dropNewest
deriving DecidableEq, Repr

inductive DeliveryPolicy
  | latest
  | buffered (capacity : Nat) (overflow : OverflowPolicy)
deriving DecidableEq, Repr

structure MemoryBudget where
  buffers : Nat := 6
  bytes : Nat := 192 * 1024 * 1024
deriving DecidableEq, Repr

def MemoryBudget.validate (budget : MemoryBudget) : CameraResult Unit :=
  if budget.buffers < 2 ∨ 256 < budget.buffers ∨ budget.bytes = 0 then
    .error (.invalidConfig "Memory budget requires 2..=256 buffers and nonzero bytes")
  else .ok ()

inductive ClockDomain
  | unknown
  | hostMonotonic
  | mediaPresentation
  | deviceMonotonic
deriving DecidableEq, Repr

structure SourceTimestamp where
  nanoseconds : Int
  clock : ClockDomain
deriving DecidableEq, Repr

structure FrameMetrics where
  received : Nat := 0
  published : Nat := 0
  poolDrops : Nat := 0
  conversionErrors : Nat := 0
  consecutiveConversionErrors : Nat := 0
  maxConsecutiveConversionErrors : Nat := 0
  allocatedBuffers : Nat := 0
  allocatedBytes : Nat := 0
  retainedBuffers : Nat := 0
  conversionTotalNs : Nat := 0
  conversionMaxNs : Nat := 0
  conversionP50Ns : Nat := 0
  conversionP95Ns : Nat := 0
deriving DecidableEq, Repr

/-- `current_fps` is a whole number of frames kept in an `f64`. -/
structure StreamStats where
  totalFrames : Nat := 0
  droppedFrames : Nat := 0
  currentFps : Nat := 0
  bufferSize : Nat := 0
  bufferedFrames : Nat := 0
  uptimeSeconds : Nat := 0
deriving DecidableEq, Repr

end CameraRs

/-
The pool-lock sections of a `FrameHub` as functions of the pool and the heap:
taking a slot for a new frame, changing the budget, giving a lease back and
charging the metrics.
-/

import CameraRs.Frame.State

namespace CameraRs.Frame

def maxFrameBytes : Nat := 128 * 1024 * 1024

def frameErrorRecoveryThreshold : Nat := 8

def frameLength (layout : FrameLayout) (rgb : Bool) : CameraResult Nat :=
  let length :=
    if rgb then (checkedMul layout.width.toNat layout.height.toNat).bind (checkedMul · 3)
    else (layout.planes.filterMap fun plane => checkedAdd plane.offset plane.length).max?
  match length.filter fun length => 0 < length && length ≤ maxFrameBytes with
  | some length => .ok length
  | none => .error (.invalidFrame "Frame exceeds size limit")

namespace Heap

def alloc (heap : Heap) (buffer : Buffer) : Heap × ArcId :=
  ({ buffers := Function.update heap.buffers heap.next buffer, next := heap.next + 1 },
    heap.next)

def store (heap : Heap) (arc : ArcId) (bytes : List UInt8) : Heap :=
  { heap with
    buffers := Function.update heap.buffers arc { heap.buffers arc with bytes := bytes } }

/-- `vec![0; length]`, with a capacity of exactly `length`. -/
def zeros (heap : Heap) (length : Nat) : Heap × ArcId :=
  heap.alloc ⟨List.replicate length 0, length⟩

def pixels (heap : Heap) (layout : FrameLayout) : Heap × Storage :=
  let (h, w) := (layout.height.toNat, layout.width.toNat)
  let (heap, arc) := heap.zeros (h * w * 3)
  (heap, .rgb arc h w)

/-- What the storage of a frame takes from the budget. -/
def allocated (heap : Heap) (storage : Storage) (length : Nat) : Nat :=
  match storage with
  | .bytes arc => (heap.buffers arc).capacity
  | .rgb _ _ _ => length

/-- The storage of a reserved frame: what the slot held, if it fits, or new. -/
def refit (heap : Heap) (existing : Option Storage) (layout : FrameLayout) (rgb : Bool)
    (length : Nat) : Heap × Storage :=
  match existing, rgb with
  | some (.rgb arc h w), true =>
      if h = layout.height.toNat ∧ w = layout.width.toNat then (heap, .rgb arc h w)
      else heap.pixels layout
  | some (.bytes arc), false =>
      let buffer := heap.buffers arc
      if length > buffer.capacity then
        let (heap, arc) := heap.zeros length
        (heap, .bytes arc)
      else
        -- `resize` keeps the allocation
        (heap.store arc (buffer.bytes.take length ++
          List.replicate (length - buffer.bytes.length) 0), .bytes arc)
  | _, true => heap.pixels layout
  | _, false =>
      let (heap, arc) := heap.zeros length
      (heap, .bytes arc)

end Heap

namespace Pool

def used (pool : Pool) : Nat := (pool.slots.map (·.bytes)).sum

def dropFrame (pool : Pool) : Pool :=
  { pool with metrics := { pool.metrics with poolDrops := pool.metrics.poolDrops + 1 } }

def receive (pool : Pool) (now : Nat) : Pool :=
  { pool with
    metrics := { pool.metrics with received := pool.metrics.received + 1 }
    lastSourceActivity := some now }

/-- The first reusable slot, or a new one within the budget. -/
def choose (pool : Pool) (unique : Storage → Bool) : Option (Pool × Nat) :=
  match pool.slots.findIdx? fun slot => slot.data.any unique with
  | some index => some (pool, index)
  | none =>
      if pool.slots.length < pool.budget.buffers then
        some ({ pool with slots := pool.slots ++ [⟨none, 0⟩] }, pool.slots.length)
      else none

/-- Bytes the slot may take without the others exceeding the budget. -/
def available (pool : Pool) (slot : Slot) : Nat :=
  pool.budget.bytes - (pool.used - slot.bytes)

/-- `reserve` from the choice of a slot on. -/
def take (pool : Pool) (heap : Heap) (index : Nat) (layout : FrameLayout) (rgb : Bool)
    (length : Nat) : Pool × Heap × Option Lease :=
  let slot := pool.slots[index]?.getD ⟨none, 0⟩
  if length > pool.available slot then
    let pool := if slot.bytes = 0 then { pool with slots := pool.slots.dropLast } else pool
    (pool.dropFrame, heap, none)
  else
    let available := pool.available slot
    let (heap, storage) := heap.refit slot.data layout rgb length
    let allocated := heap.allocated storage length
    if allocated > available then
      let (heap, arc) := heap.alloc ⟨[], 0⟩
      ({ pool with slots := pool.slots.set index ⟨some (.bytes arc), 0⟩ }.dropFrame, heap, none)
    else
      ({ pool with slots := pool.slots.set index ⟨none, allocated⟩ }, heap,
        some ⟨index, storage⟩)

def reserve (pool : Pool) (heap : Heap) (unique : Storage → Bool) (layout : FrameLayout)
    (rgb : Bool) (length now : Nat) : Pool × Heap × Option Lease :=
  let pool := pool.receive now
  match pool.choose unique with
  | none => (pool.dropFrame, heap, none)
  | some (pool, index) => pool.take heap index layout rgb length

def configure (pool : Pool) (unique : Storage → Bool) (memory : MemoryBudget) :
    CameraResult Unit × Pool :=
  if pool.slots.any fun slot => slot.data.isNone && 0 < slot.bytes then
    (.error (.invalidState "Frame conversion is still finishing"), pool)
  else
    let pool := { pool with slots := pool.slots.filter fun slot => !slot.data.any unique }
    if pool.slots.length > memory.buffers ∨ pool.used > memory.bytes then
      (.error (.invalidConfig "Retained frames exceed the new budget"), pool)
    else (.ok (), { pool with budget := memory })

/-- `start` before it draws a session number. -/
def reset (pool : Pool) (now : Nat) : Pool :=
  { pool with
    metrics := {}
    started := some now
    stopped := none
    lastSourceActivity := some now
    recent := []
    conversionSamples := []
    lastErrorReport := none
    suppressedErrorReports := 0 }

def release (pool : Pool) (lease : Lease) : Pool :=
  { pool with
    slots := pool.slots.modify lease.index fun slot => { slot with data := some lease.data } }

/-- `record_conversion_error` under the pool lock. -/
def chargeError (pool : Pool) (activity : Bool) (now : Nat) : Pool :=
  let pool := if activity then pool.receive now else pool
  let consecutive := pool.metrics.consecutiveConversionErrors + 1
  { pool with
    metrics := { pool.metrics with
      conversionErrors := pool.metrics.conversionErrors + 1
      consecutiveConversionErrors := consecutive
      maxConsecutiveConversionErrors :=
        max pool.metrics.maxConsecutiveConversionErrors consecutive } }

/-- The last section of `finish_publish`. -/
def measure (pool : Pool) (capturedAt elapsed : Nat) : Pool :=
  let samples :=
    if pool.conversionSamples.length = 256 then pool.conversionSamples.tail
    else pool.conversionSamples
  { pool with
    metrics := { pool.metrics with
      published := pool.metrics.published + 1
      consecutiveConversionErrors := 0
      conversionTotalNs := min (pool.metrics.conversionTotalNs + elapsed) (2 ^ 64 - 1)
      conversionMaxNs := max pool.metrics.conversionMaxNs elapsed }
    conversionSamples := samples ++ [elapsed]
    recent := (pool.recent ++ [capturedAt]).dropWhile fun t => capturedAt - t > 1000000000 }

end Pool

end CameraRs.Frame

/-
The calls of a `FrameHub`, one access at a time, and what consumers do with frames.

`publish` is `reserveLook`, `reservePool`, `converting`, then `finishing`,
`measuring`, `releasing`, or after a failed conversion the three `record` counters
and `releasing`. `start` holds the pool lock from `startReset` to `startReplace`,
so every other pool section waits meanwhile.
-/

import CameraRs.Frame.Delivery
import CameraRs.Frame.Pool
import CameraRs.Lib.Machine

namespace CameraRs.Frame

/-- What the caller of a hub does next while its frame is being written. -/
inductive Choice
  | step
  | write (bytes : List UInt8)
  | finish (elapsed : Nat)
  | fail (error : CameraError)
  | timestamp (timestamp : SourceTimestamp)
  | abandon

structure Env where
  choice : Choice := .step
  raced : List ArcId := []
  timestampNs : Nat := 0

inductive Call
  | publishRgb (session : Nat) (width height : UInt32) (sourceTimestampNs : Option Int)
  | publishRgbMetadata (session : Nat) (width height : UInt32)
      (timestamp : Option SourceTimestamp) (sequence : Option Nat)
  | publishNativeInto (session : Nat) (layout : FrameLayout)
      (timestamp : Option SourceTimestamp)
  | publishNative (session : Nat) (layout : FrameLayout) (timestamp : Option SourceTimestamp)
      (sequence : Option Nat) (parts : List (List UInt8))
  | writableNative (session : Nat) (layout : FrameLayout)
  | recordInputError (session : Nat)
  | recordInputDrop (session : Nat)
  | start
  | stop
  | configure (request : StreamRequest)
  | subscribe (options : SubscriptionOptions)
  | withStopFlag (receiver : ReceiverId) (flag : FlagId)

/-- The `try_fold` of `publish_native_into`. -/
def planeExtent (layout : FrameLayout) : Option Nat :=
  layout.planes.foldlM (fun n p => (checkedAdd p.offset p.length).map (max n ·)) 0

/-- The checks of `publish_native` before it publishes. -/
def checkParts (layout : FrameLayout) (parts : List (List UInt8)) : CameraResult Unit := do
  let len ←
    match parts.foldlM (fun n p => checkedAdd n p.length) 0 with
    | some len => .ok len
    | none => .error (.invalidFrame "Native size overflow")
  layout.validate len
  let extent := (layout.planes.map fun p => p.offset + p.length).max?.getD 0
  if extent ≠ len then
    .error (.invalidFrame "Native payload contains undescribed trailing data")

/-- The copy loop of `publish_native`; `none` is the panic of an index outside `out`. -/
def copyParts : List (List UInt8) → Nat → List UInt8 → Option (List UInt8)
  | [], _, out => some out
  | part :: rest, offset, out =>
      if offset + part.length ≤ out.length then
        copyParts rest (offset + part.length)
          (out.take offset ++ part ++ out.drop (offset + part.length))
      else none

def Job.start (job : Job) (checked : CameraResult Unit) : Pc :=
  match checked with
  | .ok _ => .reserveLook job
  | .error error => .returned (.published (.error error))

def Call.entry (now : Nat) : Call → Pc
  | .publishRgb session width height ns =>
      .reserveLook ⟨session, .rgb width height, ns.map (⟨·, .unknown⟩), none, now, true, .closure⟩
  | .publishRgbMetadata session width height timestamp sequence =>
      .reserveLook ⟨session, .rgb width height, timestamp, sequence, now, true, .closure⟩
  | .publishNativeInto session layout timestamp =>
      Job.start ⟨session, layout, timestamp, none, now, false, .closure⟩
        (match planeExtent layout with
        | some length => layout.validate length
        | none => .error (.invalidFrame "Native plane extent overflow"))
  | .publishNative session layout timestamp sequence parts =>
      Job.start ⟨session, layout, timestamp, sequence, now, false, .parts parts⟩
        (checkParts layout parts)
  | .writableNative session layout =>
      Job.start ⟨session, layout, none, none, now, false, .lease⟩
        (frameLength layout false >>= layout.validate)
  | .recordInputError session => .recordLook session true none
  | .recordInputDrop session => .dropLook session
  | .start => .startReset
  | .stop => .stopMark
  | .configure request => .configureLook request
  | .subscribe options => .subscribeBudget options
  | .withStopFlag receiver flag => .ownerClear receiver flag

/-- `reserve` has no buffer: `Ok(false)`, or the error of `writable_native`. -/
def Job.exhausted (job : Job) : Pc :=
  match job.fill with
  | .lease => .returned (.published (.error .bufferExhausted))
  | _ => .returned (.published (.ok false))

namespace FrameHub

def setPool (s : FrameHub) (pool : Pool) : FrameHub := { s with pool := pool }

def setState (s : FrameHub) (state : Snapshot) : FrameHub := { s with state := state }

def write (s : FrameHub) (arc : ArcId) (bytes : List UInt8) : FrameHub :=
  { s with heap := s.heap.store arc bytes }

def wakeRecovery (s : FrameHub) : FrameHub := { s with recoveryWake := s.recoveryWake + 1 }

/-- The pool-lock section of `reserve`. A reused `Arc` has lost its weak references. -/
def reserve (s : FrameHub) (raced : List ArcId) (job : Job) (length : Nat) : FrameHub × Pc :=
  match s.pool.reserve s.heap (s.unique raced) job.layout job.rgb length s.clock with
  | (pool, heap, some lease) =>
      ({ s with pool := pool, heap := heap, weaks := s.weaks.filter (· != lease.data.arc) },
        .converting job lease)
  | (pool, heap, none) => ({ s with pool := pool, heap := heap }, job.exhausted)

/-- What the closure, the copy loop or the holder of the write lease does. -/
def convert (s : FrameHub) (job : Job) (lease : Lease) :
    Choice → Option (FrameHub × Pc)
  | .write bytes =>
      match job.fill with
      | .parts _ => none
      | _ =>
          if bytes.length = (s.heap.buffers lease.data.arc).bytes.length then
            some (s.write lease.data.arc bytes, .converting job lease)
          else none
  | .finish elapsed =>
      match job.fill with
      | .closure => some (s, .finishing job lease elapsed)
      | .parts parts =>
          (copyParts parts 0 (s.heap.buffers lease.data.arc).bytes).map fun bytes =>
            (s.write lease.data.arc bytes, .finishing job lease elapsed)
      | .lease => some (s, .finishing job lease 0)
  | .fail error =>
      match job.fill with
      | .closure => some (s, .recordLook job.session false (some (lease, error)))
      | _ => none
  | .timestamp timestamp =>
      match job.fill with
      | .lease => some (s, .converting { job with timestamp := some timestamp } lease)
      | _ => none
  | .abandon =>
      match job.fill with
      | .lease => some (s, .releasing lease (.done (.ok ())))
      | _ => none
  | .step => none

def recorded : Option (Lease × CameraError) → Pc
  | some (lease, error) => .releasing lease (.published (.error error))
  | none => .returned (.done (.ok ()))

def publishStep (s : FrameHub) (env : Env) : Pc → Option (FrameHub × Pc)
  | .reserveLook job =>
      if s.isCurrent job.session then
        match frameLength job.layout job.rgb with
        | .ok length => some (s, .reservePool job length)
        | .error error => some (s, .returned (.published (.error error)))
      else some (s, job.exhausted)
  | .reservePool job length =>
      if s.poolLock then none
      else if s.isCurrent job.session then some (s.reserve env.raced job length)
      else some (s, job.exhausted)
  | .converting job lease => s.convert job lease env.choice
  | .finishing job lease elapsed =>
      if s.isCurrent job.session then
        some (s.deliver (s.capture job lease env.timestampNs), .measuring job lease elapsed)
      else some (s, .releasing lease (.published (.ok false)))
  | .measuring job lease elapsed =>
      if s.poolLock then none
      else if s.state.session = job.session then
        some (s.setPool (s.pool.measure job.capturedAt elapsed),
          .releasing lease (.published (.ok true)))
      else some (s, .releasing lease (.published (.ok true)))
  | .releasing lease answer =>
      if s.poolLock then none
      else some (s.setPool (s.pool.release lease), .returned answer)
  | _ => none

/-- The accesses of `record_conversion_error` and `record_input_drop`. -/
def recordStep (s : FrameHub) : Pc → Option (FrameHub × Pc)
  | .recordLook session activity failed =>
      if s.isCurrent session then some (s, .recordCharge session activity failed)
      else some (s, recorded failed)
  | .recordCharge _ activity failed =>
      if s.poolLock then none
      else
        let pool := s.pool.chargeError activity s.clock
        some (s.setPool pool,
          if pool.metrics.consecutiveConversionErrors = frameErrorRecoveryThreshold then
            .recordWake failed
          else recorded failed)
  | .recordWake failed => some (s.wakeRecovery, recorded failed)
  | .dropLook session =>
      if s.state.session = session then some (s, .dropCharge session)
      else some (s, .returned (.done (.ok ())))
  | .dropCharge _ =>
      if s.poolLock then none
      else some (s.setPool (s.pool.receive s.clock).dropFrame, .returned (.done (.ok ())))
  | _ => none

/-- The accesses of `start`, `stop` and `configure`. -/
def lifecycleStep (s : FrameHub) (env : Env) : Pc → Option (FrameHub × Pc)
  | .startReset =>
      if s.poolLock then none
      else
        some ({ s with
          pool := s.pool.reset s.clock
          poolLock := true
          nextSession := s.nextSession + 1 }, .startClear s.nextSession)
  | .startClear session => some (s.clearQueues, .startRead session)
  | .startRead session =>
      some (s, .startReplace session s.state.recovering s.state.reconnectEnabled)
  | .startReplace session recovering reconnectEnabled =>
      some ({ s with
        poolLock := false
        state :=
          { session := session
            active := true
            recovering := recovering
            reconnectEnabled := reconnectEnabled
            latest := none } }, .returned (.session session))
  | .stopMark =>
      if s.poolLock then none
      else some (s.setPool { s.pool with stopped := some s.clock }, .stopClear)
  | .stopClear => some (s.clearQueues, .stopDeactivate)
  | .stopDeactivate =>
      some (s.setState { s.state with active := false, latest := none }, .stopWake)
  | .stopWake => some (s.wakeRecovery, .returned (.done (.ok ())))
  | .configureLook request =>
      if s.state.active then
        some (s, .returned (.done (.error (.invalidState "Stop before configuring buffers"))))
      else some (s, .configurePool request)
  | .configurePool request =>
      if s.poolLock then none
      else
        match s.pool.configure (s.unique env.raced) request.memory with
        | (.ok _, pool) =>
            some ({ s with pool := pool, nativeOutput := request.native },
              .returned (.done (.ok ())))
        | (.error error, pool) => some (s.setPool pool, .returned (.done (.error error)))
  | _ => none

/-- The accesses of `subscribe_with` and `with_stop_flag`. -/
def subscribeStep (s : FrameHub) : Pc → Option (FrameHub × Pc)
  | .subscribeBudget options =>
      if s.poolLock then none
      else
        match options.validate s.pool.budget with
        | .ok _ => some (s, .subscribePush options)
        | .error error => some (s, .returned (.receiver (.error error)))
  | .subscribePush options =>
      some (s.subscribe options, .returned (.receiver (.ok s.receivers.length)))
  | .ownerClear receiver flag =>
      some ({ s with
        receivers := s.receivers.modify receiver fun r =>
          if s.raised.contains flag then { r with queue := [] } else r },
        .ownerSet receiver flag)
  | .ownerSet receiver flag =>
      some ({ s with
        receivers := s.receivers.modify receiver fun r =>
          { r with owner := r.owner.or (some flag) } },
        .returned (.done (.ok ())))
  | _ => none

def callStep (s : FrameHub) (env : Env) : Pc → Option (FrameHub × Pc)
  | pc@(.reserveLook _) | pc@(.reservePool _ _) | pc@(.converting _ _)
  | pc@(.finishing _ _ _) | pc@(.measuring _ _ _) | pc@(.releasing _ _) => s.publishStep env pc
  | pc@(.recordLook _ _ _) | pc@(.recordCharge _ _ _) | pc@(.recordWake _)
  | pc@(.dropLook _) | pc@(.dropCharge _) => s.recordStep pc
  | pc@.startReset | pc@(.startClear _) | pc@(.startRead _) | pc@(.startReplace _ _ _)
  | pc@.stopMark | pc@.stopClear | pc@.stopDeactivate | pc@.stopWake
  | pc@(.configureLook _) | pc@(.configurePool _) => s.lifecycleStep env pc
  | pc@(.subscribeBudget _) | pc@(.subscribePush _) | pc@(.ownerClear _ _)
  | pc@(.ownerSet _ _) => s.subscribeStep pc
  | .returned _ => none

end FrameHub

inductive FlagCall
  | beginRecovery
  | endRecovery
  | enableRecovery
  | disableRecovery
deriving DecidableEq

def FlagCall.apply (state : Snapshot) : FlagCall → Snapshot
  | .beginRecovery => { state with recovering := true }
  | .endRecovery => { state with recovering := false }
  | .enableRecovery => { state with reconnectEnabled := true }
  | .disableRecovery => { state with reconnectEnabled := false, recovering := false }

/-- Calls, their accesses, and the consumers of frames. Numbers select a receiver, a
held frame, a clone or a weak reference; `raise` sets the stop flag of a session,
`otherHub` is a `start` of another hub of the process. -/
inductive Action
  | call (call : Call)
  | run (i : OpId) (env : Env)
  | flag (call : FlagCall)
  | latest
  | next (receiver : ReceiverId)
  | close (receiver : ReceiverId)
  | cloneFrame (k : Nat)
  | dropFrame (k : Nat)
  | cloneRgb (k : Nat)
  | dropClone (k : Nat)
  | downgrade (k : Nat)
  | upgrade (k : Nat)
  | dropWeak (k : Nat)
  | raise (flag : FlagId)
  | otherHub
  | tick (ns : Nat)

def CapturedFrame.rgbPixels (f : CapturedFrame) : Option ArcId :=
  match f.storage with
  | .rgb arc _ _ => some arc
  | .bytes _ => none

namespace FrameHub

def hold (s : FrameHub) (f : CapturedFrame) : FrameHub := { s with held := s.held ++ [f] }

/-- What consumers do with the frames and pixel references they have. -/
def consumerStep (s : FrameHub) : Action → Option FrameHub
  | .latest => s.state.latest.map s.hold
  | .next id =>
      match s.receivers[id]? with
      | some r => if r.alive then some (s.next id r).2 else none
      | none => none
  | .close id =>
      match s.receivers[id]? with
      | some r => if r.alive then some { s with receivers := s.receivers.set id r.close } else none
      | none => none
  | .cloneFrame k => s.held[k]?.map s.hold
  | .dropFrame k => s.held[k]?.map fun _ => { s with held := s.held.eraseIdx k }
  | .cloneRgb k =>
      (s.held[k]?.bind (·.rgbPixels)).map fun arc => { s with clones := s.clones ++ [arc] }
  | .dropClone k => s.clones[k]?.map fun _ => { s with clones := s.clones.eraseIdx k }
  | .downgrade k => s.clones[k]?.map fun arc => { s with weaks := s.weaks ++ [arc] }
  | .upgrade k =>
      match s.weaks[k]? with
      | some arc =>
          if 0 < s.strongCount arc then some { s with clones := s.clones ++ [arc] } else none
      | none => none
  | .dropWeak k => s.weaks[k]?.map fun _ => { s with weaks := s.weaks.eraseIdx k }
  | _ => none

def step (s : FrameHub) : Action → Option FrameHub
  | .call call => some { s with ops := s.ops ++ [call.entry s.clock] }
  | .run i env =>
      match s.ops[i]? with
      | some pc => (s.callStep env pc).map fun (s, pc) => { s with ops := s.ops.set i pc }
      | none => none
  | .flag call => some (s.setState (call.apply s.state))
  | .raise flag => some { s with raised := s.raised ++ [flag] }
  | .otherHub => some { s with nextSession := s.nextSession + 1 }
  | .tick ns => some { s with clock := s.clock + ns }
  | action => s.consumerStep action

end FrameHub

/-- A new hub in a process whose other hubs may have drawn session numbers. -/
def machine : Lib.Machine FrameHub Action where
  initial s := ∃ capacity drawn, s = { FrameHub.new capacity with nextSession := drawn + 1 }
  step := FrameHub.step

theorem machine_new (capacity : Nat) : machine.initial (FrameHub.new capacity) :=
  ⟨capacity, 0, rfl⟩

end CameraRs.Frame

/-
Who gives back what libuvc hands out.

`UvcContext`, `UvcDevice`, `UvcDeviceHandle`, `StreamCtrl` and the context of the frame callback
give their native object back when they are dropped. Starts and stops hold `lifecycle`, every use of
the handle holds its mutex, and discovery runs beside them with a context of its own; every call of
libuvc may fail.
-/

import CameraRs.Lib.Machine
import CameraRs.Lib.Owners

namespace CameraRs.Uvc.Resources

open Lib

abbrev Id := Nat

/-- `UvcDevice`: one reference of a device. -/
structure Device where
  id : Id
  context : Id
deriving DecidableEq

/-- `UvcDeviceHandle`, with the descriptor that it was wrapped around. -/
structure DeviceHandle where
  id : Id
  context : Id
  fd : Option Id := none
deriving DecidableEq

inductive Object
  | device (id : Id)
  | descriptor (id : Id)
  | handle (id : Id)
  | control (id : Id)
  | callback (id : Id)
  | fd (id : Id)
deriving DecidableEq

inductive Value
  | context (id : Id)
  | device (d : Device)
  | descriptor (id : Id)
  | handle (h : DeviceHandle)
  | control (id : Id)
  | callback (id : Id)
  | fd (id : Id)
deriving DecidableEq

def Object.id : Object → Id
  | .device id => id
  | .descriptor id => id
  | .handle id => id
  | .control id => id
  | .callback id => id
  | .fd id => id

def Value.objects : Value → List Object
  | .context _ => []
  | .device d => [.device d.id]
  | .descriptor id => [.descriptor id]
  | .handle h => .handle h.id :: (h.fd.map Object.fd).toList
  | .control id => [.control id]
  | .callback id => [.callback id]
  | .fd id => [.fd id]

/-- The `Arc<ContextInner>` of a value. -/
def Value.shares : Value → List Id
  | .context id => [id]
  | .device d => [d.context]
  | .handle h => [h.context]
  | _ => []

/-- An entry of `devh->streams`, and the pointer that its thread passes to the callback. -/
structure Stream where
  handle : Id
  interface : Nat
  user : Id
deriving DecidableEq

/-- `contexts` are the `ContextInner`s with their strong counts. -/
structure Native where
  heap : Heap Object := {}
  contexts : Shared Id := {}
  streams : List Stream := []
  next : Id := 0

namespace Native

variable (n : Native)

/-- Something was used, or given back, that was not alive. -/
def fault : Bool := n.heap.fault || n.contexts.heap.fault

def alloc (object : Object) : Native :=
  { n with heap := n.heap.alloc object, next := n.next + 1 }

def use (object : Object) : Native := { n with heap := n.heap.use object }

def free (object : Object) : Native := { n with heap := n.heap.free object }

def useContext (context : Id) : Native := { n with contexts := n.contexts.use context }

def useDevice (d : Device) : Native := (n.use (.device d.id)).useContext d.context

/-- A wrapped descriptor must stay open until `uvc_close`. -/
def useHandle (h : DeviceHandle) : Native :=
  let used := (n.use (.handle h.id)).useContext h.context
  match h.fd with
  | none => used
  | some fd => used.use (.fd fd)

/-- `self.inner.clone()`. -/
def retain (context : Id) : Native := { n with contexts := n.contexts.retain context }

/-- An `Arc<ContextInner>` is dropped, and with the last one `uvc_exit` is called. -/
def leave (context : Id) : Native := { n with contexts := n.contexts.release context }

/-- `UvcContext::new`, past `uvc_init`. -/
def newContext : Native :=
  { n with contexts := n.contexts.create n.next, next := n.next + 1 }

/-- An entry of `uvc_get_device_list`. -/
def device (context : Id) : Native := (n.retain context).alloc (.device n.next)

def deviceList (context : Id) : Nat → Native → Native × List Device
  | 0, n => (n, [])
  | count + 1, n =>
      let rest := deviceList context count (n.device context)
      (rest.1, { id := n.next, context := context } :: rest.2)

def getDescriptor (d : Device) : Native := (n.useDevice d).alloc (.descriptor n.next)

/-- `UvcDevice::open`, past `uvc_open`. -/
def openDevice (d : Device) : Native :=
  ((n.useDevice d).retain d.context).alloc (.handle n.next)

def wrapDevice (context fd : Id) : Native :=
  ((n.use (.fd fd)).retain context).alloc (.handle n.next)

def getStreamCtrl (h : DeviceHandle) : Native := (n.useHandle h).alloc (.control n.next)

def useControl (h : DeviceHandle) (control : Id) : Native :=
  (n.useHandle h).use (.control control)

/-- `uvc_stream_open_ctrl` refuses an interface that streams. -/
def busy (h : DeviceHandle) (interface : Nat) : Bool :=
  n.streams.any fun stream => stream.handle == h.id && stream.interface == interface

def startStreaming (h : DeviceHandle) (interface : Nat) (user : Id) : Native :=
  { n with streams := { handle := h.id, interface := interface, user := user } :: n.streams }

def closeStreams (h : DeviceHandle) : Native :=
  { n with streams := n.streams.filter fun stream => stream.handle != h.id }

def stopStreaming (h : DeviceHandle) : Native := (n.useHandle h).closeStreams h

/-- `Drop` of a value, then its fields in their order. -/
def release : Value → Native
  | .context context => n.leave context
  | .device d => ((n.useDevice d).free (.device d.id)).leave d.context
  | .descriptor id => n.free (.descriptor id)
  | .handle h =>
      let closed := ((n.stopStreaming h).free (.handle h.id)).leave h.context
      match h.fd with
      | none => closed
      | some fd => closed.free (.fd fd)
  | .control id => n.free (.control id)
  | .callback id => n.free (.callback id)
  | .fd id => n.free (.fd id)

end Native

/-! ### The operations of a camera -/

/-- Who looks for devices: `start_sync`, `get_supported_configs` or `list_devices`. -/
inductive Purpose
  | start
  | configs (index : Nat)
  | list
deriving DecidableEq

/-- A thread before the call or the access that is named, with the locals that it owns. From
`checking` to `keeping` it is in `start_sync`, from `stopping` on in `stop_locked` or `cleanup`. -/
inductive Pc
  | done
  | creating (purpose : Purpose)
  | listing (purpose : Purpose) (context : Id)
  | describing (purpose : Purpose) (context : Id) (devices : List Device) (i : Nat)
      (found : Option Nat)
  | reading (purpose : Purpose) (context : Id) (devices : List Device) (i : Nat)
      (found : Option Nat) (descriptor : Id) (expected : Bool)
  | opening (purpose : Purpose) (context : Id) (devices : List Device) (d : Device)
  | querying (context : Id) (devices : List Device) (h : DeviceHandle)
  | entering
  | checking
  | discarding (context : Id) (devices : List Device) (h : DeviceHandle)
  | storingHandle (context : Id) (h : DeviceHandle)
  | storingContext (context : Id)
  | borrowing
  | selecting (h : DeviceHandle)
  | probing (h : DeviceHandle) (control : Id)
  | beginning (h : DeviceHandle) (control : Id)
  | starting (h : DeviceHandle) (control user : Id)
  | aborting (h : DeviceHandle) (control user : Id)
  | rollingBack (h : DeviceHandle) (control user : Id)
  | installing (h : DeviceHandle) (control user : Id)
  | keeping (control : Id)
  | leaving (cleanup : Bool)
  | stopping (cleanup : Bool)
  | halting (cleanup : Bool)
  | takingCallback (cleanup : Bool)
  | takingControl (cleanup : Bool)
  | closing
  | exiting
  | asking
  | controlling (h : DeviceHandle)
  | dropping (values : List Value)
deriving DecidableEq

/-- What the calls of a step answer: `ok` is success, `devices` the number of devices listed,
`expected` whether the unique id of the device is the one to open, `interface` that of the mode that
was negotiated, and `again` whether another request follows for a control. -/
structure Answer where
  ok : Bool := true
  devices : Nat := 1
  expected : Bool := false
  interface : Nat := 1
  again : Bool := false

/-- `UvcCamera`, with the operations that are under way on it. -/
structure UvcCamera where
  deviceIndex : Nat := 0
  expectsId : Bool := false
  native : Native := {}
  context : Option Id := none
  deviceHandle : Option DeviceHandle := none
  streamCtrl : Option Id := none
  callback : Option Id := none
  streaming : Bool := false
  lifecycle : Option Nat := none
  handleLock : Option Nat := none
  threads : List Pc := []

inductive Request
  | start
  | stop
  | cleanup
  | control
  | configs (index : Nat)
  | list

/-- `frame` is a call of the callback by the thread of a stream, `hubStopped` a `FrameHub::stop` of
someone else. -/
inductive Action
  | request (request : Request)
  | run (k : Nat) (answer : Answer)
  | frame (i : Nat)
  | hubStopped

namespace UvcCamera

variable (s : UvcCamera)

def goto (k : Nat) (pc : Pc) : UvcCamera := { s with threads := s.threads.set k pc }

def begin : Request → Pc
  | .start => .entering
  | .stop => .leaving false
  | .cleanup => .leaving true
  | .control => .asking
  | .configs index => .creating (.configs index)
  | .list => .creating .list

/-- The locals of discovery, in the order in which they are dropped. -/
def discovered (context : Id) (devices : List Device) : List Value :=
  devices.map Value.device ++ [.context context]

/-- The device at an index is opened, or there is none. -/
def pick (purpose : Purpose) (context : Id) (devices : List Device) (i : Option Nat) : Pc :=
  match i.bind fun i => devices[i]? with
  | some d => .opening purpose context devices d
  | none => .dropping (discovered context devices)

/-- After `get_device_list`. -/
def listed (purpose : Purpose) (context : Id) (devices : List Device) : Pc :=
  match purpose with
  | .start =>
      if s.expectsId then .describing .start context devices 0 none
      else pick .start context devices (some s.deviceIndex)
  | .configs index => pick (.configs index) context devices (some index)
  | .list => .describing .list context devices 0 none

/-- After `to_device_info` of device `i`: a second one with the expected id is ambiguous. -/
def described (purpose : Purpose) (context : Id) (devices : List Device) (i : Nat)
    (found : Option Nat) (expected : Bool) : Pc :=
  if purpose = .start ∧ expected = true then
    match found with
    | none => .describing purpose context devices (i + 1) (some i)
    | some _ => .dropping (discovered context devices)
  else .describing purpose context devices (i + 1) found

/-- After the last `to_device_info`. -/
def searched (purpose : Purpose) (context : Id) (devices : List Device) (found : Option Nat) : Pc :=
  match purpose with
  | .list => .dropping (discovered context devices)
  | _ => pick purpose context devices found

/-- After `UvcDevice::open`. -/
def opened (purpose : Purpose) (context : Id) (devices : List Device) (h : DeviceHandle) : Pc :=
  match purpose with
  | .start => .discarding context devices h
  | _ => .querying context devices h

def releaseField (value : Option Value) : Native :=
  match value with
  | none => s.native
  | some value => s.native.release value

/-- The guards of a thread go after its other locals. -/
def unlock (k : Nat) : UvcCamera :=
  { s with
    lifecycle := if s.lifecycle = some k then none else s.lifecycle
    handleLock := if s.handleLock = some k then none else s.handleLock }

def lent (found : DeviceHandle → Pc) : Pc :=
  match s.deviceHandle with
  | none => .dropping []
  | some h => found h

def borrow (k : Nat) (found : DeviceHandle → Pc) : Option UvcCamera :=
  match s.handleLock with
  | some _ => none
  | none => some ({ s with handleLock := some k }.goto k (s.lent found))

/-- `self.lifecycle.lock()`. -/
def enter (k : Nat) (pc : Pc) : Option UvcCamera :=
  match s.lifecycle with
  | some _ => none
  | none => some ({ s with lifecycle := some k }.goto k pc)

/-- The stream of an open device is stopped. -/
def halted : Native :=
  match s.deviceHandle with
  | none => s.native
  | some h => s.native.stopStreaming h

def run (k : Nat) (answer : Answer) : Pc → Option UvcCamera
  | .done => none
  | .creating purpose =>
      if answer.ok then
        some ({ s with native := s.native.newContext }.goto k (.listing purpose s.native.next))
      else some (s.goto k (.dropping []))
  | .listing purpose context =>
      if answer.ok then
        let devices := Native.deviceList context answer.devices s.native
        some ({ s with native := devices.1 }.goto k (s.listed purpose context devices.2))
      else some (s.goto k (.dropping [.context context]))
  | .describing purpose context devices i found =>
      match devices[i]? with
      | none => some (s.goto k (searched purpose context devices found))
      | some d =>
          if answer.ok then
            some ({ s with native := s.native.getDescriptor d }.goto k
              (.reading purpose context devices i found s.native.next answer.expected))
          else some (s.goto k (.describing purpose context devices (i + 1) found))
  | .reading purpose context devices i found descriptor expected =>
      some ({ s with native := s.native.release (.descriptor descriptor) }.goto k
        (described purpose context devices i found expected))
  | .opening purpose context devices d =>
      if answer.ok then
        some ({ s with native := s.native.openDevice d }.goto k
          (opened purpose context devices { id := s.native.next, context := d.context }))
      else some (s.goto k (.dropping (discovered context devices)))
  | .querying context devices h =>
      some ({ s with native := s.native.useHandle h }.goto k
        (.dropping (.handle h :: discovered context devices)))
  | .entering => s.enter k .checking
  | .checking =>
      if !answer.ok || s.streaming then some (s.goto k (.dropping []))
      else if s.context.isSome then some (s.goto k .borrowing)
      else some (s.goto k (.creating .start))
  | .discarding context devices h =>
      match devices with
      | [] => some (s.goto k (.storingHandle context h))
      | d :: rest =>
          some ({ s with native := s.native.release (.device d) }.goto k
            (.discarding context rest h))
  | .storingHandle context h =>
      match s.handleLock with
      | some _ => none
      | none =>
          some ({ s with
            native := s.releaseField (s.deviceHandle.map .handle)
            deviceHandle := some h }.goto k (.storingContext context))
  | .storingContext context =>
      some ({ s with
        native := s.releaseField (s.context.map .context)
        context := some context }.goto k .borrowing)
  | .borrowing => s.borrow k .selecting
  | .selecting h =>
      some ({ s with native := s.native.getStreamCtrl h }.goto k
        (if answer.ok then .probing h s.native.next else .dropping [.control s.native.next]))
  | .probing h control =>
      some ({ s with native := s.native.useControl h control }.goto k
        (if answer.ok then .beginning h control else .dropping [.control control]))
  | .beginning h control =>
      if answer.ok then
        some ({ s with
          native := s.native.alloc (.callback s.native.next)
          streaming := true }.goto k (.starting h control s.native.next))
      else some ({ s with streaming := true }.goto k (.dropping [.control control]))
  | .starting h control user =>
      let called := s.native.useControl h control
      if answer.ok && !s.native.busy h answer.interface then
        some ({ s with native := called.startStreaming h answer.interface user }.goto k
          (.installing h control user))
      else some ({ s with native := called }.goto k (.aborting h control user))
  | .aborting h control user =>
      some ({ s with streaming := false }.goto k (.rollingBack h control user))
  | .rollingBack h control user =>
      some ({ s with native := s.native.stopStreaming h }.goto k
        (.dropping [.callback user, .control control]))
  | .installing _ control user =>
      some ({ s with
        native := s.releaseField (s.callback.map .callback)
        callback := some user }.goto k (.keeping control))
  | .keeping control =>
      some ({ s with
        native := s.releaseField (s.streamCtrl.map .control)
        streamCtrl := some control }.goto k (.dropping []))
  | .leaving cleanup => s.enter k (.stopping cleanup)
  | .stopping cleanup => some ({ s with streaming := false }.goto k (.halting cleanup))
  | .halting cleanup =>
      match s.handleLock with
      | some _ => none
      | none => some ({ s with native := s.halted }.goto k (.takingCallback cleanup))
  | .takingCallback cleanup =>
      some ({ s with
        native := s.releaseField (s.callback.map .callback)
        callback := none }.goto k (.takingControl cleanup))
  | .takingControl cleanup =>
      some ({ s with
        native := s.releaseField (s.streamCtrl.map .control)
        streamCtrl := none }.goto k (if cleanup then .closing else .dropping []))
  | .closing =>
      match s.handleLock with
      | some _ => none
      | none =>
          some ({ s with
            native := s.releaseField (s.deviceHandle.map .handle)
            deviceHandle := none }.goto k .exiting)
  | .exiting =>
      some ({ s with
        native := s.releaseField (s.context.map .context)
        context := none }.goto k (.dropping []))
  | .asking => s.borrow k .controlling
  | .controlling h =>
      some ({ s with native := s.native.useHandle h }.goto k
        (if answer.again then .controlling h else .dropping []))
  | .dropping values =>
      match values with
      | [] => some ((s.unlock k).goto k .done)
      | value :: rest =>
          some ({ s with native := s.native.release value }.goto k (.dropping rest))

def step : Action → Option UvcCamera
  | .request request => some { s with threads := s.threads ++ [begin request] }
  | .run k answer =>
      match s.threads[k]? with
      | none => none
      | some pc => s.run k answer pc
  | .frame i =>
      match s.native.streams[i]? with
      | none => none
      | some stream => some { s with native := s.native.use (.callback stream.user) }
  | .hubStopped => some { s with streaming := false }

/-- `UvcCamera::from_fd`, whose camera nobody shares yet: what `uvc_init`, the duplication of the
descriptor and `uvc_wrap` answer. A failure drops what there is. -/
def fromFd (initialized duplicated wrapped : Bool) : UvcCamera :=
  let n : Native := {}
  let context := n.next
  let created := n.newContext
  let fd := created.next
  let held := created.alloc (.fd fd)
  if !initialized then {}
  else if !duplicated then { native := created.release (.context context) }
  else if !wrapped then
    { native := (held.release (.fd fd)).release (.context context) }
  else
    { native := held.wrapDevice context fd
      context := some context
      deviceHandle := some { id := held.next, context := context, fd := some fd } }

end UvcCamera

/-- A camera that was made by `new_selected` or by `from_fd`. -/
def cameraMachine : Machine UvcCamera Action where
  initial s :=
    (∃ index expects, s = { deviceIndex := index, expectsId := expects }) ∨
      ∃ initialized duplicated wrapped, s = UvcCamera.fromFd initialized duplicated wrapped
  step := UvcCamera.step

/-- libuvc starts one stream for an interface. Whoever stopped the hub behind the camera and starts
it again has the camera stopped first, or starts the interface that streams. -/
def OneInterface (s : UvcCamera) : Action → Prop
  | .run k answer =>
      ∀ h control user, s.threads[k]? = some (.starting h control user) → answer.ok = true →
        ∀ stream ∈ s.native.streams, stream.handle = h.id → stream.interface = answer.interface
  | _ => True

end CameraRs.Uvc.Resources

/-
The controls of a Camera2 device: the calls of `ndk_camera2_bridge.cpp` that change the capture
request, and `set_control` and `supported_modes` above them.

A request is changed entry by entry and then sent again; the NDK may refuse each of these. What a
call changed before it was refused stays in the request. The native lock is held from the first
call to the last, and starts and stops take it too.
-/

import CameraRs.V4l2.Controls

namespace CameraRs.Camera2.Controls

open Uvc.Controls (CameraControlType controlNotSupported)
open V4l2.Controls (CameraControlValue)

/-! ### `camera2_metadata.h` -/

structure Rect where
  left : Int32
  top : Int32
  width : Int32
  height : Int32
deriving DecidableEq

/-- `camera2_zoom_crop`, in the `int64_t` that it is computed in. -/
def zoomCrop (sensor : Rect) (zoom100 : Int32) : Option Rect :=
  if zoom100 < 100 ∨ sensor.left < 0 ∨ sensor.top < 0 ∨ sensor.width ≤ 0 ∨ sensor.height ≤ 0 then
    none
  else
    let w := (sensor.width.toInt * 100).tdiv zoom100.toInt
    let h := (sensor.height.toInt * 100).tdiv zoom100.toInt
    let x := sensor.left.toInt + (sensor.width.toInt - w).tdiv 2
    let y := sensor.top.toInt + (sensor.height.toInt - h).tdiv 2
    if w = 0 ∨ h = 0 ∨ x > 2147483647 ∨ y > 2147483647 then none
    else
      some
        { left := Int32.ofInt x
          top := Int32.ofInt y
          width := Int32.ofInt w
          height := Int32.ofInt h }

/-! ### `ndk_camera2_bridge.cpp` -/

/-- The status codes of the calls below. -/
inductive NdkCameraStatus
  | ok
  | invalidParam
  | sessionFailed
  | notFound
  | notStreaming
  | internal
deriving DecidableEq

/-- The kinds of `ndk_camera2_get_control_modes`. -/
inductive Kind
  | ae
  | af
  | awb
deriving DecidableEq

/-- The metadata of a device that are looked at here. A list of modes that is missing is empty. -/
structure Characteristics where
  activeArray : Option Rect
  modes : Kind → List UInt8

structure CaptureRequest where
  mode : Kind → Option UInt8
  afTrigger : Option UInt8 := none
  compensation : Option Int32 := none
  cropRegion : Option Rect := none
  sensitivity : Option Int32 := none

/-- `repeating` is the request that the session repeats, `captures` are its single captures. -/
structure NdkCamera2 where
  devices : List Characteristics
  activeDeviceIndex : Int32 := -1
  streaming : Bool := false
  captureSession : Bool := false
  captureRequest : Option CaptureRequest := none
  repeating : Option CaptureRequest := none
  captures : List CaptureRequest := []

/-- What the NDK answers during one call; `lost` is that the device is lost before `streaming` is
read. -/
structure Ndk where
  characteristics : Bool := true
  setEntry : Bool := true
  setSecond : Bool := true
  setIdle : Bool := true
  capture : Bool := true
  setRepeating : Bool := true
  lost : Bool := false

def AF_MODE_AUTO : Int32 := 1
def AF_TRIGGER_IDLE : UInt8 := 0
def AF_TRIGGER_START : UInt8 := 1
def AE_MODE_OFF : UInt8 := 0

def modeMask (modes : List UInt8) : BitVec 32 :=
  modes.foldl
    (fun (mask : BitVec 32) (mode : UInt8) =>
      if mode < 32 then mask ||| BitVec.ofNat 32 1 <<< mode.toNat else mask)
    0

def hasBit (mask : BitVec 32) (mode : Nat) : Bool :=
  decide (mask &&& BitVec.ofNat 32 1 <<< mode ≠ 0)

namespace NdkCamera2

variable (ndk : Ndk) (cam : NdkCamera2)

/-- A change of an entry that was accepted. -/
def write (request : CaptureRequest) : NdkCamera2 := { cam with captureRequest := some request }

def updateRepeatingRequest : NdkCamera2 × NdkCameraStatus :=
  let cam := { cam with streaming := cam.streaming && !ndk.lost }
  if !cam.streaming || !cam.captureSession || cam.captureRequest.isNone then (cam, .notStreaming)
  else if ndk.setRepeating then ({ cam with repeating := cam.captureRequest }, .ok)
  else ({ cam with repeating := none }, .internal)

def queriedDevice : Option Characteristics :=
  cam.devices[(if 0 ≤ cam.activeDeviceIndex then cam.activeDeviceIndex else 0).toInt.toNat]?

def getControlModes (kind : Kind) : Except NdkCameraStatus (BitVec 32) :=
  match cam.queriedDevice with
  | none => .error .notFound
  | some device =>
      if ndk.characteristics then .ok (modeMask (device.modes kind)) else .error .internal

/-- The trigger of `set_mode` for one focus, whose answer of `setIdle` nobody looks at. -/
def triggerFocus (request : CaptureRequest) : NdkCamera2 × NdkCameraStatus :=
  if !ndk.setSecond then (cam.write request, .invalidParam)
  else
    let triggered := { request with afTrigger := some AF_TRIGGER_START }
    let idle := { request with afTrigger := some AF_TRIGGER_IDLE }
    let next := cam.write (if ndk.setIdle then idle else triggered)
    if ndk.capture then
      { next with captures := cam.captures ++ [triggered] }.updateRepeatingRequest ndk
    else (next, .sessionFailed)

def setMode (kind : Kind) (mode : Int32) : NdkCamera2 × NdkCameraStatus :=
  match cam.captureRequest with
  | none => (cam, .notStreaming)
  | some request =>
      match cam.getControlModes ndk kind with
      | .error status => (cam, status)
      | .ok mask =>
          if mode < 0 ∨ 32 ≤ mode ∨ hasBit mask mode.toInt.toNat = false then (cam, .invalidParam)
          else if !ndk.setEntry then (cam, .invalidParam)
          else
            let value := UInt8.ofNat mode.toInt.toNat
            let request :=
              { request with mode := Function.update request.mode kind (some value) }
            if kind = .af ∧ mode = AF_MODE_AUTO then cam.triggerFocus ndk request
            else (cam.write request).updateRepeatingRequest ndk

def setExposureCompensation (value : Int32) : NdkCamera2 × NdkCameraStatus :=
  match cam.captureRequest with
  | none => (cam, .notStreaming)
  | some request =>
      if ndk.setEntry then
        (cam.write { request with compensation := some value }).updateRepeatingRequest ndk
      else (cam, .invalidParam)

/-- The active device; there is none before the first start and after a stop. -/
def activeDevice : Option Characteristics :=
  if 0 ≤ cam.activeDeviceIndex then cam.devices[cam.activeDeviceIndex.toInt.toNat]? else none

def setZoom (zoom100 : Int32) : NdkCamera2 × NdkCameraStatus :=
  match cam.captureRequest with
  | none => (cam, .notStreaming)
  | some request =>
      match cam.activeDevice with
      | none => (cam, .internal)
      | some device =>
          if !ndk.characteristics then (cam, .internal)
          else
            match device.activeArray with
            | none => (cam, .internal)
            | some sensor =>
                match zoomCrop sensor zoom100 with
                | none => (cam, .invalidParam)
                | some crop =>
                    if ndk.setEntry then
                      (cam.write { request with cropRegion := some crop }).updateRepeatingRequest
                        ndk
                    else (cam, .invalidParam)

/-- Exposure has to be off for a sensitivity; it stays off when the sensitivity is refused. -/
def setSensitivity (iso : Int32) : NdkCamera2 × NdkCameraStatus :=
  match cam.captureRequest with
  | none => (cam, .notStreaming)
  | some request =>
      match cam.getControlModes ndk .ae with
      | .error _ => (cam, .invalidParam)
      | .ok modes =>
          if hasBit modes 0 = false then (cam, .invalidParam)
          else if !ndk.setEntry then (cam, .invalidParam)
          else
            let off :=
              { request with mode := Function.update request.mode .ae (some AE_MODE_OFF) }
            if ndk.setSecond then
              (cam.write { off with sensitivity := some iso }).updateRepeatingRequest ndk
            else (cam.write off, .invalidParam)

/-- A start whose NDK calls go through; `template` is what `ACameraDevice_createCaptureRequest`
gave. -/
def start (deviceIndex : Int32) (template : CaptureRequest) : NdkCamera2 :=
  if deviceIndex < 0 ∨ (cam.devices.length : Int) ≤ deviceIndex.toInt ∨ cam.streaming then cam
  else
    { cam with
      activeDeviceIndex := deviceIndex
      streaming := true
      captureSession := true
      captureRequest := some template
      repeating := some template
      captures := [] }

/-- A stop, and a start that failed after its first `cleanup_streaming`. -/
def stop : NdkCamera2 :=
  { cam with
    activeDeviceIndex := -1
    streaming := false
    captureSession := false
    captureRequest := none
    repeating := none
    captures := [] }

/-- `on_device_disconnected` and `on_device_error`. -/
def lose : NdkCamera2 := { cam with streaming := false }

end NdkCamera2

/-! ### `Camera2Camera` -/

inductive Call
  | exposureCompensation (value : Int32)
  | mode (kind : Kind) (mode : Int32)
  | zoom (zoom100 : Int32)
  | sensitivity (iso : Int32)

def NdkCamera2.perform (ndk : Ndk) (cam : NdkCamera2) : Call → NdkCamera2 × NdkCameraStatus
  | .exposureCompensation value => cam.setExposureCompensation ndk value
  | .mode kind mode => cam.setMode ndk kind mode
  | .zoom zoom100 => cam.setZoom ndk zoom100
  | .sensitivity iso => cam.setSensitivity ndk iso

section Camera

variable (asI32 : UInt32 → Int32) (statusError : NdkCameraStatus → String → CameraError)

/-- `CameraControlValue::as_i32`, which always has an answer. -/
def valueAsI32 : CameraControlValue → Int32
  | .integer value _ => value
  | .boolean value => if value then 1 else 0
  | .float bits => asI32 bits

def callOf (control : CameraControlType) (value : CameraControlValue) : CameraResult Call :=
  match control with
  | .brightness | .exposure => .ok (.exposureCompensation (valueAsI32 asI32 value))
  | .autoExposure => .ok (.mode .ae (valueAsI32 asI32 value))
  | .focus | .autoFocus => .ok (.mode .af (valueAsI32 asI32 value))
  | .whiteBalance | .autoWhiteBalance => .ok (.mode .awb (valueAsI32 asI32 value))
  | .zoom => .ok (.zoom (valueAsI32 asI32 value))
  | .gain => .ok (.sensitivity (valueAsI32 asI32 value))
  | _ => .error (controlNotSupported (control.name ++ " is not supported via NDK Camera2"))

def setControl (ndk : Ndk) (cam : NdkCamera2) (control : CameraControlType)
    (value : CameraControlValue) : NdkCamera2 × CameraResult Unit :=
  match callOf asI32 control value with
  | .error error => (cam, .error error)
  | .ok call =>
      let performed := cam.perform ndk call
      (performed.1,
        if performed.2 = .ok then .ok ()
        else .error (statusError performed.2 ("set " ++ control.name)))

/-- The `kind` of `supported_modes`. -/
def kindOf : CameraControlType → Option Kind
  | .autoExposure => some .ae
  | .autoFocus => some .af
  | .autoWhiteBalance => some .awb
  | _ => none

def supportedModes (ndk : Ndk) (cam : NdkCamera2) (control : CameraControlType) :
    CameraResult (List Nat) :=
  match kindOf control with
  | none => .error (controlNotSupported (control.name ++ " modes"))
  | some kind =>
      match cam.getControlModes ndk kind with
      | .error status => .error (statusError status "query control modes")
      | .ok mask => .ok ((List.range 32).filter (hasBit mask))

/-- What happens to a camera: under its native lock, and from outside. -/
inductive Op
  | setControl (ndk : Ndk) (control : CameraControlType) (value : CameraControlValue)
  | start (deviceIndex : Int32) (template : CaptureRequest)
  | stop
  | lost

def step (cam : NdkCamera2) : Op → NdkCamera2
  | .setControl ndk control value => (setControl asI32 statusError ndk cam control value).1
  | .start deviceIndex template => cam.start deviceIndex template
  | .stop => cam.stop
  | .lost => cam.lose

def run (cam : NdkCamera2) (ops : List Op) : NdkCamera2 := ops.foldl (step asI32 statusError) cam

end Camera

end CameraRs.Camera2.Controls

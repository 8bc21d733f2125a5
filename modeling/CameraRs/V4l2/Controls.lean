/-
The controls of a V4L2 device: `query`, `get_control`, `set_control` and `get_control_range`
over the calls of `v4l2_bridge.c`.

The driver is a parameter with a state of its own. What `Lawful` asks of it is documented for
`VIDIOC_QUERYCTRL` and `VIDIOC_S_CTRL`; no call is assumed to succeed.
-/

import CameraRs.Uvc.Controls
import CameraRs.V4l2.Stream

namespace CameraRs.V4l2.Controls

open Uvc.Controls (CameraControlType controlNotSupported)
open CameraRs.V4l2.Stream (Errno EINVAL)

/-! ### The driver -/

def ENOTSUP : Errno := 95

inductive CtrlType
  | integer
  | boolean
  | menu
  | other
deriving DecidableEq

/-- `v4l2_queryctrl`, with the flags that are looked at here. -/
structure Queryctrl where
  type : CtrlType
  minimum : Int32
  maximum : Int32
  step : Int32
  defaultValue : Int32
  disabled : Bool
  readOnly : Bool
  writeOnly : Bool
deriving DecidableEq

/-- `VIDIOC_QUERYCTRL`, `VIDIOC_QUERYMENU`, `VIDIOC_G_CTRL` and `VIDIOC_S_CTRL`. -/
structure Driver (Device : Type) where
  queryctrl : Device → UInt32 → Except Errno Queryctrl
  querymenu : Device → UInt32 → UInt32 → Except Errno Unit
  gCtrl : Device → UInt32 → Except Errno Int32
  sCtrl : Device → UInt32 → Int32 → Device × Except Errno Unit

structure Control where
  min : Int32
  max : Int32
  step : Int32
  default : Int32
  readOnly : Bool

/-- The test of `set_control`, in the `i64` that it is made in. -/
def outside (min max step value : Int32) : Bool :=
  decide (value < min) || decide (value > max) ||
    decide ((value.toInt - min.toInt).tmod (Max.max step 1).toInt ≠ 0)

def Queryctrl.Admits (info : Queryctrl) (value : Int32) : Prop :=
  outside info.minimum info.maximum info.step value = false

/-! ### `CameraControlType` -/

def displayName : CameraControlType → String
  | .whiteBalance => "White Balance"
  | .backlightCompensation => "Backlight Compensation"
  | .autoExposure => "Auto Exposure"
  | .autoFocus => "Auto Focus"
  | .autoWhiteBalance => "Auto White Balance"
  | control => control.name

def BASE : UInt32 := 0x00980900
def CAMERA : UInt32 := 0x009a0900

def controlId : CameraControlType → UInt32
  | .brightness => BASE
  | .contrast => BASE + 1
  | .saturation => BASE + 2
  | .hue => BASE + 3
  | .autoWhiteBalance => BASE + 12
  | .gamma => BASE + 16
  | .gain => BASE + 19
  | .whiteBalance => BASE + 26
  | .sharpness => BASE + 27
  | .backlightCompensation => BASE + 28
  | .autoExposure => CAMERA + 1
  | .exposure => CAMERA + 2
  | .pan => CAMERA + 8
  | .tilt => CAMERA + 9
  | .focus => CAMERA + 10
  | .autoFocus => CAMERA + 12
  | .zoom => CAMERA + 13
  | .iris => CAMERA + 17

def autoControl : CameraControlType → Option CameraControlType
  | .exposure => some .autoExposure
  | .focus => some .autoFocus
  | .whiteBalance => some .autoWhiteBalance
  | _ => none

/-- `CameraControlValue`; a float is known by its bits. -/
inductive CameraControlValue
  | integer (value : Int32) (isAuto : Bool)
  | boolean (value : Bool)
  | float (bits : UInt32)
deriving DecidableEq

structure CameraControlRange where
  min : Int32
  max : Int32
  step : Int32
  default : Int32
  supportsAuto : Bool
deriving DecidableEq

section Calls

variable {Device : Type} (driver : Driver Device)

/-! ### `v4l2_bridge.c` -/

def queryControl (device : Device) (id : UInt32) : Except Errno Control :=
  match driver.queryctrl device id with
  | .error errno => .error errno
  | .ok info =>
    if info.disabled || info.writeOnly then .error ENOTSUP
    else if info.type = .other then .error ENOTSUP
    else .ok ⟨info.minimum, info.maximum, info.step, info.defaultValue, info.readOnly⟩

/-- The modes that `exposure_menu` finds, or -1. -/
structure ExposureMenu where
  manual : Int32
  automatic : Int32

def V4L2_EXPOSURE_AUTO : UInt32 := 0
def V4L2_EXPOSURE_MANUAL : UInt32 := 1
def V4L2_EXPOSURE_APERTURE_PRIORITY : UInt32 := 3

def probeMode (device : Device) (id : UInt32) (info : Queryctrl) (found : ExposureMenu)
    (index : UInt32) : Except Errno ExposureMenu :=
  if (index.toNat : Int) < info.minimum.toInt ∨ (index.toNat : Int) > info.maximum.toInt then
    .ok found
  else
    match driver.querymenu device id index with
    | .error errno => if errno = EINVAL then .ok found else .error errno
    | .ok _ =>
      if index = V4L2_EXPOSURE_MANUAL then .ok { found with manual := index.toInt32 }
      else .ok { found with automatic := index.toInt32 }

def candidates : List UInt32 :=
  [V4L2_EXPOSURE_MANUAL, V4L2_EXPOSURE_AUTO, V4L2_EXPOSURE_APERTURE_PRIORITY]

def exposureMenu (device : Device) : Except Errno ExposureMenu :=
  match driver.queryctrl device (controlId .autoExposure) with
  | .error errno => .error errno
  | .ok info =>
    if info.disabled || decide (info.type ≠ .menu) then .error ENOTSUP
    else
      match candidates.foldlM (probeMode driver device (controlId .autoExposure) info) ⟨-1, -1⟩ with
      | .error errno => .error errno
      | .ok found =>
        if 0 ≤ found.manual ∨ 0 ≤ found.automatic then .ok found else .error ENOTSUP

def exposureModes (device : Device) : Except Errno UInt32 :=
  match exposureMenu driver device with
  | .error errno => .error errno
  | .ok found =>
    .ok ((if 0 ≤ found.manual then 1 else 0) ||| (if 0 ≤ found.automatic then 2 else 0))

def autoExposure (device : Device) (enabled : Bool) : Device × Except Errno Unit :=
  match exposureMenu driver device with
  | .error errno => (device, .error errno)
  | .ok found =>
    let mode := if enabled then found.automatic else found.manual
    if mode < 0 then (device, .error ENOTSUP)
    else driver.sCtrl device (controlId .autoExposure) mode

/-! ### `V4l2Camera` -/

variable (ioError : Errno → CameraError)

def controlError (control : CameraControlType) (errno : Errno) : CameraError :=
  if errno = EINVAL ∨ errno = ENOTSUP then controlNotSupported (displayName control)
  else ioError errno

def query (device : Device) (control : CameraControlType) : CameraResult Control :=
  (queryControl driver device (controlId control)).mapError (controlError ioError control)

def controlWritable (device : Device) (control : CameraControlType) : CameraResult Bool :=
  (query driver ioError device control).map fun range => !range.readOnly

def readAuto (device : Device) (control : CameraControlType) : CameraResult Bool :=
  match driver.gCtrl device (controlId control) with
  | .error errno => .error (ioError errno)
  | .ok value =>
    .ok (if control = .autoExposure then decide (value ≠ 1) else decide (value ≠ 0))

def writeAuto (device : Device) (control : CameraControlType) (enabled : Bool) :
    Device × CameraResult Unit :=
  if control = .autoExposure then
    let written := autoExposure driver device enabled
    (written.1, written.2.mapError (controlError ioError control))
  else
    let written := driver.sCtrl device (controlId control) (if enabled then 1 else 0)
    (written.1, written.2.mapError ioError)

/-- The control for the automatic mode, if the device has it. -/
def automatic (device : Device) (control : CameraControlType) : Option CameraControlType :=
  (autoControl control).filter fun c => (query driver ioError device c).toBool

def getControl (device : Device) (control : CameraControlType) :
    CameraResult CameraControlValue := do
  let _ ← query driver ioError device control
  if control.isAutoControl then
    return .boolean (← readAuto driver ioError device control)
  let value ← (driver.gCtrl device (controlId control)).mapError ioError
  let isAuto ← match automatic driver ioError device control with
    | some c => readAuto driver ioError device c
    | none => pure false
  return .integer value isAuto

/-- The last call of `set_control`. -/
def writeValue (device : Device) (control : CameraControlType) (value : Int32) :
    Device × CameraResult Unit :=
  let written := driver.sCtrl device (controlId control) value
  (written.1, written.2.mapError ioError)

def setNumber (device : Device) (control : CameraControlType) (range : Control) (value : Int32)
    (auto : Bool) : Device × CameraResult Unit :=
  if control.isAutoControl then
    if value ≠ 0 ∧ value ≠ 1 then
      (device, .error (.invalidConfig "V4L2 auto controls require 0 or 1"))
    else writeAuto driver ioError device control (decide (value ≠ 0))
  else if auto then
    match automatic driver ioError device control with
    | some c => writeAuto driver ioError device c true
    | none => (device, .error (controlNotSupported (control.name ++ " has no automatic mode")))
  else if outside range.min range.max range.step value then
    (device, .error (.invalidConfig (control.name ++ " is outside its V4L2 range/step")))
  else
    match automatic driver ioError device control with
    | some c =>
      let switched := writeAuto driver ioError device c false
      match switched.2 with
      | .error error => (switched.1, .error error)
      | .ok _ => writeValue driver ioError switched.1 control value
    | none => writeValue driver ioError device control value

def setControl (device : Device) (control : CameraControlType) (value : CameraControlValue) :
    Device × CameraResult Unit :=
  match query driver ioError device control with
  | .error error => (device, .error error)
  | .ok range =>
    if range.readOnly then
      (device, .error (controlNotSupported (control.name ++ " is read-only")))
    else
      match value with
      | .integer value isAuto => setNumber driver ioError device control range value isAuto
      | .boolean value =>
        setNumber driver ioError device control range (if value then 1 else 0) false
      | .float _ =>
        (device, .error (.invalidConfig "V4L2 controls require integer or boolean values"))

/-- `Ord::clamp`, which panics on bounds that are not ordered. -/
def clamp (value min max : Int32) : Option Int32 :=
  if min ≤ max then some (if value < min then min else if value > max then max else value)
  else none

/-- `get_control_range`; `none` is a panic. -/
def getControlRange (device : Device) (control : CameraControlType) :
    Option (CameraResult CameraControlRange) :=
  match query driver ioError device control with
  | .error error => some (.error error)
  | .ok range =>
    if control = .autoExposure then
      match exposureModes driver device with
      | .error errno => some (.error (controlError ioError control errno))
      | .ok bits =>
        let min := if bits &&& 1 = 0 then 1 else 0
        let max := if bits &&& 2 ≠ 0 then 1 else 0
        (clamp (if range.default ≠ 1 then 1 else 0) min max).map fun default =>
          .ok ⟨min, max, 1, default, false⟩
    else if control.isAutoControl then
      (clamp range.default range.min range.max).map fun default =>
        .ok ⟨range.min, range.max, 1, default, false⟩
    else
      some (.ok ⟨range.min, range.max, Max.max range.step 1, range.default,
        (automatic driver ioError device control).isSome⟩)

def runSets (device : Device) (calls : List (CameraControlType × CameraControlValue)) : Device :=
  calls.foldl (fun device call => (setControl driver ioError device call.1 call.2).1) device

end Calls

end CameraRs.V4l2.Controls

/-
Setting a control of a UVC camera.

A session checks a value against the range that the device reports, if it reports one, and
libuvc then takes it in a C type of the control's own. Device answers are a parameter; a getter
answers in the C type that it is declared with.
-/

import CameraRs.Error
import CameraRs.Negotiation.Device
import Mathlib.Data.Rat.Defs
import Mathlib.Logic.Function.Basic

namespace CameraRs.Uvc.Controls

open Negotiation (BackendType)

/-! ### Errors -/

def controlNotSupported (message : String) : CameraError :=
  ⟨.controlNotSupported, "Control not supported: " ++ message⟩

def controlNotReadable (message : String) : CameraError :=
  ⟨.controlNotReadable, "Control is not readable: " ++ message⟩

inductive UvcErrorCode
  | success
  | io
  | invalidParam
  | access
  | noDevice
  | notFound
  | busy
  | timeout
  | overflow
  | pipe
  | interrupted
  | noMem
  | notSupported
  | invalidDevice
  | invalidMode
  | callbackExists
  | other

namespace UvcErrorCode

def fromCode (code : Int32) : UvcErrorCode :=
  match code.toInt with
  | 0 => .success
  | -1 => .io
  | -2 => .invalidParam
  | -3 => .access
  | -4 => .noDevice
  | -5 => .notFound
  | -6 => .busy
  | -7 => .timeout
  | -8 => .overflow
  | -9 => .pipe
  | -10 => .interrupted
  | -11 => .noMem
  | -12 => .notSupported
  | -50 => .invalidDevice
  | -51 => .invalidMode
  | -52 => .callbackExists
  | _ => .other

def message : UvcErrorCode → String
  | .success => "Success"
  | .io => "I/O error"
  | .invalidParam => "Invalid parameter"
  | .access => "Access denied"
  | .noDevice => "Device does not exist"
  | .notFound => "Not found"
  | .busy => "Device busy"
  | .timeout => "Timeout"
  | .overflow => "Buffer overflow"
  | .pipe => "Pipe error"
  | .interrupted => "Operation interrupted"
  | .noMem => "Out of memory"
  | .notSupported => "Not supported"
  | .invalidDevice => "Invalid device"
  | .invalidMode => "Invalid mode"
  | .callbackExists => "Callback already exists"
  | .other => "Other error"

/-- The kind of `CameraError::uvc`, which tells controls from streams. -/
def kind : UvcErrorCode → CameraErrorKind
  | .access => .permissionDenied
  | .noDevice | .notFound | .invalidDevice => .deviceNotFound
  | .busy => .deviceBusy
  | .timeout => .timeout
  | .notSupported => .controlNotSupported
  | .invalidParam | .invalidMode => .invalidArgument
  | _ => .controlFailure

end UvcErrorCode

def uvcError (code : Int32) (operation : String) : CameraError :=
  ⟨(UvcErrorCode.fromCode code).kind, "uvc " ++ operation ++ " failed (code " ++
    toString code.toInt ++ "): " ++ (UvcErrorCode.fromCode code).message⟩

/-! ### Controls and their values -/

inductive ControlId
  | exposureMode
  | exposureTime
  | exposureCompensation
  | focusMode
  | focusPosition
  | whiteBalanceMode
  | whiteBalanceTemperature
  | zoom
  | brightness
  | contrast
  | hue
  | saturation
  | sharpness
  | gamma
  | backlightCompensation
  | gain
  | pan
  | tilt
  | iris
deriving DecidableEq

/-- The `Debug` rendering. -/
def ControlId.name : ControlId → String
  | .exposureMode => "ExposureMode"
  | .exposureTime => "ExposureTime"
  | .exposureCompensation => "ExposureCompensation"
  | .focusMode => "FocusMode"
  | .focusPosition => "FocusPosition"
  | .whiteBalanceMode => "WhiteBalanceMode"
  | .whiteBalanceTemperature => "WhiteBalanceTemperature"
  | .zoom => "Zoom"
  | .brightness => "Brightness"
  | .contrast => "Contrast"
  | .hue => "Hue"
  | .saturation => "Saturation"
  | .sharpness => "Sharpness"
  | .gamma => "Gamma"
  | .backlightCompensation => "BacklightCompensation"
  | .gain => "Gain"
  | .pan => "Pan"
  | .tilt => "Tilt"
  | .iris => "Iris"

inductive ControlUnit
  | boolean
  | mode
  | native
  | hundredMicroseconds
  | log2Seconds
  | milliEv
  | compensationIndex
  | kelvin
  | percent
  | degrees
  | arcSeconds
  | iso
deriving DecidableEq

inductive ControlMode
  | manual
  | automatic
  | locked
  | single
  | continuous
deriving DecidableEq

/-- A number of `f64` is a rational one, or none if it is not finite. -/
inductive ControlValue
  | number (value : Option ℚ)
  | mode (mode : ControlMode)

inductive CameraControlType
  | brightness
  | contrast
  | hue
  | saturation
  | sharpness
  | gamma
  | whiteBalance
  | backlightCompensation
  | gain
  | pan
  | tilt
  | zoom
  | exposure
  | iris
  | focus
  | autoExposure
  | autoFocus
  | autoWhiteBalance
deriving DecidableEq

namespace CameraControlType

/-- The `Debug` rendering. -/
def name : CameraControlType → String
  | .brightness => "Brightness"
  | .contrast => "Contrast"
  | .hue => "Hue"
  | .saturation => "Saturation"
  | .sharpness => "Sharpness"
  | .gamma => "Gamma"
  | .whiteBalance => "WhiteBalance"
  | .backlightCompensation => "BacklightCompensation"
  | .gain => "Gain"
  | .pan => "Pan"
  | .tilt => "Tilt"
  | .zoom => "Zoom"
  | .exposure => "Exposure"
  | .iris => "Iris"
  | .focus => "Focus"
  | .autoExposure => "AutoExposure"
  | .autoFocus => "AutoFocus"
  | .autoWhiteBalance => "AutoWhiteBalance"

def isAutoControl : CameraControlType → Bool
  | .autoExposure | .autoFocus | .autoWhiteBalance => true
  | _ => false

end CameraControlType

/-- `CameraControlValue`, without the floats that no caller here makes. -/
inductive RawValue
  | integer (value : Int32) (isAuto : Bool)
  | boolean (value : Bool)

namespace RawValue

def manual (value : Int32) : RawValue := .integer value false

def asI32 : RawValue → Option Int32
  | .integer value _ => some value
  | .boolean value => some (if value then 1 else 0)

def asBool : RawValue → Option Bool
  | .boolean value => some value
  | .integer value _ => some (decide (value ≠ 0))

end RawValue

def displayName : BackendType → String
  | .uvc => "UVC (libuvc)"
  | .v4l2 => "Linux V4L2"
  | .avFoundation => "AVFoundation"
  | .camera2 => "Android Camera2"
  | .mediaFoundation => "Windows Media Foundation"

def mapping (backend : BackendType) (id : ControlId) :
    CameraResult (CameraControlType × ControlUnit) :=
  let av := decide (backend = .avFoundation)
  let c2 := decide (backend = .camera2)
  let unsupported : CameraResult (CameraControlType × ControlUnit) :=
    .error (controlNotSupported (id.name ++ " on " ++ displayName backend))
  match id with
  | .exposureMode => .ok (if av then .exposure else .autoExposure, .mode)
  | .exposureTime =>
      if av || c2 then unsupported
      else .ok (.exposure,
        if backend = .mediaFoundation then .log2Seconds else .hundredMicroseconds)
  | .exposureCompensation =>
      if av then .ok (.brightness, .milliEv)
      else if c2 then .ok (.exposure, .compensationIndex)
      else unsupported
  | .focusMode => .ok (if av then .focus else .autoFocus, .mode)
  | .whiteBalanceMode => .ok (if av then .whiteBalance else .autoWhiteBalance, .mode)
  | .focusPosition => if av || c2 then unsupported else .ok (.focus, .native)
  | .whiteBalanceTemperature => if av || c2 then unsupported else .ok (.whiteBalance, .kelvin)
  | .brightness => if av || c2 then unsupported else .ok (.brightness, .native)
  | .contrast => .ok (.contrast, .native)
  | .hue => .ok (.hue, .native)
  | .saturation => .ok (.saturation, .native)
  | .sharpness => .ok (.sharpness, .native)
  | .gamma => .ok (.gamma, .native)
  | .backlightCompensation => .ok (.backlightCompensation, .native)
  | .gain => .ok (.gain, if c2 then .iso else .native)
  | .zoom => .ok (.zoom, if av || c2 then .percent else .native)
  | .pan => .ok (.pan, .native)
  | .tilt => .ok (.tilt, .native)
  | .iris => .ok (.iris, .native)

/-! ### libuvc -/

inductive UvcReqCode
  | getCur
  | getMin
  | getMax
  | getRes
  | getDef

/-- The `Debug` rendering. -/
def UvcReqCode.name : UvcReqCode → String
  | .getCur => "GetCur"
  | .getMin => "GetMin"
  | .getMax => "GetMax"
  | .getRes => "GetRes"
  | .getDef => "GetDef"

inductive CType
  | i16
  | u16
  | u32
deriving DecidableEq

/-- An argument of a setter, or what a getter stores. -/
inductive CValue
  | u8 (value : UInt8)
  | i16 (value : Int16)
  | u16 (value : UInt16)
  | u32 (value : UInt32)
deriving DecidableEq

def CValue.toInt : CValue → Int
  | .u8 value => value.toNat
  | .i16 value => value.toInt
  | .u16 value => value.toNat
  | .u32 value => value.toNat

def CValue.asI32 : CValue → Int32
  | .u8 value => value.toUInt32.toInt32
  | .i16 value => value.toInt32
  | .u16 value => value.toUInt32.toInt32
  | .u32 value => value.toInt32

def CType.cast : CType → Int32 → CValue
  | .i16, value => .i16 value.toInt16
  | .u16, value => .u16 value.toUInt32.toUInt16
  | .u32, value => .u32 value.toUInt32

/-- An open device. A getter fails with a code or stores a value; the number tells apart
requests that one call makes twice. A setter answers with a code. -/
structure DeviceHandle where
  u8 : CameraControlType → UvcReqCode → Nat → Except Int32 UInt8
  i16 : CameraControlType → UvcReqCode → Nat → Except Int32 Int16
  u16 : CameraControlType → UvcReqCode → Nat → Except Int32 UInt16
  u32 : CameraControlType → UvcReqCode → Nat → Except Int32 UInt32
  set : CameraControlType → CValue → Int32

def DeviceHandle.query (handle : DeviceHandle) (type : CType) (control : CameraControlType)
    (request : UvcReqCode) (nth : Nat) : Except Int32 CValue :=
  match type with
  | .i16 => (handle.i16 control request nth).map .i16
  | .u16 => (handle.u16 control request nth).map .u16
  | .u32 => (handle.u32 control request nth).map .u32

def checked {α : Type} (operation : String) : Except Int32 α → CameraResult α
  | .ok value => .ok value
  | .error code => .error (uvcError code operation)

structure NumericControl where
  type : CType
  getFailed : String
  invalid : String

def CameraControlType.numeric : CameraControlType → Option NumericControl
  | .exposure => some ⟨.u32, "Failed to get exposure time", "Invalid exposure time value"⟩
  | .focus => some ⟨.u16, "Failed to get focus", "Invalid focus value"⟩
  | .zoom => some ⟨.u16, "Failed to get zoom", "Invalid zoom value"⟩
  | .brightness => some ⟨.i16, "Failed to get brightness", "Invalid brightness value"⟩
  | .contrast => some ⟨.u16, "Failed to get contrast", "Invalid contrast value"⟩
  | .saturation => some ⟨.u16, "Failed to get saturation", "Invalid saturation value"⟩
  | .hue => some ⟨.i16, "Failed to get hue", "Invalid hue value"⟩
  | .sharpness => some ⟨.u16, "Failed to get sharpness", "Invalid sharpness value"⟩
  | .gamma => some ⟨.u16, "Failed to get gamma", "Invalid gamma value"⟩
  | .whiteBalance => some ⟨.u16, "Failed to get white balance temperature",
      "Invalid white balance temperature value"⟩
  | .gain => some ⟨.u16, "Failed to get gain", "Invalid gain value"⟩
  | .backlightCompensation => some ⟨.u16, "Failed to get backlight compensation",
      "Invalid backlight compensation value"⟩
  | _ => none

structure CameraControlRange where
  min : Int
  max : Int
  step : Int
  default : Int

def tryI32 (value : CValue) : CameraResult Int :=
  if value.toInt ≤ 2147483647 then .ok value.toInt
  else .error (.invalidFrame "UVC control range exceeds i32")

def selectAeMode (mask : UInt8) (enabled : Bool) : CameraResult UInt8 :=
  let candidates : List UInt8 := if enabled then [2, 8, 4] else [1]
  match candidates.find? fun m => decide (mask &&& m ≠ 0) with
  | some m => .ok m
  | none => .error (controlNotSupported "Requested UVC exposure mode is unavailable")

structure Setting where
  control : CameraControlType
  value : CValue

structure UvcCamera where
  handle : Option DeviceHandle

namespace UvcCamera

def opened (camera : UvcCamera) : CameraResult DeviceHandle :=
  match camera.handle with
  | some handle => .ok handle
  | none => .error (.deviceOpenFailed "Device not open")

def exposureModes (camera : UvcCamera) : CameraResult (List ControlMode) :=
  match camera.handle with
  | none => .error .streamStopped
  | some handle => do
      let mask ← checked "Query exposure modes" (handle.u8 .autoExposure .getRes 0)
      return (if mask &&& 1 ≠ 0 then [.manual] else []) ++
        if mask &&& 14 ≠ 0 then [.automatic] else []

def getControl (camera : UvcCamera) (control : CameraControlType) (nth : Nat) :
    CameraResult RawValue := do
  let handle ← camera.opened
  match control.numeric, control with
  | some numeric, _ =>
      let value ← checked numeric.getFailed (handle.query numeric.type control .getCur nth)
      return .manual value.asI32
  | none, .autoExposure =>
      let mode ← checked "Failed to get auto exposure mode" (handle.u8 control .getCur nth)
      return .boolean (decide (mode = 2 ∨ mode = 4 ∨ mode = 8))
  | none, .autoFocus =>
      let state ← checked "Failed to get auto focus state" (handle.u8 control .getCur nth)
      return .boolean (decide (state ≠ 0))
  | none, .autoWhiteBalance =>
      let state ← checked "Failed to get auto white balance state" (handle.u8 control .getCur nth)
      return .boolean (decide (state ≠ 0))
  | none, _ => throw (controlNotSupported control.name)

def supportsControl (camera : UvcCamera) (control : CameraControlType) : Bool :=
  (camera.getControl control 0).isOk

/-- One turn of the loop in `range!`. -/
def bound (handle : DeviceHandle) (type : CType) (control : CameraControlType)
    (request : UvcReqCode) : CameraResult Int := do
  let raw ← checked ("Query " ++ control.name ++ " " ++ request.name)
    (handle.query type control request 0)
  tryI32 raw

def getControlRange (camera : UvcCamera) (control : CameraControlType) :
    CameraResult CameraControlRange := do
  let handle ← camera.opened
  match control.numeric with
  | some numeric =>
      let min ← bound handle numeric.type control .getMin
      let max ← bound handle numeric.type control .getMax
      let step ← bound handle numeric.type control .getRes
      let default ← bound handle numeric.type control .getDef
      if max < min ∨ step ≤ 0 then throw (.invalidFrame "Invalid native control range")
      return { min := min, max := max, step := step, default := default }
  | none =>
      if control.isAutoControl then
        let value ← checked ("Query " ++ control.name ++ " default")
          (handle.u8 control .getDef 0)
        let on := if control = .autoExposure then decide (value = 2 ∨ value = 4 ∨ value = 8)
          else decide (value ≠ 0)
        return { min := 0, max := 1, step := 1, default := if on then 1 else 0 }
      else throw (controlNotSupported control.name)

/-- The setters that are called, and what comes of it. -/
def setControl (camera : UvcCamera) (control : CameraControlType) (value : RawValue) :
    List Setting × CameraResult Unit :=
  let finish (handle : DeviceHandle) (argument : CValue) : List Setting × CameraResult Unit :=
    ([⟨control, argument⟩],
      let code := handle.set control argument
      if code = 0 then .ok ()
      else .error (uvcError code ("Failed to set control parameter: " ++ control.name)))
  match camera.opened with
  | .error e => ([], .error e)
  | .ok handle =>
      match control.numeric, control with
      | some numeric, _ =>
          match value.asI32 with
          | some value => finish handle (numeric.type.cast value)
          | none => ([], .error (.invalidConfig numeric.invalid))
      | none, .autoExposure =>
          match value.asBool with
          | none => ([], .error (.invalidConfig "Auto exposure expects boolean"))
          | some enabled =>
              match checked "Query AE supported modes" (handle.u8 control .getRes 1) >>=
                (selectAeMode · enabled) with
              | .error e => ([], .error e)
              | .ok mode => finish handle (.u8 mode)
      | none, .autoFocus =>
          match value.asBool with
          | none => ([], .error (.invalidConfig "Invalid auto focus value"))
          | some state => finish handle (.u8 (if state then 1 else 0))
      | none, .autoWhiteBalance =>
          match value.asBool with
          | none => ([], .error (.invalidConfig "Invalid auto white balance value"))
          | some state => finish handle (.u8 (if state then 1 else 0))
      | none, _ => ([], .error (controlNotSupported control.name))

end UvcCamera

/-! ### Sessions -/

def decode (id : ControlId) (value : RawValue) : CameraResult ControlValue := do
  let (_, unit) ← mapping .uvc id
  if unit = .mode then
    return .mode (if value.asBool.getD false then .automatic else .manual)
  else
    match value.asI32 with
    | some number => return .number (some number.toInt)
    | none => throw (controlNotReadable "Native numeric value")

structure ControlRange where
  min : Int
  max : Int
  step : Option Int
  default : Option ControlValue

def describeRange (id : ControlId) (raw : CameraControlType) (range : CameraControlRange) :
    ControlRange where
  min := range.min
  max := range.max
  step := if 0 < range.step then some range.step else none
  default := (decode id (if raw.isAutoControl then .boolean (decide (range.default ≠ 0))
    else .manual (Int32.ofInt range.default))).toOption

structure ControlDescriptor where
  id : ControlId
  unit : ControlUnit
  readable : Bool
  writable : Option Bool
  range : Option ControlRange
  modes : List ControlMode
  requiresManual : Option ControlId

def UvcCamera.descriptor (camera : UvcCamera) (id : ControlId) : CameraResult ControlDescriptor := do
  let (raw, unit) ← mapping .uvc id
  if !camera.supportsControl raw then
    throw (controlNotSupported id.name)
  let modes ←
    if id = .exposureMode then camera.exposureModes
    else pure (if unit = .mode then [.manual, .automatic] else [])
  return {
    id := id
    unit := unit
    readable := (camera.getControl raw 1).isOk
    writable := none
    range := (camera.getControlRange raw).toOption.map (describeRange id raw)
    modes := modes
    requiresManual :=
      match id with
      | .exposureTime => some .exposureMode
      | .focusPosition => some .focusMode
      | .whiteBalanceTemperature => some .whiteBalanceMode
      | _ => none }

def ControlRange.admits (range : ControlRange) (value : Int) : Bool :=
  decide (range.min ≤ value ∧ value ≤ range.max) &&
    range.step.all fun step => decide (0 < step → (value - range.min) % step = 0)

def UvcCamera.rawValue (camera : UvcCamera) (id : ControlId) (value : ControlValue) :
    CameraResult (CameraControlType × RawValue) := do
  let (raw, unit) ← mapping .uvc id
  let desc ← camera.descriptor id
  if desc.writable = some false then
    throw (controlNotSupported "Read-only control")
  match value with
  | .mode mode =>
      if unit = .mode then
        if desc.modes.contains mode then return (raw, .boolean (decide (mode = .automatic)))
        else throw (.invalidConfig "Invalid control mode")
      else throw (.invalidConfig "Control value kind differs from descriptor")
  | .number none =>
      if unit = .mode then throw (.invalidConfig "Control value kind differs from descriptor")
      else throw (.invalidConfig "Native control expects a finite representable integer")
  | .number (some v) =>
      if unit = .mode then throw (.invalidConfig "Control value kind differs from descriptor")
      else if v.den ≠ 1 ∨ v.num < -2147483648 ∨ 2147483647 < v.num then
        throw (.invalidConfig "Native control expects a finite representable integer")
      else if desc.range.all (·.admits v.num) then
        return (raw, .manual (Int32.ofInt v.num))
      else throw (.invalidConfig "Control value outside native range/step")

/-- The closure of `set_control`. -/
def UvcCamera.apply (camera : UvcCamera) (id : ControlId) (value : ControlValue) :
    List Setting × CameraResult Unit :=
  match camera.rawValue id value with
  | .error e => ([], .error e)
  | .ok (raw, value) => camera.setControl raw value

inductive Source
  | synthetic
  | native (camera : Option UvcCamera)

/-- A session on a UVC camera, with the values of `requested_controls`. -/
structure CaptureSession where
  stopping : Bool
  source : Source
  requested : ControlId → Option ControlValue

namespace CaptureSession

def withNative (session : CaptureSession)
    (operation : UvcCamera → List Setting × CameraResult Unit) : List Setting × CameraResult Unit :=
  if session.stopping then ([], .error .streamStopped)
  else
    match session.source with
    | .synthetic => ([], .error (controlNotSupported "Synthetic source has no device controls"))
    | .native none => ([], .error (.disconnected "Device is reconnecting"))
    | .native (some camera) => operation camera

def recordControl (session : CaptureSession) (id : ControlId) (value : ControlValue) :
    CaptureSession :=
  { session with requested := Function.update session.requested id (some value) }

/-- What a call of `set_control` did and returned, and the session after it. -/
structure Outcome where
  settings : List Setting
  result : CameraResult Unit
  session : CaptureSession

def setControl (session : CaptureSession) (id : ControlId) (value : ControlValue) : Outcome :=
  match session.withNative (·.apply id value) with
  | (settings, .ok ()) => ⟨settings, .ok (), session.recordControl id value⟩
  | (settings, .error e) => ⟨settings, .error e, session⟩

end CaptureSession

end CameraRs.Uvc.Controls

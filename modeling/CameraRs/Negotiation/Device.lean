/-
Which device answers when an open camera is asked for its modes.

A camera is opened by identifier and remembers the number under which its device was
enumerated. Media Foundation and custom sources answer from what was opened, libuvc from
its handle once a stream has been started; every other query goes to whatever has that
number now. Devices may be plugged, unplugged and renumbered between calls.
-/

import CameraRs.Lib.Machine
import CameraRs.Lib.Text
import CameraRs.Negotiation.Modes

namespace CameraRs.Negotiation

open Lib.Text

/-- `CameraDeviceInfo` without the texts for display. -/
structure CameraDeviceInfo where
  index : Nat
  vendorId : Option UInt16 := none
  productId : Option UInt16 := none
  serialNumber : Option String := none
  devicePath : Option String := none

/-- `{:04x}`. -/
def hex4 (n : UInt16) : String := hexString [UInt8.ofNat (n.toNat / 256), UInt8.ofNat n.toNat]

def CameraDeviceInfo.uniqueId (info : CameraDeviceInfo) : String :=
  match info.devicePath.filter fun path => !path.isEmpty with
  | some path => path
  | none =>
      match info.vendorId, info.productId with
      | some vid, some pid =>
          match info.serialNumber with
          | some serial => hex4 vid ++ ":" ++ hex4 pid ++ ":" ++ serial
          | none => hex4 vid ++ ":" ++ hex4 pid ++ ":" ++ toString info.index
      | _, _ => "device:" ++ toString info.index

/-- What a device answers. `access` is the outcome of opening it for a query and of the
queries; `supports` is the outcome of probing one configuration. The device of a custom
provider describes itself. -/
inductive Device
  | native (access : CameraResult Unit) (configs : List CameraConfig)
      (ranges : List CaptureModeRange) (supports : CameraConfig → CameraResult Bool)
  | custom (described : CameraResult DeviceCapabilities)

namespace Device

def ReportsMode (mode : CaptureMode) : Device → Prop
  | native _ configs _ _ => ∃ config ∈ configs, CaptureMode.fromConfig config = .ok mode
  | custom described => ∃ capabilities, described = .ok capabilities ∧ mode ∈ capabilities.modes

def ReportsRange (range : CaptureModeRange) : Device → Prop
  | native _ _ ranges _ => range ∈ ranges
  | custom described =>
      ∃ capabilities, described = .ok capabilities ∧ range ∈ capabilities.captureModeRanges

/-- The device lists the mode of a configuration, or has accepted it when asked. -/
def ReportsConfig (config : CameraConfig) (device : Device) : Prop :=
  (∃ mode, device.ReportsMode mode ∧ mode.toConfig = .ok config) ∨
    ∃ access configs ranges supports,
      device = native access configs ranges supports ∧ supports config = .ok true

def openedDeviceCapabilities : Device → CameraResult DeviceCapabilities
  | native _ configs _ _ => .ok (.fromConfigurations configs)
  | custom described => described

def synthetic : Device := custom (.ok (.singleNative .rgb 640 480 .standard))

end Device

structure Attached where
  info : CameraDeviceInfo
  device : Device

/-- The devices that a backend enumerates. No two have one number. -/
structure Arrangement where
  attached : List Attached
  distinct : (attached.map fun entry => entry.info.index).Nodup

namespace Arrangement

def select (world : Arrangement) (id : String) : CameraResult Attached :=
  match world.attached.filter fun entry => decide (entry.info.uniqueId = id) with
  | [] => .error (.deviceNotFound id)
  | [entry] => .ok entry
  | _ => .error (.ambiguousDevice id)

def numbered (world : Arrangement) (index : Nat) : Option Device :=
  (world.attached.find? fun entry => decide (entry.info.index = index)).map Attached.device

def named (world : Arrangement) (id : String) : Option Device :=
  match world.select id with
  | .ok entry => some entry.device
  | .error _ => none

end Arrangement

inductive BackendType
  | uvc
  | avFoundation
  | camera2
  | mediaFoundation
  | v4l2
deriving DecidableEq

/-- `formats` of a Media Foundation camera is read at once; libuvc has a handle from the
first start on. The other cameras are never asked for their modes. -/
structure BackendCamera where
  handle : Option Device

inductive Source
  | synthetic
  | custom (device : Option Device)
  | native (backend : BackendType) (camera : Option BackendCamera)

/-- `Device` of the interface, opened by its identifier. -/
structure Camera where
  world : Arrangement
  native : String
  index : Nat
  source : Source
  closed : Bool := false
  busy : Bool := false

def closedDevice : CameraError :=
  .invalidState "Device has been closed; open it again through CameraSystem"

def createSelectedCamera (world : Arrangement) (backend : BackendType) (expected : String) :
    CameraResult BackendCamera :=
  match backend with
  | .uvc => .ok { handle := none }
  | _ => do
      let entry ← world.select expected
      match entry.device with
      | .native access _ _ _ => access
      | .custom _ => .error (.deviceNotFound expected)
      return { handle := if backend = .mediaFoundation then some entry.device else none }

def openNative (world : Arrangement) (backend : BackendType) (id : String) :
    CameraResult Camera := do
  let entry ← world.select id
  let camera ← createSelectedCamera world backend id
  return { world := world, native := id, index := entry.info.index,
           source := .native backend (some camera) }

def openCustom (world : Arrangement) (id : String) : CameraResult Camera := do
  let entry ← world.select id
  return { world := world, native := id, index := entry.info.index,
           source := .custom (some entry.device) }

def openSynthetic (world : Arrangement) : Camera :=
  { world := world, native := "test-pattern", index := 0, source := .synthetic }

/-- `get_supported_configs` and, for V4L2, the ranges. -/
def getDeviceCapabilities (world : Arrangement) (backend : BackendType) (index : Nat) :
    CameraResult DeviceCapabilities :=
  match world.numbered index with
  | some (.native access configs ranges _) => do
      access
      let capabilities := DeviceCapabilities.fromConfigurations configs
      return if backend = .v4l2 then capabilities.withRanges ranges else capabilities
  | _ => .error (.deviceNotFound ("Device index " ++ toString index ++ " not found"))

def isConfigSupported (supports : CameraConfig → CameraResult Bool) (config : CameraConfig) :
    CameraResult Bool :=
  if config.validate.isOk then supports config else .ok false

/-- The loop of `requested_configs`. -/
def probeEach (supports : CameraConfig → CameraResult Bool) :
    List CameraConfig → CameraResult (List CameraConfig)
  | [] => .ok []
  | config :: rest => do
      let supported ← isConfigSupported supports config
      let requested ← probeEach supports rest
      return if supported then config :: requested else requested

/-- Only V4L2 is asked for the modes of the request itself. -/
def requestedConfigs (world : Arrangement) (backend : BackendType) (index : Nat)
    (request : CaptureRequest) (advertised : List CameraConfig) :
    CameraResult (List CameraConfig) :=
  if backend = .v4l2 then
    let formats :=
      if request.preferredFormats.isEmpty then advertised.map CameraConfig.format
      else request.preferredFormats
    let formats := dedup (sortByKey (fun format => [format.toByte]) formats)
    match world.numbered index with
    | some (.native _ _ _ supports) => probeEach supports (formats.map request.configFor)
    | _ => .error (.deviceNotFound ("/dev/video" ++ toString index))
  else .ok []

namespace Camera

def current (camera : Option BackendCamera) : CameraResult BackendCamera :=
  match camera with
  | some camera => .ok camera
  | none => .error (.disconnected "Device is reconnecting")

def externalCapabilities (c : Camera) : CameraResult (Option DeviceCapabilities) :=
  match c.source with
  | .native .mediaFoundation camera => do
      let camera ← current camera
      match camera.handle with
      | some device => (device.openedDeviceCapabilities).map some
      | none => .ok none
  | .native .uvc camera => do
      let camera ← current camera
      match camera.handle with
      | some device => (device.openedDeviceCapabilities).map some
      | none => .ok none
  | .custom (some device) => (device.openedDeviceCapabilities).map some
  | .custom none => .error closedDevice
  | _ => .ok none

def capabilities (c : Camera) : CameraResult DeviceCapabilities :=
  if c.closed then .error closedDevice
  else
    match c.source with
    | .synthetic => .ok (.singleNative .rgb 640 480 .standard)
    | .custom (some device) => device.openedDeviceCapabilities
    | .custom none => .error closedDevice
    | .native backend _ => do
        match ← c.externalCapabilities with
        | some capabilities => return capabilities
        | none => getDeviceCapabilities c.world backend c.index

variable (rateDelta : FrameRate → FrameRate → Nat)

/-- The candidate list of `start_until`. -/
def candidates (c : Camera) (request : CaptureRequest) : CameraResult (List CameraConfig) :=
  if c.closed then .error closedDevice
  else
    match c.source with
    | .synthetic => .ok [request.configFor .rgb]
    | .custom _ => do
        match ← c.externalCapabilities with
        | some capabilities =>
            request.rankCaptureConfigurations rateDelta (← capabilities.configurations)
        | none => .error closedDevice
    | .native backend _ => do
        match ← c.externalCapabilities with
        | some capabilities =>
            request.rankCaptureConfigurations rateDelta (← capabilities.configurations)
        | none =>
            let capabilities ← getDeviceCapabilities c.world backend c.index
            let configurations ← capabilities.configurations
            let requested ← requestedConfigs c.world backend c.index request configurations
            request.rankCaptureConfigurations rateDelta (configurations ++ requested)

def tries (c : Camera) (request : CaptureRequest) (results : List Bool) : List CameraConfig :=
  match c.candidates rateDelta request with
  | .ok candidates => attempted candidates results
  | .error _ => []

def openHandle (c : Camera) : Camera :=
  match c.source with
  | .native .uvc (some { handle := none }) =>
      match c.world.select c.native with
      | .ok { device := .native (.ok ()) configs ranges supports, .. } =>
          { c with
            source := .native .uvc
              (some { handle := some (.native (.ok ()) configs ranges supports) }) }
      | _ => c
  | _ => c

/-- The camera of the one device that has the identifier now. -/
def again (c : Camera) (backend : BackendType) : CameraResult BackendCamera := do
  let _ ← c.world.select c.native
  createSelectedCamera c.world backend c.native

def reopen (c : Camera) : Camera :=
  match c.source with
  | .native backend _ => { c with source := .native backend (c.again backend).toOption }
  | _ => c

def release (c : Camera) : Camera :=
  { c with
    closed := true
    source :=
      match c.source with
      | .synthetic => .synthetic
      | .custom _ => .custom none
      | .native backend _ => .native backend none }

end Camera

inductive Action
  | rearrange (world : Arrangement)
  | start (request : CaptureRequest) (results : List Bool)
  | endSession
  | reopen
  | restart
  | close

variable (rateDelta : FrameRate → FrameRate → Nat)

def step (c : Camera) : Action → Option Camera
  | .rearrange world => some { c with world := world }
  | .start request results =>
      if c.busy then none
      else
        match c.tries rateDelta request results with
        | [] => some c
        | tried => some { c.openHandle with busy := (results.take tried.length).any id }
  | .endSession => if c.busy then some { c with busy := false } else none
  | .reopen => if c.busy then some c.reopen else none
  | .restart => if c.busy then some c.openHandle else none
  | .close => if c.busy then none else some c.release

def machine : Lib.Machine Camera Action where
  initial c := (∃ world backend id, openNative world backend id = .ok c) ∨
    (∃ world id, openCustom world id = .ok c) ∨ ∃ world, c = openSynthetic world
  step := step rateDelta

end CameraRs.Negotiation

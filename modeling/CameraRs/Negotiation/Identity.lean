/-
What identifies a camera, and how long the identifier lasts.

`unique_id` takes the path of a device, else its model and serial number, else its number.
`device_info` calls an identifier native on its own account: a serial number is enough,
whether or not the identifier is made of it.
-/

import CameraRs.Contract
import CameraRs.Fallback
import CameraRs.Negotiation.Device
import Mathlib.Data.List.Infix

namespace CameraRs.Negotiation

open Lib.Text
open Fallback (CameraFacing)

/-- `CameraDeviceInfo` with its texts for display. -/
structure DescribedDevice extends CameraDeviceInfo where
  name : String
  description : String

inductive IdentityStability
  | native
  | enumerationOnly
deriving DecidableEq

structure UsbIdentity where
  vendorId : UInt16
  productId : UInt16
  serialNumber : Option String

structure DeviceInfo where
  id : DeviceId
  name : String
  description : String
  stability : IdentityStability
  index : Nat
  facing : CameraFacing
  usb : Option UsbIdentity

/-- `BackendId::from`; `Auto` is resolved before devices are listed. -/
def BackendType.backendId : BackendType → BackendId
  | .uvc => .uvc
  | .v4l2 => .v4l2
  | .avFoundation => .avFoundation
  | .camera2 => .camera2
  | .mediaFoundation => .mediaFoundation

def contains (value part : String) : Bool := decide (part.toList <:+: value.toList)

def startsWith (value start : String) : Bool := decide (start.toList <+: value.toList)

def inferFacing (name description : String) : CameraFacing :=
  let value := (name ++ " " ++ description).map Char.toLower
  if contains value "front" || contains value "user" then .front
  else if contains value "back" || contains value "rear" || contains value "environment" then
    .back
  else if contains value "usb" || contains value "external" then .external
  else .unknown

def stable (backend : BackendType) (d : CameraDeviceInfo) : Bool :=
  (d.devicePath.any fun path =>
    !path.isEmpty && !(decide (backend = .v4l2) && startsWith path "/dev/video")) ||
  d.serialNumber.any fun serial => !serial.isEmpty

def deviceInfo (backend : BackendType) (d : DescribedDevice) : DeviceInfo where
  id := ⟨backend.backendId, d.uniqueId⟩
  name := d.name
  description := d.description
  stability := if stable backend d.toCameraDeviceInfo then .native else .enumerationOnly
  index := d.index
  facing := inferFacing d.name d.description
  usb :=
    match d.vendorId, d.productId with
    | some vendorId, some productId =>
        some { vendorId := vendorId, productId := productId, serialNumber := d.serialNumber }
    | _, _ => none

def CameraDeviceInfo.path (d : CameraDeviceInfo) : Option String :=
  d.devicePath.filter fun path => !path.isEmpty

def CameraDeviceInfo.serial (d : CameraDeviceInfo) : Option String :=
  d.serialNumber.filter fun serial => !serial.isEmpty

variable {d : CameraDeviceInfo}

theorem length_hex4 (n : UInt16) : (hex4 n).toList.length = 4 := by
  rw [hex4, hexString_toList, List.length_map, length_hexBytes]
  rfl

/-- The identifier of a device without a path. -/
def CameraDeviceInfo.spelled (d : CameraDeviceInfo) : String :=
  match d.vendorId, d.productId with
  | some vid, some pid =>
      hex4 vid ++ ":" ++ hex4 pid ++ ":" ++ d.serialNumber.getD (toString d.index)
  | _, _ => "device:" ++ toString d.index

theorem uniqueId_of_path {path : String} (named : d.path = some path) : d.uniqueId = path := by
  unfold CameraDeviceInfo.path at named
  rw [CameraDeviceInfo.uniqueId, named]

theorem uniqueId_of_pathless (pathless : d.path = none) : d.uniqueId = d.spelled := by
  unfold CameraDeviceInfo.path at pathless
  rw [CameraDeviceInfo.uniqueId, pathless, CameraDeviceInfo.spelled]
  cases d.vendorId with
  | none => rfl
  | some vid =>
      cases d.productId with
      | none => rfl
      | some pid =>
          cases d.serialNumber with
          | none => rfl
          | some serial => rfl

theorem spelled_of_model {vid pid : UInt16} (vendor : d.vendorId = some vid)
    (product : d.productId = some pid) :
    d.spelled = hex4 vid ++ ":" ++ hex4 pid ++ ":" ++ d.serialNumber.getD (toString d.index) := by
  rw [CameraDeviceInfo.spelled, vendor, product]

theorem spelled_of_unknown (unknown : ¬(d.vendorId ≠ none ∧ d.productId ≠ none)) :
    d.spelled = "device:" ++ toString d.index := by
  unfold CameraDeviceInfo.spelled
  cases vendor : d.vendorId with
  | none => rfl
  | some vid =>
      cases product : d.productId with
      | none => rfl
      | some pid => exact absurd ⟨by simp [vendor], by simp [product]⟩ unknown

variable {backend : BackendType}

end CameraRs.Negotiation

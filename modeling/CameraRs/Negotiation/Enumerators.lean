/-
The devices that the backends list.

V4L2 makes a record of an entry of `/dev` and of the links that lead to it, libuvc of a USB
descriptor, the others of an identifier that the system gives out. Only these records reach
`device_info`, and a serial number that it trusts is always part of the identifier.
-/

import CameraRs.Negotiation.Identity
import Mathlib.Data.List.Sort

namespace CameraRs.Negotiation

open Fallback (CameraFacing)

/-! ### V4L2 -/

/-- The texts of `native::probe`. -/
structure V4l2Probe where
  card : String
  driver : String
  bus : String

/-- An entry of `/dev`, what `open` and `probe` answer for it, and the names in a directory of
links of those that lead to it. -/
structure DevEntry where
  name : String
  opened : CameraResult Unit
  probe : CameraResult V4l2Probe
  links : String → List String

namespace DevEntry

def path (entry : DevEntry) : String := "/dev/" ++ entry.name

/-- The number behind `video`, if it is a `u32`. -/
def number (entry : DevEntry) : Option Nat :=
  let digits := entry.name.toList.drop 5
  let index := digits.foldl (fun n digit => 10 * n + (digit.toNat - 48)) 0
  if startsWith entry.name "video" ∧ digits ≠ [] ∧ digits.all Char.isDigit = true ∧
    index < 2 ^ 32 then some index
  else none

/-- The first link by name, and those by identifier before those by path. -/
def stable (entry : DevEntry) : Option String :=
  ["/dev/v4l/by-id", "/dev/v4l/by-path"].findSome? fun dir =>
    ((entry.links dir).insertionSort (· ≤ ·)).head?.map fun link => dir ++ "/" ++ link

def record (entry : DevEntry) (index : Nat) (info : V4l2Probe) : DescribedDevice where
  index := index
  name := info.card
  description := info.driver ++ " (" ++ info.bus ++ ")"
  devicePath := some (entry.stable.getD entry.path)

end DevEntry

/-- A descriptor; texts that are missing or not UTF-8 are left out. -/
structure UvcDescriptor where
  vendorId : UInt16
  productId : UInt16
  product : Option String
  manufacturer : Option String
  serialNumber : Option String

def UvcDescriptor.record (desc : UvcDescriptor) (index : Nat) : DescribedDevice where
  index := index
  name := desc.product.getD ("UVC Camera " ++ hex4 desc.vendorId ++ ":" ++ hex4 desc.productId)
  description := desc.manufacturer.getD "USB Video Device"
  vendorId := some desc.vendorId
  productId := some desc.productId
  serialNumber := desc.serialNumber

/-! ### AVFoundation, Media Foundation and Camera2 -/

structure AvCaptureDevice where
  localizedName : String
  uniqueId : String
  manufacturer : String
  position : String

/-- The record of `query_devices`; `position` is `Front`, `Back` or `Unspecified`. -/
def AvCaptureDevice.record (device : AvCaptureDevice) (index : Nat) : DescribedDevice where
  index := index
  name := device.localizedName
  description :=
    device.manufacturer ++ " - " ++ device.localizedName ++ " (" ++ device.position ++ ")"
  serialNumber := some device.uniqueId
  devicePath := some device.uniqueId

/-- The two attributes of an `IMFActivate` that are read. -/
structure MfActivate where
  friendlyName : CameraResult String
  symbolicLink : CameraResult String

def MfActivate.record (activate : MfActivate) (index : Nat) : CameraResult DescribedDevice := do
  let name ← activate.friendlyName
  let symlink ← activate.symbolicLink
  return {
    index := index
    name := name
    description := "Media Foundation Camera: " ++ symlink
    devicePath := some symlink }

/-- `NdkCameraDeviceInfo`; the identifier is the text of a `std::string` and never null. -/
structure NdkCameraDeviceInfo where
  id : String
  facing : Int
  orientation : Int

/-- `CameraFacing::from_ndk`, and how `list_devices` puts it. -/
def ndkFacing (facing : Int) : String :=
  if facing = 0 then "Front Camera" else if facing = 1 then "Back Camera" else "External Camera"

def NdkCameraDeviceInfo.record (info : NdkCameraDeviceInfo) (index : Nat) : DescribedDevice where
  index := index
  name := "Camera " ++ info.id ++ " (" ++ ndkFacing info.facing ++ ")"
  description := "Android Camera2 - " ++ ndkFacing info.facing ++ " - orientation " ++
    toString info.orientation
  devicePath := some info.id

/-! ### What a backend lists -/

/-- The records of the items that can be read, numbered by their places. -/
def listed {α : Type} (record : α → Nat → CameraResult DescribedDevice) (items : List α) :
    List DescribedDevice :=
  items.zipIdx.filterMap fun item => (record item.1 item.2).toOption

namespace System

end System

/-! ### The records are anchored -/

variable {backend : BackendType} {d : DescribedDevice}

def marks (backend : BackendType) (devices : List DescribedDevice) : List Bool :=
  devices.map fun d => decide ((deviceInfo backend d).stability = .native)

end CameraRs.Negotiation

/-
The two deliveries of an AVFoundation pixel buffer. NV12 and 32-bit buffers give the same image
either way; the local transform of packed 4:2:2 stays within one of the consumer's, once the
consumer names the colour that AVFoundation leaves open.
-/

import CameraRs.Camera2.Agreement
import CameraRs.V4l2.Formats

namespace CameraRs.AvFoundation

open Lib Lib.Fill
open Camera2 (Memory fromRawParts InOrder interleavedLayout)

/-! ### Pixel buffers -/

/-- A plane of a `CVPixelBuffer`; a null base address is 0. -/
structure BufferPlane where
  baseAddress : UInt64
  bytesPerRow : Nat
  height : Nat
deriving DecidableEq, Repr

/-- The values of `kCVImageBufferYCbCrMatrixKey`. -/
inductive YCbCrMatrix
  | ituR601_4 | ituR709_2 | ituR2020 | smpte240M1995 | other
deriving DecidableEq, Repr

/-- A locked `CVPixelBuffer`; `attachment` is the matrix it carries. -/
structure PixelBuffer where
  width : Nat
  height : Nat
  bytesPerRow : Nat
  baseAddress : UInt64
  formatType : UInt32
  planes : List BufferPlane := []
  attachment : Option YCbCrMatrix := none
deriving DecidableEq, Repr

inductive Delivery
  | native (layout : FrameLayout) (parts : List (List UInt8))
  | rgb (width height : UInt32) (convert : RgbFill Unit)

namespace PixelBuffer

variable (buffer : PixelBuffer)

def frameWidth : UInt32 := UInt32.ofNat buffer.width

def frameHeight : UInt32 := UInt32.ofNat buffer.height

/-- `420f`. -/
def isFullRange : Bool := buffer.formatType == 0x34323066

def knownMatrices : List (YCbCrMatrix × ColorMatrix) :=
  [(.ituR601_4, .bt601), (.ituR709_2, .bt709), (.ituR2020, .bt2020),
    (.smpte240M1995, .smpte240M)]

/-- The colour of an NV12 buffer: by its height, unless it carries a known matrix. -/
def color : ColorInfo :=
  let matrix := if 720 ≤ buffer.frameHeight.toNat then .bt709 else .bt601
  let range := if buffer.isFullRange then .full else .limited
  match buffer.attachment.bind fun value => knownMatrices.find? fun known => known.1 == value with
  | some (_, found) => { matrix := found, range := range }
  | none => { matrix := matrix, range := range }

end PixelBuffer

def mostBytes : Nat := 128 * 1024 * 1024

def BufferPlane.length (plane : BufferPlane) : Option Nat :=
  (checkedMul plane.bytesPerRow plane.height).filter fun length =>
    decide (0 < length ∧ length ≤ mostBytes)

/-! ### NV12 -/

def nv12Layout (buffer : PixelBuffer) (planes : Yuv420Sp) : FrameLayout :=
  { width := buffer.frameWidth
    height := buffer.frameHeight
    format := .nv12
    planes :=
      [{ offset := 0, length := planes.y.length, rowStride := planes.yStride, pixelStride := 1 },
        { offset := planes.y.length
          length := planes.uv.length
          rowStride := planes.uvStride
          pixelStride := 2 }]
    color := buffer.color }

def nativeFormat (formatType : UInt32) : Option PixelFormat :=
  if formatType = 0x42475241 then some .bgra8
  else if formatType = 0x00000020 then some .argb8
  else if formatType = 0x79757673 then some .yuyv
  else if formatType = 0x32767579 then some .uyvy
  else none

/-- `yuv_to_rgb`; no term comes near the bounds of an `i32`. -/
def yuvToRgb (y u v : UInt8) : List UInt8 :=
  let c := (y.toNat : Int) - 16
  let d := (u.toNat : Int) - 128
  let e := (v.toNat : Int) - 128
  [clampByte ((298 * c + 409 * e + 128) >>> (8 : Nat)),
    clampByte ((298 * c - 100 * d - 208 * e + 128) >>> (8 : Nat)),
    clampByte ((298 * c + 516 * d + 128) >>> (8 : Nat))]

def storePixel (offset : Nat) (rgb : List UInt8) : RgbFill Unit := do
  store offset (rgb.getD 0 0)
  store (offset + 1) (rgb.getD 1 0)
  store (offset + 2) (rgb.getD 2 0)

/-- `yuyv_to_rgb` and `uyvy_to_rgb`, which read the four bytes of a pair in another order. -/
def packed422ToRgb (uyvy : Bool) (memory : Memory) (base : UInt64) (width height : UInt32)
    (bytesPerRow : Nat) : RgbFill Unit :=
  forRange 0 height.toNat fun y => forStep2 0 width.toNat fun x => do
    let srcOffset := y * bytesPerRow + x * 2
    let dstOffset := (y * width.toNat + x) * 3
    let src (k : Nat) := memory (base.toNat + (srcOffset + k))
    let y0 := if uyvy then src 1 else src 0
    let u := if uyvy then src 0 else src 1
    let y1 := if uyvy then src 3 else src 2
    let v := if uyvy then src 2 else src 3
    storePixel dstOffset (yuvToRgb y0 u v)
    if x + 1 < width.toNat then storePixel (dstOffset + 3) (yuvToRgb y1 u v)

def yuyvToRgb : Memory → UInt64 → UInt32 → UInt32 → Nat → RgbFill Unit := packed422ToRgb false

def uyvyToRgb : Memory → UInt64 → UInt32 → UInt32 → Nat → RgbFill Unit := packed422ToRgb true

def pixelSize (formatType : UInt32) : Option Nat :=
  if formatType = 0x42475241 ∨ formatType = 0x00000020 then some 4
  else if formatType = 0x79757673 ∨ formatType = 0x32767579 then some 2
  else none

def convert8888 (cpu : Cpu) (memory : Memory) (buffer : PixelBuffer) : RgbFill Unit := do
  let width := buffer.frameWidth.toNat
  let height := buffer.frameHeight.toNat
  assertThat (height ≠ 0)
  let sourceLength ← orFail
    ((checkedMul (height - 1) buffer.bytesPerRow).bind (checkedAdd · (width * 4)))
    (.invalidFrame "AVFoundation packed frame size overflow")
  let source := fromRawParts memory buffer.baseAddress sourceLength
  if buffer.formatType = 0x42475241 then
    bgra8888ToRgb cpu source width height buffer.bytesPerRow
  else
    argb8888ToRgb cpu source width height buffer.bytesPerRow

/-- The closure of `publish_rgb_metadata`; `hex` prints the format. -/
def convertPacked (cpu : Cpu) (memory : Memory) (hex : UInt32 → String) (buffer : PixelBuffer) :
    RgbFill Unit := do
  let size ← orFail (pixelSize buffer.formatType)
    (.unsupportedFormat ("AVFoundation pixel format " ++ hex buffer.formatType))
  failIf (buffer.bytesPerRow < buffer.frameWidth.toNat * size ∨
      size = 2 ∧ buffer.frameWidth.toNat % 2 ≠ 0)
    (.invalidFrame "Invalid AVFoundation row stride/dimensions")
  if size = 4 then convert8888 cpu memory buffer
  else if buffer.formatType = 0x79757673 then
    yuyvToRgb memory buffer.baseAddress buffer.frameWidth buffer.frameHeight buffer.bytesPerRow
  else
    uyvyToRgb memory buffer.baseAddress buffer.frameWidth buffer.frameHeight buffer.bytesPerRow

/-- A published buffer up to the RGB of its consumer. -/
def Delivery.received {target : Target} : Delivery → Conversion target Unit
  | .native layout parts => convertNative (.ok (layout, parts))
  | .rgb _ _ convert => onSnd convert

end CameraRs.AvFoundation

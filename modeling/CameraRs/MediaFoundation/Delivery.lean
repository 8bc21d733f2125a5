/-
One frame of the Media Foundation backend, decoded to RGB by the worker or published as a
native frame. Both read the bytes of the locked buffer with the signed stride that comes with
it: a negative stride is an image whose last row comes first.
-/

import CameraRs.Config
import CameraRs.Conversion.Native
import CameraRs.Conversion.Refusals

namespace CameraRs.MediaFoundation

open Lib Lib.Fill

/-! ### RGB delivery -/

/-- The decoder of the worker and the RGB bytes of the frame. -/
abbrev Decoding (target : Target) (α : Type) :=
  Fill (Option target.turbojpeg.Decompressor × List UInt8) CameraError α

def invalid (message : String) : CameraError := .invalidFrame message

def decodeMjpeg {target : Target} (data : List UInt8) (width height : Nat) :
    Decoding target Unit :=
  if target.decodeMjpeg then
    decodeWith target.turbojpeg data fun data => do
      let header ← onFst (decoderCall (target.turbojpeg.readHeader data))
      if header.width ≠ width ∨ header.height ≠ height then
        fail (invalid "MF MJPEG dimension mismatch")
      else
        decoderCall (target.turbojpeg.decompress data width height (width * 3))
  else
    fail (.unsupportedFormat "MJPEG decoding requires the decode-mjpeg feature")

def pitch (stride : Int32) : Nat := stride.toInt.natAbs

def pixelBytes : VideoFormat → CameraResult Nat
  | .yuyv | .uyvy => .ok 2
  | .rgb => .ok 3
  | .gray => .ok 1
  | format => .error (.unsupportedFormat format.name)

def getSlice (data : List UInt8) (start stop : Nat) : Option (List UInt8) :=
  if start ≤ stop ∧ stop ≤ data.length then some (slice data start stop) else none

def chunks3 : List UInt8 → List (UInt8 × UInt8 × UInt8)
  | first :: second :: third :: rest => (first, second, third) :: chunks3 rest
  | _ => []

/-- `dst.copy_from_slice(&[src[2], src[1], src[0]])`. -/
def writeBgr (src : UInt8 × UInt8 × UInt8) : RgbFill Unit :=
  copyFromSlice [src.2.2, src.2.1, src.1]

def decodeRow (cpu : Cpu) (format : VideoFormat) (coefficients : Option Coefficients)
    (source : List UInt8) (width rowBytes : Nat) : RgbFill Unit :=
  match format, coefficients with
  | .yuyv, some c => yuv422ToRgb cpu source width 1 rowBytes false c
  | .uyvy, some c => yuv422ToRgb cpu source width 1 rowBytes true c
  | .rgb, _ => forChunks 3 (chunks3 source) writeBgr
  | .gray, _ => forChunks 3 source fun gray => fillWith gray
  | _, _ => crash

def bufferRow (stride : Int32) (height row : Nat) : Option Nat :=
  if stride.toInt < 0 then flipped height row else some row

def decodeImageRow (cpu : Cpu) (data : List UInt8) (config : CameraConfig) (stride : Int32)
    (rowBytes : Nat) (coefficients : Option Coefficients) (row : Nat) : RgbFill Unit :=
  match bufferRow stride config.height.toNat row with
  | none => crash
  | some sourceRow => do
      let offset ← orFail (checkedMul sourceRow (pitch stride)) (invalid "MF row overflow")
      let source ← orFail (getSlice data offset (min (offset + rowBytes) (usizeLimit - 1)))
        (invalid "Truncated MF row")
      decodeRow cpu config.format coefficients source config.width.toNat rowBytes

def decodeRows (cpu : Cpu) (data : List UInt8) (config : CameraConfig) (stride : Int32)
    (rowBytes : Nat) (coefficients : Option Coefficients) : RgbFill Unit := do
  let rgbRowBytes := config.width.toNat * 3
  assertThat (rgbRowBytes ≠ 0)
  let rgb ← getState
  forRange 0 (rgb.length / rgbRowBytes) fun row =>
    within (row * rgbRowBytes) (row * rgbRowBytes + rgbRowBytes)
      (decodeImageRow cpu data config stride rowBytes coefficients row)

def packedCoefficients (format : VideoFormat) (color : ColorInfo) :
    CameraResult (Option Coefficients) :=
  if format = .yuyv ∨ format = .uyvy then (colorCoefficients color).map some else .ok none

/-- The rest of `decode_into`, for the formats with whole bytes for each pixel. -/
def decodePacked {target : Target} (data : List UInt8) (config : CameraConfig) (stride : Int32)
    (color : ColorInfo) : Decoding target Unit := do
  let bytes ← ofExcept (pixelBytes config.format)
  let rowBytes := config.width.toNat * bytes
  failIf (pitch stride < rowBytes) (invalid "MF stride shorter than row")
  let coefficients ← ofExcept (packedCoefficients config.format color)
  match if 0 < stride.toInt then coefficients else none with
  | some c =>
      onSnd (yuv422ToRgb target.cpu data config.width.toNat config.height.toNat (pitch stride)
        (config.format == .uyvy) c)
  | none => onSnd (decodeRows target.cpu data config stride rowBytes coefficients)

def decodeInto {target : Target} (data : List UInt8) (config : CameraConfig) (stride : Int32)
    (color : ColorInfo) : Decoding target Unit :=
  match config.format with
  | .mjpeg => decodeMjpeg data config.width.toNat config.height.toNat
  | .nv12 => do
      failIf (stride.toInt ≤ 0) (invalid "Negative NV12 stride")
      let yLength ← orFail
        ((checkedMul stride.toInt.toNat config.height.toNat).filter
          fun n => decide (n ≤ data.length))
        (invalid "Truncated MF NV12 frame")
      let y ← view data 0 yLength
      let uv ← viewFrom data yLength
      let coefficients ← ofExcept (colorCoefficients color)
      onSnd (yuv420spToRgb target.cpu
        { y := y
          uv := uv
          yStride := stride.toInt.toNat
          uvStride := stride.toInt.toNat
          vuOrder := false } config.width.toNat config.height.toNat coefficients)
  | _ => decodePacked data config stride color

/-! ### Native delivery -/

def pixelFormat : VideoFormat → CameraResult PixelFormat
  | .mjpeg => .ok .mjpeg
  | .yuyv => .ok .yuyv
  | .uyvy => .ok .uyvy
  | .nv12 => .ok .nv12
  | .rgb => .ok .bgr8
  | .gray => .ok .gray8
  | .h264 => .error (.unsupportedFormat "MF native layout")

def bufferLayout (data : List UInt8) (config : CameraConfig) (stride : Int32) (color : ColorInfo)
    (format : PixelFormat) : FrameLayout :=
  { FrameLayout.packed config.width config.height format (pitch stride) data.length with
    bottomUp := decide (stride.toInt < 0)
    color := color }

/-- The chroma plane behind the luma rows. -/
def withChroma (data : List UInt8) (stride : Int32) (layout : FrameLayout) :
    CameraResult FrameLayout :=
  match (checkedMul (pitch stride) layout.height.toNat).filter
      fun n => decide (n < data.length) with
  | none => .error (invalid "Truncated MF NV12")
  | some yLen =>
      .ok { layout with
        planes := (layout.planes.modify 0 fun plane => { plane with length := yLen }) ++
          [{ offset := yLen
             length := data.length - yLen
             rowStride := pitch stride
             pixelStride := 2 }] }

/-- The layout that `process_sample` publishes. -/
def nativeLayout (data : List UInt8) (config : CameraConfig) (stride : Int32)
    (color : ColorInfo) : CameraResult FrameLayout := do
  let format ← pixelFormat config.format
  let layout := bufferLayout data config stride color format
  if format = .nv12 then withChroma data stride layout else .ok layout

def nativeFrame (data : List UInt8) (config : CameraConfig) (stride : Int32)
    (color : ColorInfo) : CameraResult (FrameLayout × List (List UInt8)) :=
  (nativeLayout data config stride color).map fun layout => (layout, [data])

end CameraRs.MediaFoundation

/-
The V4L2 backend between the driver and the hub: what was negotiated, the decoder
that turns a frame into RGB, and the layout under which a native frame is
published.
-/

import CameraRs.Config
import CameraRs.Conversion.Converter
import CameraRs.Frame.Program

namespace CameraRs.V4l2

open Lib Lib.Fill

structure Format where
  fourcc : UInt32
  width : UInt32
  height : UInt32
  fps : UInt32
  fpsDenominator : UInt32
  planes : UInt32
  ycbcr : UInt32
  fullRange : UInt32

structure Plane where
  data : List UInt8
  stride : Nat

/-- The characters of a four-character code, first one in the low byte. -/
def fourccText (code : UInt32) : List Char :=
  [0, 8, 16, 24].map fun shift => Char.ofNat (code.toNat >>> shift % 256)

/-- `{:08x}`. -/
def hexText (code : UInt32) : String :=
  let digits := Nat.toDigits 16 code.toNat
  String.ofList (List.replicate (8 - digits.length) '0' ++ digits)

def fromFourcc (code : UInt32) : Option VideoFormat :=
  match fourccText code with
  | ['M', 'J', 'P', 'G'] => some .mjpeg
  | ['Y', 'U', 'Y', 'V'] => some .yuyv
  | ['U', 'Y', 'V', 'Y'] => some .uyvy
  | ['N', 'V', '1', '2'] | ['N', 'M', '1', '2'] => some .nv12
  | ['R', 'G', 'B', '3'] => some .rgb
  | ['G', 'R', 'E', 'Y'] => some .gray
  | _ => none

def configFromFormat (format : Format) : CameraResult CameraConfig :=
  match fromFourcc format.fourcc with
  | none =>
      .error (.unsupportedFormat ("V4L2 negotiated fourcc 0x" ++ hexText format.fourcc))
  | some pixelFormat =>
      if format.planes ≠ 1 ∧ ¬(pixelFormat = .nv12 ∧ format.planes = 2) then
        .error (.unsupportedFormat "Unsupported V4L2 plane layout")
      else if format.fps = 0 then
        .error (.unsupportedFormat "V4L2 driver does not report a frame interval")
      else do
        let rate ← FrameRate.new format.fps format.fpsDenominator
        let config := CameraConfig.withFrameRate
          { format := pixelFormat
            width := format.width
            height := format.height
            fps := format.fps } rate
        config.validate
        pure config

/-- The matrix of a `V4L2_YCBCR_ENC_*` value. -/
def ycbcrMatrix (ycbcr : UInt32) : Option ColorMatrix :=
  if ycbcr ∈ ([1, 3, 5] : List UInt32) then some .bt601
  else if ycbcr ∈ ([2, 4] : List UInt32) then some .bt709
  else if ycbcr = 6 then some .bt2020
  else if ycbcr = 8 then some .smpte240M
  else none

def ycbcrRange (full : Bool) : ColorRange :=
  if full then .full else .limited

/-! ### RGB delivery -/

def invalid (message : String) : CameraError := .invalidFrame message

def checkRows (plane : Plane) (rowBytes height : Nat) : CameraResult Unit :=
  let required := ((checkedSub height 1).bind (checkedMul · plane.stride)).bind
    (checkedAdd · rowBytes)
  if rowBytes = 0 ∨ plane.stride < rowBytes ∨
      required.all (fun n => decide (plane.data.length < n)) then
    .error (invalid "V4L2 frame has invalid stride or truncated data")
  else
    .ok ()

structure Converter (target : Target) where
  jpeg : Option target.turbojpeg.Decompressor := none
  coefficients : Coefficients

section Decoder

variable {target : Target}

def Converter.new : CameraResult (Converter target) := do
  let coefficients ← colorCoefficients { matrix := .bt601, range := .full }
  pure { coefficients := coefficients }

def Converter.setColorimetry (self : Converter target) (matrix : UInt32) (full : Bool) :
    CameraResult (Converter target) :=
  match ycbcrMatrix matrix with
  | none => .error (.unsupportedFormat ("V4L2 YCbCr encoding " ++ toString matrix))
  | some matrix => do
      let coefficients ← colorCoefficients { matrix := matrix, range := ycbcrRange full }
      pure { self with coefficients := coefficients }

/-- The decoder and the RGB bytes of the frame. -/
abbrev Decoding (target : Target) (α : Type) :=
  Fill (Converter target × List UInt8) CameraError α

/-- The MJPEG branch of `convert`. -/
def decodeMjpeg (first : Plane) (w h : Nat) : Decoding target Unit :=
  if target.decodeMjpeg then
    zoom (fun (converter, rgb) => (converter.jpeg, rgb))
      (fun (jpeg, rgb) (converter, _) => ({ converter with jpeg := jpeg }, rgb))
      (decodeWith target.turbojpeg first.data fun data => do
        let header ← onFst (decoderCall (target.turbojpeg.readHeader data))
        if header.width ≠ w ∨ header.height ≠ h then
          fail (invalid "MJPEG dimensions differ from negotiated V4L2 format")
        else
          decoderCall (target.turbojpeg.decompress data w h (w * 3)))
  else
    fail (.unsupportedFormat "MJPEG decoding requires the decode-mjpeg feature")

def chromaPlane {σ : Type} (planes : List Plane) (first : Plane) (h : Nat) :
    Fill σ CameraError Plane :=
  if planes.length = 2 then
    read planes 1
  else do
    let offset ← orFail (checkedMul first.stride h) (invalid "NV12 plane offset overflow")
    failIf (first.data.length < offset) (invalid "Truncated NV12 Y plane")
    pure { data := first.data.drop offset, stride := first.stride }

def copyRow (input : List UInt8) (gray : Bool) : RgbFill Unit :=
  if gray then forChunks 3 input fun gray => fillWith gray else copyFromSlice input

def copyRows (first : Plane) (w h rowBytes : Nat) (gray : Bool) : RgbFill Unit :=
  forRange 0 h fun row => do
    let rest ← viewFrom first.data (row * first.stride)
    let input ← view rest 0 rowBytes
    within (row * w * 3) (row * w * 3 + w * 3) (copyRow input gray)

def pixelBytes {σ : Type} (format : VideoFormat) : Fill σ CameraError Nat :=
  match format.bytesPerPixel with
  | some bytes => pure bytes
  | none => crash

/-- The `match` on the format in `convert`. -/
def decodeFrame (config : CameraConfig) (planes : List Plane) (first : Plane)
    (coefficients : Coefficients) : Decoding target Unit :=
  let w := config.width.toNat
  let h := config.height.toNat
  match config.format with
  | .mjpeg => decodeMjpeg first w h
  | .nv12 => do
      let second ← chromaPlane planes first h
      ofExcept (checkRows first w h)
      ofExcept (checkRows second w (divCeil2 h))
      onSnd (yuv420spToRgb target.cpu
        { y := first.data
          uv := second.data
          yStride := first.stride
          uvStride := second.stride
          vuOrder := false } w h coefficients)
  | .yuyv | .uyvy => do
      let bytes ← pixelBytes config.format
      let rowBytes ← orFail (checkedMul w bytes) (invalid "V4L2 row size overflow")
      ofExcept (checkRows first rowBytes h)
      onSnd (yuv422ToRgb target.cpu first.data w h first.stride (config.format == .uyvy)
        coefficients)
  | .rgb | .gray => do
      let bytes ← pixelBytes config.format
      let rowBytes ← orFail (checkedMul w bytes) (invalid "V4L2 row size overflow")
      ofExcept (checkRows first rowBytes h)
      onSnd (copyRows first w h rowBytes (config.format == .gray))
  | .h264 => fail (.unsupportedFormat ("V4L2 cannot decode " ++ config.format.name))

def Converter.convert (config : CameraConfig) (planes : List Plane) :
    Decoding target Unit := do
  ofExcept config.validate
  let length ← orFail
    ((checkedMul config.width.toNat config.height.toNat).bind (checkedMul · 3))
    (invalid "V4L2 RGB dimensions overflow")
  let (self, rgb) ← getState
  failIf (rgb.length < length) (invalid "V4L2 RGB output is too short")
  let first ← orFail planes.head? (invalid "V4L2 frame has no planes")
  failIf (planes.length ≠ 1 ∧ ¬(config.format = .nv12 ∧ planes.length = 2))
    (invalid "Unexpected V4L2 plane count")
  decodeFrame config planes first self.coefficients

/-- The decoder as the stream's worker sets it up: the colorimetry of the driver
counts for the YUV formats only. -/
def openDecoder (format : Format) (config : CameraConfig) :
    CameraResult (Converter target) := do
  let decoder ← Converter.new
  if config.format = .yuyv ∨ config.format = .uyvy ∨ config.format = .nv12 then
    decoder.setColorimetry format.ycbcr (format.fullRange != 0)
  else
    pure decoder

/-- One frame through the decoder, into the RGB bytes of a pooled buffer. -/
def deliverRgb (format : Format) (config : CameraConfig) (planes : List Plane) :
    Decoding target Unit := do
  let decoder ← ofExcept (openDecoder format config)
  zoom (fun (_, rgb) => (decoder, rgb)) (fun state _ => state) (Converter.convert config planes)

end Decoder

/-! ### Native delivery -/

def pixelFormat : VideoFormat → CameraResult PixelFormat
  | .mjpeg => .ok .mjpeg
  | .yuyv => .ok .yuyv
  | .uyvy => .ok .uyvy
  | .nv12 => .ok .nv12
  | .rgb => .ok .rgb8
  | .gray => .ok .gray8
  | .h264 => .error (.unsupportedFormat "V4L2 native layout")

/-- `mjpeg::validate` for the one format that needs it. -/
def checkPayload (pixels : PixelFormat) (first : Plane) : CameraResult Unit :=
  if pixels = .mjpeg then (completeFrame first.data).map fun _ => () else .ok ()

def Format.color (format : Format) : ColorInfo :=
  { matrix := (ycbcrMatrix format.ycbcr).getD .unknown
    range := ycbcrRange (format.fullRange != 0) }

def firstLayout (config : CameraConfig) (format : Format) (pixels : PixelFormat)
    (first : Plane) : FrameLayout :=
  { FrameLayout.packed config.width config.height pixels first.stride first.data.length with
    color := format.color }

def withChroma (layout : FrameLayout) (first : Plane) (planes : List Plane) :
    CameraResult FrameLayout :=
  match planes with
  | [_, second] =>
      .ok { layout with
        planes := layout.planes ++
          [{ offset := first.data.length
             length := second.data.length
             rowStride := second.stride
             pixelStride := 2 }] }
  | _ =>
      match (checkedMul first.stride layout.height.toNat).filter
          (fun n => decide (n < first.data.length)) with
      | none => .error (.invalidFrame "Truncated V4L2 NV12")
      | some yLen =>
          .ok { layout with
            planes := (layout.planes.modify 0 fun plane => { plane with length := yLen }) ++
              [{ offset := yLen
                 length := first.data.length - yLen
                 rowStride := first.stride
                 pixelStride := 2 }] }

def nativeLayout (config : CameraConfig) (format : Format) (planes : List Plane) :
    CameraResult FrameLayout := do
  let pixels ← pixelFormat config.format
  match planes.head? with
  | none => .error (.invalidFrame "Missing V4L2 plane")
  | some first => do
      checkPayload pixels first
      let layout := firstLayout config format pixels first
      if pixels = .nv12 then withChroma layout first planes else .ok layout

/-- One frame as a native frame, then converted at full size by its consumer. The
bytes of the frame are the planes one after the other. -/
def deliverNative {target : Target} (format : Format) (config : CameraConfig)
    (planes : List Plane) : Conversion target Unit := do
  let layout ← ofExcept (nativeLayout config format planes)
  let parts := planes.map Plane.data
  ofExcept (Frame.checkParts layout parts)
  convertLayoutInto layout parts.flatten (ConversionRequest.forLayout layout)

end CameraRs.V4l2

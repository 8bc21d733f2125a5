/-
Stream configurations: video formats, frame rates and the check every
configuration passes before a device is asked for it.
-/

import CameraRs.Format

namespace CameraRs

inductive VideoFormat
  | mjpeg | yuyv | uyvy | nv12 | rgb | h264 | gray
deriving DecidableEq, Repr

namespace VideoFormat

/-- The `Debug` rendering. -/
def name : VideoFormat → String
  | .mjpeg => "MJPEG"
  | .yuyv => "YUYV"
  | .uyvy => "UYVY"
  | .nv12 => "NV12"
  | .rgb => "RGB"
  | .h264 => "H264"
  | .gray => "Gray"

def isCompressed : VideoFormat → Bool
  | .mjpeg | .h264 => true
  | _ => false

def bytesPerPixel : VideoFormat → Option Nat
  | .yuyv | .uyvy => some 2
  | .nv12 => none
  | .rgb => some 3
  | .gray => some 1
  | _ => none

end VideoFormat

def checkedPixelCount (width height : UInt32) : Option Nat :=
  if width = 0 ∨ height = 0 then none else checkedMul width.toNat height.toNat

def VideoFormat.frameDataSize (format : VideoFormat) (width height : UInt32) : Option Nat :=
  (checkedPixelCount width height).bind fun pixels =>
    match format with
    | .yuyv | .uyvy => if width.toNat % 2 ≠ 0 then none else checkedMul pixels 2
    | .nv12 =>
        if width.toNat % 2 ≠ 0 ∨ height.toNat % 2 ≠ 0 then none
        else checkedAdd pixels (pixels / 2)
    | .rgb => checkedMul pixels 3
    | .gray => some pixels
    | _ => none

structure FrameRate where
  numerator : UInt32
  denominator : UInt32
deriving DecidableEq, Repr

/-- `FrameRate::new`; its loop is Euclid's. -/
def FrameRate.new (numerator denominator : UInt32) : CameraResult FrameRate :=
  if numerator = 0 ∨ denominator = 0 then
    .error (.invalidConfig "Frame rate must be positive")
  else
    let divisor := UInt32.ofNat (Nat.gcd numerator.toNat denominator.toNat)
    .ok { numerator := numerator / divisor, denominator := denominator / divisor }

structure CameraConfig where
  format : VideoFormat
  width : UInt32
  height : UInt32
  fps : UInt32
  fpsDenominator : UInt32 := 1
deriving DecidableEq, Repr

namespace CameraConfig

def withFrameRate (config : CameraConfig) (rate : FrameRate) : CameraConfig :=
  { config with fps := rate.numerator, fpsDenominator := rate.denominator }

def frameSize (config : CameraConfig) : Option Nat :=
  config.format.frameDataSize config.width config.height

def validate (config : CameraConfig) : CameraResult Unit :=
  if config.width = 0 ∨ config.height = 0 then
    .error (.invalidConfig "Resolution cannot be 0")
  else if config.fps = 0 ∨ config.fpsDenominator = 0 then
    .error (.invalidConfig "Frame rate numerator and denominator must be positive")
  else if config.format.isCompressed = false ∧ config.frameSize = none then
    .error (.invalidConfig ("Resolution " ++ toString config.width ++ "x" ++
      toString config.height ++ " cannot represent " ++ config.format.name ++ " frame data"))
  else
    .ok ()

theorem validate_ok {config : CameraConfig} (accepted : config.validate = .ok ())
    (raw : config.format.isCompressed = false) :
    config.width ≠ 0 ∧ config.height ≠ 0 ∧
      (config.format = .yuyv ∨ config.format = .uyvy → config.width.toNat % 2 = 0) ∧
      (config.format = .nv12 →
        config.width.toNat % 2 = 0 ∧ config.height.toNat % 2 = 0) := by
  unfold validate at accepted
  split at accepted
  · cases accepted
  · rename_i dims
    push Not at dims
    split at accepted
    · cases accepted
    · split at accepted
      · cases accepted
      · rename_i sized
        refine ⟨dims.1, dims.2, fun packed => ?_, fun planar => ?_⟩
        · by_contra odd
          refine sized ⟨raw, ?_⟩
          rw [frameSize, VideoFormat.frameDataSize, Option.bind_eq_none_iff]
          intro pixels _
          rcases packed with format | format <;> simp [format, odd]
        · by_contra odd
          refine sized ⟨raw, ?_⟩
          rw [frameSize, VideoFormat.frameDataSize, Option.bind_eq_none_iff]
          intro pixels _
          rw [planar]
          dsimp only
          rw [if_pos]
          omega

end CameraConfig

end CameraRs

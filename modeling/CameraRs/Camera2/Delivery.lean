/-
One frame of the Camera2 bridge, decoded to RGB in the callback or published as a native frame.
A plane is a pointer into the memory of the image and a length. The planes of U and V may
overlap: with a pixel stride of two and neighbouring pointers they are one interleaved plane.
-/

import CameraRs.Conversion.Native
import CameraRs.Conversion.Refusals

namespace CameraRs.Camera2

open Lib Lib.Fill

/-- The bytes of the image by their addresses. -/
abbrev Memory := Nat → UInt8

/-- `NdkFrameData` without its time stamp. A null pointer is 0. -/
structure NdkFrameData where
  rgbData : UInt64
  rgbLen : Int32
  yData : UInt64
  yLen : Int32
  uvData : UInt64
  uvLen : Int32
  vData : UInt64
  vLen : Int32
  rowStrideV : Int32
  pixelStrideV : Int32
  width : Int32
  height : Int32
  rowStrideY : Int32
  rowStrideUv : Int32
  pixelStrideUv : Int32
  rowStrideRgb : Int32
  pixelFormat : Int32

/-- `as usize`, of a value that is not negative. -/
def asUsize (n : Int32) : Nat := n.toInt.toNat

/-- `NdkCameraPixelFormat`. -/
def pixelFormatYuv420 : Int32 := 1
def pixelFormatRgba8888 : Int32 := 2

def fromRawParts (memory : Memory) (start : UInt64) (length : Nat) : List UInt8 :=
  (List.range length).map fun i => memory (start.toNat + i)

/-! ### Interleaved chroma -/

structure ChromaPlaneSpan where
  start : UInt64
  length : Nat
  rowStride : Nat
  pixelStride : Nat

structure InterleavedChromaLayout where
  start : UInt64
  length : Nat
  rowStride : Nat
  format : PixelFormat

/-- The lower view, the upper one, and their order. -/
def chromaBase (u v : ChromaPlaneSpan) :
    Option (ChromaPlaneSpan × ChromaPlaneSpan × PixelFormat) :=
  if checkedAdd u.start.toNat 1 = some v.start.toNat then some (u, v, .nv12)
  else if checkedAdd v.start.toNat 1 = some u.start.toNat then some (v, u, .nv21)
  else none

def interleavedChromaLayout (width height : Nat) (u v : ChromaPlaneSpan) :
    Option InterleavedChromaLayout :=
  if width = 0 ∨ height = 0 ∨ u.pixelStride ≠ 2 ∨ v.pixelStride ≠ 2 ∨
      u.rowStride ≠ v.rowStride then
    none
  else do
    let (base, other, format) ← chromaBase u v
    let baseEnd ← checkedAdd base.start.toNat base.length
    let otherEnd ← checkedAdd other.start.toNat other.length
    let rowBytes ← checkedMul (divCeil2 width) 2
    let required ← ((checkedSub (divCeil2 height) 1).bind (checkedMul · base.rowStride)).bind
      (checkedAdd · rowBytes)
    if otherEnd > baseEnd ∨ base.rowStride < rowBytes ∨ base.length < required then
      none
    else
      some
        { start := base.start
          length := base.length
          rowStride := base.rowStride
          format := format }

namespace NdkFrameData

def uSpan (frame : NdkFrameData) : ChromaPlaneSpan :=
  { start := frame.uvData
    length := asUsize frame.uvLen
    rowStride := asUsize frame.rowStrideUv
    pixelStride := asUsize frame.pixelStrideUv }

def vSpan (frame : NdkFrameData) : ChromaPlaneSpan :=
  { start := frame.vData
    length := asUsize frame.vLen
    rowStride := asUsize frame.rowStrideV
    pixelStride := asUsize frame.pixelStrideV }

def badPlanes (frame : NdkFrameData) : Bool :=
  frame.yData == 0 || frame.uvData == 0 || frame.vData == 0 ||
    decide (frame.yLen.toInt ≤ 0) || decide (frame.uvLen.toInt ≤ 0) ||
    decide (frame.vLen.toInt ≤ 0) || decide (frame.rowStrideY.toInt ≤ 0) ||
    decide (frame.rowStrideUv.toInt ≤ 0) || decide (frame.rowStrideV.toInt ≤ 0) ||
    decide (frame.pixelStrideUv.toInt ≤ 0) || decide (frame.pixelStrideV.toInt ≤ 0)

end NdkFrameData

/-! ### RGB delivery -/

def convertCamera2Yuv (cpu : Cpu) (memory : Memory) (frame : NdkFrameData)
    (width height : Nat) : RgbFill Unit :=
  let y := fromRawParts memory frame.yData (asUsize frame.yLen)
  match interleavedChromaLayout width height frame.uSpan frame.vSpan with
  | some chroma =>
      yuv420spToRgb cpu
        { y := y
          uv := fromRawParts memory chroma.start chroma.length
          yStride := asUsize frame.rowStrideY
          uvStride := chroma.rowStride
          vuOrder := chroma.format == .nv21 } width height bt601FullCoefficients
  | none =>
      yuv420ToRgb cpu ⟨y, asUsize frame.rowStrideY, 1⟩
        ⟨fromRawParts memory frame.uvData (asUsize frame.uvLen), asUsize frame.rowStrideUv,
          asUsize frame.pixelStrideUv⟩
        ⟨fromRawParts memory frame.vData (asUsize frame.vLen), asUsize frame.rowStrideV,
          asUsize frame.pixelStrideV⟩ width height bt601FullCoefficients

/-- The closure that `frame_callback` hands to the hub. -/
def convertFrame (cpu : Cpu) (memory : Memory) (frame : NdkFrameData) : RgbFill Unit :=
  if frame.pixelFormat = pixelFormatRgba8888 ∧ frame.rgbData ≠ 0 ∧ 0 < frame.rgbLen.toInt ∧
      0 < frame.rowStrideRgb.toInt then
    packed8888ToRgb cpu 0 1 2 (fromRawParts memory frame.rgbData (asUsize frame.rgbLen))
      (asUsize frame.width) (asUsize frame.height) (asUsize frame.rowStrideRgb)
  else if frame.badPlanes then
    fail (.invalidFrame "Invalid Camera2 plane metadata")
  else
    convertCamera2Yuv cpu memory frame (asUsize frame.width) (asUsize frame.height)

/-! ### Native delivery -/

/-- The colour that `convert_camera2_yuv` decodes with. -/
def camera2YuvColor : ColorInfo := { matrix := .bt601, range := .full }

def nativeFrameLayout (memory : Memory) (frame : NdkFrameData) :
    CameraResult (FrameLayout × List (List UInt8)) :=
  let width := frame.width.toUInt32
  let height := frame.height.toUInt32
  if frame.pixelFormat = pixelFormatRgba8888 then
    if frame.rgbData = 0 ∨ frame.rgbLen.toInt ≤ 0 ∨ frame.rowStrideRgb.toInt ≤ 0 then
      .error (.invalidFrame "Invalid Camera2 RGBA frame")
    else
      let data := fromRawParts memory frame.rgbData (asUsize frame.rgbLen)
      .ok (FrameLayout.packed width height .rgba8 (asUsize frame.rowStrideRgb) data.length, [data])
  else if frame.width.toInt ≤ 0 ∨ frame.height.toInt ≤ 0 ∨ frame.badPlanes then
    .error (.invalidFrame "Invalid Camera2 YUV plane")
  else
    let y := fromRawParts memory frame.yData (asUsize frame.yLen)
    match interleavedChromaLayout (asUsize frame.width) (asUsize frame.height) frame.uSpan
        frame.vSpan with
    | some chroma =>
        let chromaData :=
          if chroma.format = .nv12 then fromRawParts memory frame.uvData (asUsize frame.uvLen)
          else fromRawParts memory frame.vData (asUsize frame.vLen)
        .ok
          ({ FrameLayout.packed width height chroma.format 0 0 with
              color := camera2YuvColor
              planes :=
                [⟨0, y.length, asUsize frame.rowStrideY, 1⟩,
                  ⟨y.length, chroma.length, chroma.rowStride, 2⟩] },
            [y, chromaData])
    | none =>
        let u := fromRawParts memory frame.uvData (asUsize frame.uvLen)
        let v := fromRawParts memory frame.vData (asUsize frame.vLen)
        .ok
          ({ FrameLayout.packed width height .yuv420p 0 0 with
              color := camera2YuvColor
              planes :=
                [⟨0, asUsize frame.yLen, asUsize frame.rowStrideY, 1⟩,
                  ⟨asUsize frame.yLen, asUsize frame.uvLen, asUsize frame.rowStrideUv,
                    asUsize frame.pixelStrideUv⟩,
                  ⟨asUsize frame.yLen + asUsize frame.uvLen, asUsize frame.vLen,
                    asUsize frame.rowStrideV, asUsize frame.pixelStrideV⟩] },
            [y, u, v])

end CameraRs.Camera2

/-
`RgbConverter`: the dispatch over half-size, same-size and mapped conversion, the
nearest-neighbour maps it caches and the row buffers it reuses. TurboJPEG is a
parameter; nothing is assumed about what it returns.
-/

import CameraRs.Conversion.Kernels

namespace CameraRs

open Lib Fill

structure ConversionRequest where
  width : UInt32
  height : UInt32
  colorOverride : Option ColorInfo := none
deriving DecidableEq, Repr

def ConversionRequest.forLayout (layout : FrameLayout) : ConversionRequest :=
  { width := layout.width, height := layout.height }

def ConversionRequest.outputLen (request : ConversionRequest) : CameraResult Nat :=
  match ((checkedMul request.width.toNat request.height.toNat).bind (checkedMul · 3)).filter
      (fun bytes => decide (0 < bytes)) with
  | some bytes => .ok bytes
  | none => .error (.invalidFrame "Invalid RGB output dimensions")

def ConversionRequest.color (request : ConversionRequest) (layout : FrameLayout) : ColorInfo :=
  request.colorOverride.getD layout.color

/-! ### Dispatch conditions -/

def isExactHalf (layout : FrameLayout) (request : ConversionRequest) : Bool :=
  let width := layout.width.toNat
  let height := layout.height.toNat
  !layout.bottomUp && width % 2 == 0 && height % 2 == 0 &&
    (request.width.toNat, request.height.toNat) == (width / 2, height / 2)

def directHalfPath (layout : FrameLayout) (request : ConversionRequest) : Option String :=
  if !isExactHalf layout request then
    none
  else
    match layout.format, layout.planes with
    | .nv12, [y, uv] | .nv21, [y, uv] =>
        if y.pixelStride = 1 ∧ uv.pixelStride = 2 then some "nv12-direct-half" else none
    | .yuyv, [plane] | .uyvy, [plane] =>
        if plane.pixelStride = 2 then some "yuv422-direct-half" else none
    | .yuv420p, [y, u, v] =>
        if y.pixelStride = 1 ∧ u.pixelStride = 1 ∧ v.pixelStride = 1 then
          some "yuv420p-direct-half"
        else none
    | _, _ => none

def supportsYuvRowConversion (layout : FrameLayout) : Bool :=
  match layout.format, layout.planes with
  | .yuyv, _ | .uyvy, _ => true
  | .nv12, [y, uv] | .nv21, [y, uv] => y.pixelStride == 1 && uv.pixelStride == 2
  | .yuv420p, [y, u, v] => y.pixelStride == 1 && u.pixelStride == 1 && v.pixelStride == 1
  | _, _ => false

/-! ### Nearest-neighbour maps -/

structure NearestMap where
  dimensions : Nat × Nat × Nat × Nat × Bool := (0, 0, 0, 0, false)
  x : List Nat := []
  y : List Nat := []
deriving DecidableEq, Repr

/-- One entry of an axis on a machine whose words are below `limit`; the product
panics when it overflows. -/
def nearestEntry (limit source size destination : Nat) : Option Nat :=
  if destination * source < limit then some (destination * source / size) else none

def flipped (source row : Nat) : Option Nat :=
  (checkedSub source row).bind (checkedSub · 1)

def NearestMap.update {ε : Type} (limit sourceWidth sourceHeight destinationWidth
    destinationHeight : Nat) (bottomUp : Bool) : Fill NearestMap ε Unit := fun self =>
  let dimensions :=
    (sourceWidth, sourceHeight, destinationWidth, destinationHeight, bottomUp)
  if self.dimensions = dimensions then
    some (.ok (), self)
  else
    let x := (List.range destinationWidth).mapM (nearestEntry limit sourceWidth destinationWidth)
    let y := (List.range destinationHeight).mapM fun destination =>
      (nearestEntry limit sourceHeight destinationHeight destination).bind fun row =>
        if bottomUp then flipped sourceHeight row else some row
    match x, y with
    | some x, some y => some (.ok (), { dimensions := dimensions, x := x, y := y })
    | _, _ => none

/-! ### Rows -/

def copyGroups (source : List UInt8) (size kept : Nat) : RgbFill Unit := do
  let destination ← getState
  assertThat (source.length % size = 0 ∧ destination.length % kept = 0)
  forRange 0 (min (destination.length / kept) (source.length / size)) fun group =>
    within (group * kept) (group * kept + kept) do
      let bytes ← view source (group * size) (group * size + kept)
      copyFromSlice bytes

def resizeRgbRowNearest (sourceRow : List UInt8) (xMap : List Nat) : RgbFill Unit := do
  let destination ← getState
  let sourceWidth := sourceRow.length / 3
  let destinationWidth := destination.length / 3
  if sourceWidth % 3 = 0 ∧ destinationWidth * 3 = sourceWidth * 2 ∧
      xMap.length = destinationWidth then
    copyGroups sourceRow 9 6
  else if sourceWidth % 4 = 0 ∧ destinationWidth * 4 = sourceWidth * 3 ∧
      xMap.length = destinationWidth then
    copyGroups sourceRow 12 9
  else
    forChunks 3 xMap fun sourceX => do
      let bytes ← view sourceRow (sourceX * 3) (sourceX * 3 + 3)
      copyFromSlice bytes

def resizeRgbNearest (source : List UInt8) (sourceWidth destinationWidth : Nat)
    (xMap yMap : List Nat) : RgbFill Unit :=
  forChunks (destinationWidth * 3) yMap fun sourceY => do
    let sourceRow ← view source (sourceY * sourceWidth * 3)
      (sourceY * sourceWidth * 3 + sourceWidth * 3)
    resizeRgbRowNearest sourceRow xMap

/-! ### Mapped scaling -/

/-- The rows and pixels of a packed format; `pixel` reads at the byte offset of a
source pixel. -/
def scalePacked (packed : PlaneLayout) (destinationWidth : Nat) (xMap yMap : List Nat)
    (pixel : Nat → RgbFill Unit) : RgbFill Unit :=
  forChunks (destinationWidth * 3) yMap fun sourceY =>
    let row := packed.offset + sourceY * packed.rowStride
    forChunks 3 xMap fun sourceX => pixel (row + sourceX * packed.pixelStride)

def scaleNearest (layout : FrameLayout) (data : List UInt8) (destinationWidth : Nat)
    (xMap yMap : List Nat) : RgbFill Unit := do
  let packed ← read layout.planes 0
  match layout.format with
  | .rgb8 =>
      if packed.pixelStride = 3 then
        let sourceWidth := layout.width.toNat
        forChunks (destinationWidth * 3) yMap fun sourceY => do
          let row := packed.offset + sourceY * packed.rowStride
          let sourceRow ← view data row (row + sourceWidth * 3)
          resizeRgbRowNearest sourceRow xMap
      else
        scalePacked packed destinationWidth xMap yMap fun source => do
          let bytes ← view data source (source + 3)
          copyFromSlice bytes
  | .rgba8 =>
      scalePacked packed destinationWidth xMap yMap fun source => do
        let bytes ← view data source (source + 3)
        copyFromSlice bytes
  | .bgr8 | .bgra8 =>
      scalePacked packed destinationWidth xMap yMap fun source => do
        let red ← read data (source + 2)
        store 0 red
        let green ← read data (source + 1)
        store 1 green
        let blue ← read data source
        store 2 blue
  | .argb8 =>
      scalePacked packed destinationWidth xMap yMap fun source => do
        let bytes ← view data (source + 1) (source + 1 + 3)
        copyFromSlice bytes
  | .gray8 =>
      scalePacked packed destinationWidth xMap yMap fun source => do
        let gray ← read data source
        fillWith gray
  | .yuyv | .uyvy | .nv12 | .nv21 | .yuv420p => crash
  | .mjpeg | .h264 => crash

/-- The `(y, u, v)` bytes of the source pixel. -/
def readYuv {σ : Type} (layout : FrameLayout) (data : List UInt8) (sourceX sourceY : Nat) :
    Fill σ CameraError (UInt8 × UInt8 × UInt8) := do
  let yPlane ← read layout.planes 0
  let yRow := yPlane.offset + sourceY * yPlane.rowStride
  let yOffset := yRow + sourceX * yPlane.pixelStride
  match layout.format with
  | .uyvy => do
      let pair := yRow + sourceX / 2 * 2 * 2
      let y ← read data (yOffset + 1)
      let u ← read data pair
      let v ← read data (pair + 2)
      pure (y, u, v)
  | .yuyv => do
      let pair := yRow + sourceX / 2 * 2 * 2
      let y ← read data yOffset
      let u ← read data (pair + 1)
      let v ← read data (pair + 3)
      pure (y, u, v)
  | .nv12 => do
      let chroma ← read layout.planes 1
      let uv := chroma.offset + sourceY / 2 * chroma.rowStride + sourceX / 2 * chroma.pixelStride
      let y ← read data yOffset
      let u ← read data uv
      let v ← read data (uv + 1)
      pure (y, u, v)
  | .nv21 => do
      let chroma ← read layout.planes 1
      let uv := chroma.offset + sourceY / 2 * chroma.rowStride + sourceX / 2 * chroma.pixelStride
      let y ← read data yOffset
      let u ← read data (uv + 1)
      let v ← read data uv
      pure (y, u, v)
  | .yuv420p => do
      let uPlane ← read layout.planes 1
      let vPlane ← read layout.planes 2
      let y ← read data yOffset
      let u ← read data
        (uPlane.offset + sourceY / 2 * uPlane.rowStride + sourceX / 2 * uPlane.pixelStride)
      let v ← read data
        (vPlane.offset + sourceY / 2 * vPlane.rowStride + sourceX / 2 * vPlane.pixelStride)
      pure (y, u, v)
  | _ => crash

def scaleYuvScalar (layout : FrameLayout) (data : List UInt8) (destinationWidth : Nat)
    (xMap yMap : List Nat) (c : Coefficients) : RgbFill Unit :=
  forChunks (destinationWidth * 3) yMap fun sourceY =>
    forChunks 3 xMap fun sourceX => do
      let (y, u, v) ← readYuv layout data sourceX sourceY
      yuvPixel c y u v

def convertYuvRows (cpu : Cpu) (layout : FrameLayout) (data : List UInt8)
    (sourceY rows : Nat) (c : Coefficients) : RgbFill Unit := do
  let width := layout.width.toNat
  let yPlane ← read layout.planes 0
  let yStart := yPlane.offset + sourceY * yPlane.rowStride
  match layout.format with
  | .yuyv | .uyvy => do
      let rowBytes := width * 2
      let length := (rows - 1) * yPlane.rowStride + rowBytes
      let source ← view data yStart (yStart + length)
      yuv422ToRgb cpu source width rows yPlane.rowStride (layout.format == .uyvy) c
  | .nv12 | .nv21 => do
      let uvPlane ← read layout.planes 1
      let uvStart := uvPlane.offset + sourceY / 2 * uvPlane.rowStride
      let chromaWidth := divCeil2 width * 2
      let yLength := (rows - 1) * yPlane.rowStride + width
      let y ← view data yStart (yStart + yLength)
      let uv ← view data uvStart (uvStart + chromaWidth)
      yuv420spToRgb cpu
        { y := y
          uv := uv
          yStride := yPlane.rowStride
          uvStride := uvPlane.rowStride
          vuOrder := layout.format == .nv21 } width rows c
  | .yuv420p => do
      let uPlane ← read layout.planes 1
      let vPlane ← read layout.planes 2
      let uStart := uPlane.offset + sourceY / 2 * uPlane.rowStride
      let vStart := vPlane.offset + sourceY / 2 * vPlane.rowStride
      let chromaWidth := divCeil2 width
      let yLength := (rows - 1) * yPlane.rowStride + width
      let y ← view data yStart (yStart + yLength)
      let u ← view data uStart (uStart + chromaWidth)
      let v ← view data vStart (vStart + chromaWidth)
      yuv420ToRgb cpu ⟨y, yPlane.rowStride, yPlane.pixelStride⟩
        ⟨u, uPlane.rowStride, uPlane.pixelStride⟩ ⟨v, vPlane.rowStride, vPlane.pixelStride⟩
        width rows c
  | _ => crash

/-- `Nv12 | Nv21 | Yuv420p`: two rows share their chroma. -/
def isPairable (format : PixelFormat) : Bool :=
  format == .nv12 || format == .nv21 || format == .yuv420p

/-- The loop of `scale_yuv_nearest` with `remaining` destination rows from `index`
on. The state is the row buffer and the destination. -/
def scaleYuvRows (cpu : Cpu) (layout : FrameLayout) (data : List UInt8) (xMap yMap : List Nat)
    (c : Coefficients) : Nat → Nat → Fill (List UInt8 × List UInt8) CameraError Unit
  | 0, _ => pure ()
  | remaining + 1, index => do
      let sourceRowBytes := layout.width.toNat * 3
      let destinationRowBytes := xMap.length * 3
      let sourceY ← read yMap index
      if isPairable layout.format ∧ sourceY % 2 = 0 ∧ yMap[index + 1]? = some (sourceY + 1) then
        match remaining with
        | 0 => crash
        | rest + 1 => do
            onFst (within 0 (sourceRowBytes * 2) (convertYuvRows cpu layout data sourceY 2 c))
            let rgbRow := (← getState).1
            let firstSource ← view rgbRow 0 sourceRowBytes
            let secondSource ← view rgbRow sourceRowBytes (sourceRowBytes + sourceRowBytes)
            onSnd (within (index * destinationRowBytes)
              (index * destinationRowBytes + destinationRowBytes)
              (resizeRgbRowNearest firstSource xMap))
            onSnd (within ((index + 1) * destinationRowBytes)
              ((index + 1) * destinationRowBytes + destinationRowBytes)
              (resizeRgbRowNearest secondSource xMap))
            scaleYuvRows cpu layout data xMap yMap c rest (index + 2)
      else do
        onFst (within 0 sourceRowBytes (convertYuvRows cpu layout data sourceY 1 c))
        let rgbRow := (← getState).1
        let source ← view rgbRow 0 sourceRowBytes
        onSnd (within (index * destinationRowBytes)
          (index * destinationRowBytes + destinationRowBytes)
          (resizeRgbRowNearest source xMap))
        scaleYuvRows cpu layout data xMap yMap c remaining (index + 1)

def scaleYuvNearest (cpu : Cpu) (layout : FrameLayout) (data : List UInt8)
    (xMap yMap : List Nat) (c : Coefficients) :
    Fill (List UInt8 × List UInt8) CameraError Unit := do
  assertThat (xMap.length * 3 ≠ 0)
  let destination := (← getState).2
  scaleYuvRows cpu layout data xMap yMap c (destination.length / (xMap.length * 3)) 0

/-! ### TurboJPEG -/

structure JpegHeader where
  width : Nat
  height : Nat
  isLossless : Bool

/-- The parts of the decoder library that the converter calls. -/
structure Turbojpeg where
  Decompressor : Type
  ScalingFactor : Type
  one : ScalingFactor
  supportedScalingFactors : List ScalingFactor
  num : ScalingFactor → Nat
  denom : ScalingFactor → Nat
  scale : ScalingFactor → Nat → Nat
  create : Except String Decompressor
  readHeader : List UInt8 → Fill Decompressor String JpegHeader
  setScalingFactor : ScalingFactor → Fill Decompressor String Unit
  /-- Width, height and pitch of the image in the destination. -/
  decompress : List UInt8 → Nat → Nat → Nat → Fill (Decompressor × List UInt8) String Unit

/-- What a build of the crate runs on. -/
structure Target where
  cpu : Cpu
  turbojpeg : Turbojpeg
  decodeMjpeg : Bool

structure RgbConverter (target : Target) where
  jpeg : Option target.turbojpeg.Decompressor := none
  jpegScratch : List UInt8 := []
  nearest : NearestMap := {}
  rgbRowScratch : List UInt8 := []

/-- `Vec::resize(length, 0)`. -/
def resized (buffer : List UInt8) (length : Nat) : List UInt8 :=
  buffer.take length ++ List.replicate (length - buffer.length) 0

def minByKey {α : Type} (key : α → Nat) : List α → Option α
  | [] => none
  | item :: rest =>
      match minByKey key rest with
      | none => some item
      | some best => if key best < key item then some best else some item

def jpegScaling (lib : Turbojpeg) (header : JpegHeader) (targetWidth targetHeight : Nat) :
    lib.ScalingFactor :=
  if header.isLossless ∨ targetWidth ≥ header.width ∨ targetHeight ≥ header.height then
    lib.one
  else
    (minByKey
      (fun factor => min (lib.scale factor header.width * lib.scale factor header.height)
        (usizeLimit - 1))
      (((lib.supportedScalingFactors.filter fun factor =>
          decide (lib.num factor ≤ lib.denom factor)).filter fun factor =>
          decide (lib.num factor * 2 ≤ lib.denom factor ∨ lib.num factor = lib.denom factor)).filter
        fun factor => decide (lib.scale factor header.width ≥ targetWidth ∧
          lib.scale factor header.height ≥ targetHeight))).getD lib.one

/-- `complete_frame`: the payload up to its last end marker. -/
def completeFrame (data : List UInt8) : CameraResult (List UInt8) :=
  if data.length < 4 ∨ ¬ [0xff, 0xd8].isPrefixOf data then
    .error (.invalidFrame "MJPEG frame is missing its JPEG start marker")
  else if [0xff, 0xd9].isSuffixOf data then
    .ok data
  else
    match (List.range (data.length - 1)).reverse.find? fun position =>
        decide (slice data position (position + 2) = [0xff, 0xd9]) with
    | some position => .ok (data.take (position + 2))
    | none => .error (.invalidFrame "MJPEG frame is missing its JPEG end marker")

/-- `map_err(|e| CameraError::invalid_frame(e.to_string()))`. -/
def decoderCall {σ α : Type} (m : Fill σ String α) : Fill σ CameraError α := fun s =>
  match m s with
  | none => none
  | some (.ok a, s') => some (.ok a, s')
  | some (.error message, s') => some (.error (.invalidFrame message), s')

/-- `decode_with`: a decoder is created on demand and discarded after an error. -/
def decodeWith {τ : Type} (lib : Turbojpeg) (data : List UInt8)
    (decode : List UInt8 → Fill (lib.Decompressor × τ) CameraError Unit) :
    Fill (Option lib.Decompressor × τ) CameraError Unit := do
  let complete ← ofExcept (completeFrame data)
  fun (decoder, rest) =>
    match decoder.elim lib.create .ok with
    | .error message => some (.error (.invalidFrame message), (decoder, rest))
    | .ok decompressor =>
        match decode complete (decompressor, rest) with
        | none => none
        | some (.ok (), decompressor, rest) => some (.ok (), (some decompressor, rest))
        | some (.error e, _, rest) => some (.error e, (none, rest))

/-- What the MJPEG branch borrows besides the decoder. -/
structure JpegBuffers where
  scratch : List UInt8
  nearest : NearestMap
  out : List UInt8

def decodeJpeg (lib : Turbojpeg) (w h outW outH : Nat) (data : List UInt8) :
    Fill (lib.Decompressor × JpegBuffers) CameraError Unit := do
  let header ← onFst (decoderCall (lib.readHeader data))
  if (header.width, header.height) ≠ (w, h) then
    fail (.invalidFrame "JPEG dimensions differ from layout")
  else do
    let scaling := jpegScaling lib header outW outH
    onFst (decoderCall (lib.setScalingFactor scaling))
    let scaledWidth := lib.scale scaling header.width
    let scaledHeight := lib.scale scaling header.height
    if (scaledWidth, scaledHeight) = (outW, outH) then
      zoom (fun (decoder, buffers) => (decoder, buffers.out))
        (fun (decoder, out) (_, buffers) => (decoder, { buffers with out := out }))
        (decoderCall (lib.decompress data outW outH (outW * 3)))
    else do
      let scratchLen ← orFail ((checkedMul scaledWidth scaledHeight).bind (checkedMul · 3))
        (.invalidFrame "JPEG output size overflow")
      zoom (fun (decoder, buffers) => (decoder, resized buffers.scratch scratchLen))
        (fun (decoder, scratch) (_, buffers) => (decoder, { buffers with scratch := scratch }))
        (decoderCall (lib.decompress data scaledWidth scaledHeight (scaledWidth * 3)))
      onSnd (zoom JpegBuffers.nearest (fun nearest buffers => { buffers with nearest := nearest })
        (NearestMap.update usizeLimit scaledWidth scaledHeight outW outH false))
      let buffers := (← getState).2
      onSnd (zoom JpegBuffers.out (fun out buffers => { buffers with out := out })
        (resizeRgbNearest buffers.scratch scaledWidth outW buffers.nearest.x buffers.nearest.y))

/-! ### Conversion -/

section Convert

variable {target : Target}

abbrev Conversion (target : Target) (α : Type) :=
  Fill (RgbConverter target × List UInt8) CameraError α

def convertMjpeg (data : List UInt8) (w h outW outH : Nat) : Conversion target Unit :=
  zoom (fun (converter, out) =>
      (converter.jpeg, ⟨converter.jpegScratch, converter.nearest, out⟩))
    (fun (decoder, buffers) (converter, _) =>
      ({ converter with
          jpeg := decoder
          jpegScratch := buffers.scratch
          nearest := buffers.nearest }, buffers.out))
    (decodeWith target.turbojpeg data (decodeJpeg target.turbojpeg w h outW outH))

/-- A whole plane of the buffer as the kernels take it, `shift` bytes in. -/
def viewPlane {σ : Type} (layout : FrameLayout) (data : List UInt8) (index shift : Nat) :
    Fill σ CameraError YuvPlane := do
  let plane ← read layout.planes index
  let bytes ← view data (plane.offset + shift) (plane.offset + plane.length)
  pure { data := bytes, rowStride := plane.rowStride, pixelStride := plane.pixelStride }

/-- The two planes of NV12 and NV21. -/
def viewSemiplanar {σ : Type} (layout : FrameLayout) (data : List UInt8) :
    Fill σ CameraError Yuv420Sp := do
  let y ← viewPlane layout data 0 0
  let uv ← viewPlane layout data 1 0
  pure
    { y := y.data
      uv := uv.data
      yStride := y.rowStride
      uvStride := uv.rowStride
      vuOrder := layout.format == .nv21 }

/-- The branch taken when `direct_half_path` names a kernel. -/
def convertHalf (cpu : Cpu) (layout : FrameLayout) (data : List UInt8) (c : Coefficients) :
    RgbFill Unit := do
  let w := layout.width.toNat
  let h := layout.height.toNat
  match layout.format with
  | .nv12 | .nv21 => do
      let planes ← viewSemiplanar layout data
      yuv420spToRgbHalf cpu planes w h c
  | .yuyv | .uyvy => do
      let plane ← viewPlane layout data 0 0
      yuv422ToRgbHalf cpu plane.data w h plane.rowStride (layout.format == .uyvy) c
  | .yuv420p => do
      let y ← viewPlane layout data 0 0
      let u ← viewPlane layout data 1 0
      let v ← viewPlane layout data 2 0
      yuv420ToRgbHalf cpu y u v w h c
  | _ => crash

/-- The same-size kernel of a top-down layout, if there is one. `plane` is the
first plane. -/
def convertSame (cpu : Cpu) (layout : FrameLayout) (data : List UInt8) (plane : YuvPlane)
    (c : Coefficients) : Option (RgbFill Unit) :=
  let w := layout.width.toNat
  let h := layout.height.toNat
  match layout.format with
  | .rgb8 =>
      if plane.pixelStride = 3 then
        some <| forRange 0 h fun y =>
          within (y * w * 3) ((y + 1) * w * 3) do
            let row ← view plane.data (y * plane.rowStride) (y * plane.rowStride + w * 3)
            copyFromSlice row
      else none
  | .rgba8 =>
      if plane.pixelStride = 4 then
        some (rgba8888ToRgb cpu plane.data w h plane.rowStride)
      else none
  | .bgra8 =>
      if plane.pixelStride = 4 then
        some (bgra8888ToRgb cpu plane.data w h plane.rowStride)
      else none
  | .argb8 =>
      if plane.pixelStride = 4 then
        some (argb8888ToRgb cpu plane.data w h plane.rowStride)
      else none
  | .yuv420p =>
      some do
        let y ← viewPlane layout data 0 0
        let u ← viewPlane layout data 1 0
        let v ← viewPlane layout data 2 0
        yuv420ToRgb cpu y u v w h c
  | .nv12 | .nv21 =>
      if plane.pixelStride = 1 ∧ (layout.planes[1]?).map PlaneLayout.pixelStride = some 2 then
        some do
          let planes ← viewSemiplanar layout data
          yuv420spToRgb cpu planes w h c
      else
        some do
          let y ← viewPlane layout data 0 0
          let first ← viewPlane layout data 1 0
          let second ← viewPlane layout data 1 1
          if layout.format = .nv12 then
            yuv420ToRgb cpu y first second w h c
          else
            yuv420ToRgb cpu y second first w h c
  | .yuyv | .uyvy =>
      some (yuv422ToRgb cpu plane.data w h plane.rowStride (layout.format == .uyvy) c)
  | _ => none

def convertMapped (layout : FrameLayout) (data : List UInt8) (outW outH : Nat)
    (c : Coefficients) : Conversion target Unit := do
  let w := layout.width.toNat
  let h := layout.height.toNat
  onFst (zoom RgbConverter.nearest (fun nearest converter => { converter with nearest := nearest })
    (NearestMap.update usizeLimit w h outW outH layout.bottomUp))
  let nearest := (← getState).1.nearest
  if layout.format.isYuv ∧ supportsYuvRowConversion layout ∧
      min (outW * 4) (usizeLimit - 1) ≥ w then
    zoom (fun (converter, out) => (resized converter.rgbRowScratch (w * 6), out))
      (fun (rgbRow, out) (converter, _) => ({ converter with rgbRowScratch := rgbRow }, out))
      (scaleYuvNearest target.cpu layout data nearest.x nearest.y c)
  else if layout.format.isYuv then
    onSnd (scaleYuvScalar layout data outW nearest.x nearest.y c)
  else
    onSnd (scaleNearest layout data outW nearest.x nearest.y)

/-- The raw formats, after the checks of the layout and the sizes. `c` is the
coefficient vector of a YUV format. -/
def convertRaw (layout : FrameLayout) (data : List UInt8) (request : ConversionRequest)
    (c : Coefficients) : Conversion target Unit :=
  if (directHalfPath layout request).isSome then
    onSnd (convertHalf target.cpu layout data c)
  else if (request.width, request.height) = (layout.width, layout.height) ∧
      layout.bottomUp = false then do
    let plane ← viewPlane layout data 0 0
    match convertSame target.cpu layout data plane c with
    | some kernel => onSnd kernel
    | none => convertMapped layout data request.width.toNat request.height.toNat c
  else
    convertMapped layout data request.width.toNat request.height.toNat c

/-- `coeff.unwrap()` is only reached for YUV formats; the others ignore it. -/
def coefficientsFor (layout : FrameLayout) (request : ConversionRequest) :
    CameraResult Coefficients :=
  if layout.format.isYuv then colorCoefficients (request.color layout)
  else .ok bt601FullCoefficients

def convertLayoutInto (layout : FrameLayout) (data : List UInt8)
    (request : ConversionRequest) : Conversion target Unit := do
  ofExcept (layout.validate data.length)
  let outputLen ← ofExcept request.outputLen
  let out := (← getState).2
  failIf (outputLen ≠ out.length) (.invalidFrame "RGB destination size mismatch")
  match layout.format with
  | .mjpeg =>
      if target.decodeMjpeg then
        convertMjpeg data layout.width.toNat layout.height.toNat request.width.toNat
          request.height.toNat
      else
        fail (.unsupportedFormat "Enable jpeg for MJPEG decoding")
  | .h264 => fail (.unsupportedFormat "H264 decoding requires an external video decoder")
  | _ => do
      let c ← ofExcept (coefficientsFor layout request)
      convertRaw layout data request c

end Convert

end CameraRs

/-
The conversion kernels: each checks its own planes and then writes RGB rows. A
row kernel of the processor may convert the leading pixels of a row; the loop
over the columns finishes it. Index arithmetic is on naturals, since an index
inside a buffer has not overflowed.
-/

import CameraRs.Conversion.Color

namespace CameraRs

open Lib Fill

def checkedSub (a b : Nat) : Option Nat :=
  if b ≤ a then some (a - b) else none

abbrev RgbFill (α : Type) := Fill (List UInt8) CameraError α

structure YuvPlane where
  data : List UInt8
  rowStride : Nat
  pixelStride : Nat

structure Yuv420Sp where
  y : List UInt8
  uv : List UInt8
  yStride : Nat
  uvStride : Nat
  vuOrder : Bool

def YuvPlane.validate (plane : YuvPlane) (width height : Nat) : CameraResult Unit :=
  let rowBytes := ((checkedSub width 1).bind (checkedMul · plane.pixelStride)).bind
    (checkedAdd · 1)
  let required := ((checkedSub height 1).bind (checkedMul · plane.rowStride)).bind fun n =>
    rowBytes.bind (checkedAdd n ·)
  if plane.pixelStride = 0 ∨ rowBytes.all (fun n => decide (plane.rowStride < n)) ∨
      required.all (fun n => decide (plane.data.length < n)) then
    .error (.invalidFrame "Invalid YUV plane stride or truncated data")
  else
    .ok ()

/-! ### Row kernels of the processor -/

def planarPixel (c : Coefficients) (y u v : List UInt8) (x : Nat) : List UInt8 :=
  rgbOf c (y.getD x 0) (u.getD (x / 2) 0) (v.getD (x / 2) 0)

/-- Chroma samples `uStep` and `vStep` bytes apart. -/
def stridedPixel (c : Coefficients) (y u v : List UInt8) (uStep vStep x : Nat) : List UInt8 :=
  rgbOf c (y.getD x 0) (u.getD (x / 2 * uStep) 0) (v.getD (x / 2 * vStep) 0)

/-- `(u, v)` of the interleaved pair at `chroma`. -/
def chromaPair (vuOrder : Bool) (uv : List UInt8) (chroma : Nat) : UInt8 × UInt8 :=
  if vuOrder then (uv.getD (chroma + 1) 0, uv.getD chroma 0)
  else (uv.getD chroma 0, uv.getD (chroma + 1) 0)

def semiplanarPixel (c : Coefficients) (vuOrder : Bool) (y uv : List UInt8) (x : Nat) :
    List UInt8 :=
  rgbOf c (y.getD x 0) (chromaPair vuOrder uv (x / 2 * 2)).1
    (chromaPair vuOrder uv (x / 2 * 2)).2

def packed422Pixel (c : Coefficients) (uyvy : Bool) (source : List UInt8) (x : Nat) :
    List UInt8 :=
  let pair := x / 2 * 4
  if uyvy then
    rgbOf c (source.getD (x * 2 + 1) 0) (source.getD pair 0) (source.getD (pair + 2) 0)
  else
    rgbOf c (source.getD (x * 2) 0) (source.getD (pair + 1) 0) (source.getD (pair + 3) 0)

def packed8888Pixel (r g b : Nat) (source : List UInt8) (x : Nat) : List UInt8 :=
  [source.getD (x * 4 + r) 0, source.getD (x * 4 + g) 0, source.getD (x * 4 + b) 0]

/-- The kernel returns how many leading pixels it has written, a multiple of
`step` unless it finished the row, and leaves the other bytes as they were. -/
def FillsPrefix (step width : Nat) (m : RgbFill Nat) (pixel : Nat → List UInt8) : Prop :=
  ∀ old, old.length = width * 3 → ∃ start, start ≤ width ∧ (start % step = 0 ∨ start = width) ∧
    Returns m old start (overlay (blocks pixel width) (start * 3) old)

/-- The same for two rows at a time. -/
def FillsPairPrefix (width : Nat) (m : Fill (List UInt8 × List UInt8) CameraError Nat)
    (first second : Nat → List UInt8) : Prop :=
  ∀ old0 old1, old0.length = width * 3 → old1.length = width * 3 →
    ∃ start, start ≤ width ∧ (start % 2 = 0 ∨ start = width) ∧
      Returns m (old0, old1) start
        (overlay (blocks first width) (start * 3) old0,
          overlay (blocks second width) (start * 3) old1)

structure YuvKernels where
  planarTwoRows : Coefficients → (y0 y1 u v : List UInt8) →
    Fill (List UInt8 × List UInt8) CameraError Nat
  planarRow : Coefficients → (y u v : List UInt8) → RgbFill Nat
  planarStridedRow : Coefficients → (y u v : List UInt8) → (uStep vStep : Nat) → RgbFill Nat
  planarHalfRow : Coefficients → (y u v : List UInt8) → RgbFill Nat
  semiplanarTwoRows : Coefficients → (vuOrder : Bool) → (y0 y1 uv : List UInt8) →
    Fill (List UInt8 × List UInt8) CameraError Nat
  semiplanarRow : Coefficients → (vuOrder : Bool) → (y uv : List UInt8) → RgbFill Nat
  semiplanarHalfRow : Coefficients → (vuOrder : Bool) → (y uv : List UInt8) → RgbFill Nat
  packed422Row : Coefficients → (uyvy : Bool) → (source : List UInt8) → RgbFill Nat
  packed422HalfRow : Coefficients → (uyvy : Bool) → (source : List UInt8) → RgbFill Nat
  planarTwoRows_fills : ∀ c y0 y1 u v width, c.Configured → y0.length = width →
    y1.length = width → u.length = divCeil2 width → v.length = divCeil2 width →
    FillsPairPrefix width (planarTwoRows c y0 y1 u v) (planarPixel c y0 u v)
      (planarPixel c y1 u v)
  planarRow_fills : ∀ c y u v width, c.Configured → y.length = width →
    u.length = divCeil2 width → v.length = divCeil2 width →
    FillsPrefix 2 width (planarRow c y u v) (planarPixel c y u v)
  planarStridedRow_fills : ∀ c y u v uStep vStep width, c.Configured → y.length = width →
    (divCeil2 width - 1) * uStep < u.length → (divCeil2 width - 1) * vStep < v.length →
    FillsPrefix 2 width (planarStridedRow c y u v uStep vStep)
      (stridedPixel c y u v uStep vStep)
  planarHalfRow_fills : ∀ c y u v width, c.Configured → y.length = width * 2 →
    u.length = width → v.length = width →
    FillsPrefix 1 width (planarHalfRow c y u v) (fun x => planarPixel c y u v (x * 2))
  semiplanarTwoRows_fills : ∀ c vuOrder y0 y1 uv width, c.Configured → y0.length = width →
    y1.length = width → uv.length = divCeil2 width * 2 →
    FillsPairPrefix width (semiplanarTwoRows c vuOrder y0 y1 uv)
      (semiplanarPixel c vuOrder y0 uv) (semiplanarPixel c vuOrder y1 uv)
  semiplanarRow_fills : ∀ c vuOrder y uv width, c.Configured → y.length = width →
    uv.length = divCeil2 width * 2 →
    FillsPrefix 2 width (semiplanarRow c vuOrder y uv) (semiplanarPixel c vuOrder y uv)
  semiplanarHalfRow_fills : ∀ c vuOrder y uv width, c.Configured → y.length = width * 2 →
    uv.length = width * 2 →
    FillsPrefix 1 width (semiplanarHalfRow c vuOrder y uv)
      (fun x => semiplanarPixel c vuOrder y uv (x * 2))
  packed422Row_fills : ∀ c uyvy source width, c.Configured → width % 2 = 0 →
    source.length = width * 2 →
    FillsPrefix 2 width (packed422Row c uyvy source) (packed422Pixel c uyvy source)
  packed422HalfRow_fills : ∀ c uyvy source width, c.Configured → source.length = width * 4 →
    FillsPrefix 1 width (packed422HalfRow c uyvy source)
      (fun x => packed422Pixel c uyvy source (x * 2))

/-- The AVX2, SSSE3 or NEON kernel for packed 8888 rows. -/
structure Packed8888Kernel where
  row : (r g b : Nat) → (source : List UInt8) → RgbFill Nat
  row_fills : ∀ r g b source width, r < 4 → g < 4 → b < 4 → source.length = width * 4 →
    FillsPrefix 1 width (row r g b source) (packed8888Pixel r g b source)

/-- What the build and the processor offer. Without YUV kernels every loop starts
at the first column. -/
structure Cpu where
  yuv : Option YuvKernels
  packed8888 : Packed8888Kernel

theorem fillsPrefix_none {step width : Nat} {pixel : Nat → List UInt8} :
    FillsPrefix step width (pure 0) pixel := by
  intro old _
  refine ⟨0, Nat.zero_le _, Or.inl (Nat.zero_mod _), ?_⟩
  rw [Nat.zero_mul, overlay_zero]
  exact .pure

def Cpu.portable : Cpu :=
  { yuv := none
    packed8888 :=
      { row := fun _ _ _ _ => pure 0
        row_fills := fun _ _ _ _ _ _ _ _ _ => fillsPrefix_none } }

/-- The column a row loop starts at. -/
def Cpu.start (cpu : Cpu) (kernel : YuvKernels → RgbFill Nat) : RgbFill Nat :=
  match cpu.yuv with
  | some kernels => kernel kernels
  | none => pure 0

/-! ### Planar YUV -/

def sizeOverflow (what : String) : CameraError := .invalidFrame (what ++ " size overflow")

/-- The column loop over one contiguous row. -/
def planarColumns (c : Coefficients) (y u v : List UInt8) (start width : Nat) : RgbFill Unit :=
  forStep2 start width fun column =>
    forRange column (min (column + 2) width) fun x => do
      let y ← read y x
      let u ← read u (column / 2)
      let v ← read v (column / 2)
      within (x * 3) (x * 3 + 3) (yuvPixel c y u v)

/-- The column loop over two rows that share their chroma. -/
def planarPairColumns (c : Coefficients) (y0 y1 u v : List UInt8) (start width : Nat) :
    Fill (List UInt8 × List UInt8) CameraError Unit :=
  forStep2 start width fun column => do
    let pixels (luma : List UInt8) : RgbFill Unit :=
      forRange column (min (column + 2) width) fun x => do
        let y ← read luma x
        let u ← read u (column / 2)
        let v ← read v (column / 2)
        within (x * 3) (x * 3 + 3) (yuvPixel c y u v)
    onFst (pixels y0)
    onSnd (pixels y1)

/-- The branch of `yuv420_to_rgb_with_coefficients_into` for contiguous planes on
a processor with kernels: pairs of rows, then the odd last row. -/
def yuv420Paired (kernels : YuvKernels) (y u v : YuvPlane) (width height : Nat)
    (c : Coefficients) : RgbFill Unit := do
  let rgbRowBytes := width * 3
  let chromaWidth := divCeil2 width
  let pairedRows := height / 2 * 2
  forStep2 0 pairedRows fun row => do
    let y0 ← view y.data (row * y.rowStride) (row * y.rowStride + width)
    let y1 ← view y.data ((row + 1) * y.rowStride) ((row + 1) * y.rowStride + width)
    let chromaRow := row / 2
    let uRow ← view u.data (chromaRow * u.rowStride) (chromaRow * u.rowStride + chromaWidth)
    let vRow ← view v.data (chromaRow * v.rowStride) (chromaRow * v.rowStride + chromaWidth)
    withinPair (row * rgbRowBytes) rgbRowBytes do
      let start ← kernels.planarTwoRows c y0 y1 uRow vRow
      planarPairColumns c y0 y1 uRow vRow start width
  if pairedRows ≠ height then do
    let row := pairedRows
    let yRow ← view y.data (row * y.rowStride) (row * y.rowStride + width)
    let chromaRow := row / 2
    let uRow ← view u.data (chromaRow * u.rowStride) (chromaRow * u.rowStride + chromaWidth)
    let vRow ← view v.data (chromaRow * v.rowStride) (chromaRow * v.rowStride + chromaWidth)
    within (row * rgbRowBytes) (row * rgbRowBytes + rgbRowBytes) do
      let start ← kernels.planarRow c yRow uRow vRow
      planarColumns c yRow uRow vRow start width
  else
    pure ()

/-- The `start` of one row for any pixel strides: the NEON kernel for strided
chroma needs contiguous luma. -/
def yuv420RowStart (cpu : Cpu) (y u v : YuvPlane) (width row : Nat) (c : Coefficients) :
    RgbFill Nat :=
  if y.pixelStride = 1 then
    cpu.start fun kernels => do
      let yRow ← view y.data (row * y.rowStride) (row * y.rowStride + width)
      let uRow ← viewFrom u.data (row / 2 * u.rowStride)
      let vRow ← viewFrom v.data (row / 2 * v.rowStride)
      within (row * width * 3) (row * width * 3 + width * 3)
        (kernels.planarStridedRow c yRow uRow vRow u.pixelStride v.pixelStride)
  else
    pure 0

def yuv420Rows (cpu : Cpu) (y u v : YuvPlane) (width height : Nat) (c : Coefficients) :
    RgbFill Unit :=
  forRange 0 height fun row => do
    let start ← yuv420RowStart cpu y u v width row c
    forStep2 start width fun column => do
      let uSample ← read u.data (row / 2 * u.rowStride + column / 2 * u.pixelStride)
      let vSample ← read v.data (row / 2 * v.rowStride + column / 2 * v.pixelStride)
      forRange column (min (column + 2) width) fun x => do
        let ySample ← read y.data (row * y.rowStride + x * y.pixelStride)
        within ((row * width + x) * 3) ((row * width + x) * 3 + 3)
          (yuvPixel c ySample uSample vSample)

def yuv420ToRgb (cpu : Cpu) (y u v : YuvPlane) (width height : Nat) (c : Coefficients) :
    RgbFill Unit := do
  ofExcept (y.validate width height)
  ofExcept (u.validate (divCeil2 width) (divCeil2 height))
  ofExcept (v.validate (divCeil2 width) (divCeil2 height))
  let length ← orFail ((checkedMul width height).bind (checkedMul · 3)) (sizeOverflow "RGB")
  let rgb ← getState
  failIf (rgb.length < length) (.invalidFrame "RGB buffer too short")
  match cpu.yuv with
  | some kernels =>
      if y.pixelStride = 1 ∧ u.pixelStride = 1 ∧ v.pixelStride = 1 then
        yuv420Paired kernels y u v width height c
      else
        yuv420Rows cpu y u v width height c
  | none => yuv420Rows cpu y u v width height c

def yuv420ToRgbHalf (cpu : Cpu) (y u v : YuvPlane) (width height : Nat) (c : Coefficients) :
    RgbFill Unit := do
  failIf (width = 0 ∨ height = 0 ∨ width % 2 ≠ 0 ∨ height % 2 ≠ 0)
    (.invalidFrame "half-size YUV420 conversion requires positive even dimensions")
  ofExcept (y.validate width height)
  ofExcept (u.validate (width / 2) (height / 2))
  ofExcept (v.validate (width / 2) (height / 2))
  failIf (y.pixelStride ≠ 1 ∨ u.pixelStride ≠ 1 ∨ v.pixelStride ≠ 1)
    (.invalidFrame "direct half-size planar YUV requires contiguous pixels")
  let outputWidth := width / 2
  let outputHeight := height / 2
  let requiredRgb ← orFail ((checkedMul outputWidth outputHeight).bind (checkedMul · 3))
    (sizeOverflow "RGB")
  let rgb ← getState
  failIf (rgb.length < requiredRgb) (.invalidFrame "half-size RGB buffer is too small")
  forRange 0 outputHeight fun row => do
    let yRow ← view y.data (row * 2 * y.rowStride) (row * 2 * y.rowStride + width)
    let uRow ← view u.data (row * u.rowStride) (row * u.rowStride + outputWidth)
    let vRow ← view v.data (row * v.rowStride) (row * v.rowStride + outputWidth)
    within (row * outputWidth * 3) (row * outputWidth * 3 + outputWidth * 3) do
      let start ← cpu.start fun kernels => kernels.planarHalfRow c yRow uRow vRow
      forRange start outputWidth fun column => do
        let y ← read yRow (column * 2)
        let u ← read uRow column
        let v ← read vRow column
        within (column * 3) (column * 3 + 3) (yuvPixel c y u v)

/-! ### Semi-planar YUV -/

/-- The `(u, v)` pair at `chroma` of an interleaved row. -/
def readChroma {σ : Type} (vuOrder : Bool) (uv : List UInt8) (chroma : Nat) :
    Fill σ CameraError (UInt8 × UInt8) :=
  if vuOrder then do
    let u ← read uv (chroma + 1)
    let v ← read uv chroma
    pure (u, v)
  else do
    let u ← read uv chroma
    let v ← read uv (chroma + 1)
    pure (u, v)

def semiplanarColumns (c : Coefficients) (vuOrder : Bool) (y uv : List UInt8)
    (start width : Nat) : RgbFill Unit :=
  forStep2 start width fun column => do
    let (u, v) ← readChroma vuOrder uv (column / 2 * 2)
    forRange column (min (column + 2) width) fun x => do
      let y ← read y x
      within (x * 3) (x * 3 + 3) (yuvPixel c y u v)

def semiplanarPairColumns (c : Coefficients) (vuOrder : Bool) (y0 y1 uv : List UInt8)
    (start width : Nat) : Fill (List UInt8 × List UInt8) CameraError Unit :=
  forStep2 start width fun column => do
    let (u, v) ← readChroma vuOrder uv (column / 2 * 2)
    forRange column (min (column + 2) width) fun x => do
      let y ← read y0 x
      onFst (within (x * 3) (x * 3 + 3) (yuvPixel c y u v))
      let y ← read y1 x
      onSnd (within (x * 3) (x * 3 + 3) (yuvPixel c y u v))

def yuv420spPaired (kernels : YuvKernels) (planes : Yuv420Sp) (width height : Nat)
    (chromaRowBytes : Nat) (c : Coefficients) : RgbFill Unit := do
  let rgbRowBytes := width * 3
  let pairedRows := height / 2 * 2
  forStep2 0 pairedRows fun row => do
    let y0 ← view planes.y (row * planes.yStride) (row * planes.yStride + width)
    let y1 ← view planes.y ((row + 1) * planes.yStride) ((row + 1) * planes.yStride + width)
    let uvRow ← view planes.uv (row / 2 * planes.uvStride)
      (row / 2 * planes.uvStride + chromaRowBytes)
    withinPair (row * rgbRowBytes) rgbRowBytes do
      let start ← kernels.semiplanarTwoRows c planes.vuOrder y0 y1 uvRow
      semiplanarPairColumns c planes.vuOrder y0 y1 uvRow start width
  if pairedRows ≠ height then do
    let row := pairedRows
    let yRow ← view planes.y (row * planes.yStride) (row * planes.yStride + width)
    let uvRow ← view planes.uv (row / 2 * planes.uvStride)
      (row / 2 * planes.uvStride + chromaRowBytes)
    within (row * rgbRowBytes) (row * rgbRowBytes + rgbRowBytes) do
      let start ← kernels.semiplanarRow c planes.vuOrder yRow uvRow
      semiplanarColumns c planes.vuOrder yRow uvRow start width
  else
    pure ()

/-- `write_pixel` of the BT.601 full-range kernel. -/
def writeBt601Pixel (y : UInt8) (u v : Int) : RgbFill Unit := do
  let redChroma := bt601FullCoefficients.cr * v + 512
  let greenChroma := -bt601FullCoefficients.gu * u - bt601FullCoefficients.gv * v + 512
  let blueChroma := bt601FullCoefficients.cb * u + 512
  let luma := (y.toNat : Int) * bt601FullCoefficients.cy
  store 0 (clampByte ((luma + redChroma) >>> (10 : Nat)))
  store 1 (clampByte ((luma + greenChroma) >>> (10 : Nat)))
  store 2 (clampByte ((luma + blueChroma) >>> (10 : Nat)))

def yuv420spBt601FullToRgb (planes : Yuv420Sp) (width height : Nat) : RgbFill Unit := do
  failIf (width = 0 ∨ height = 0 ∨ planes.yStride < width)
    (.invalidFrame "invalid YUV420 dimensions or Y stride")
  let chromaRowBytes ← orFail (checkedMul (divCeil2 width) 2) (sizeOverflow "YUV420")
  failIf (planes.uvStride < chromaRowBytes) (.invalidFrame "invalid YUV420 UV stride")
  let requiredY ← orFail ((checkedMul (height - 1) planes.yStride).bind (checkedAdd · width))
    (sizeOverflow "YUV420 Y")
  let chromaRows := divCeil2 height
  let requiredUv ← orFail
    ((checkedMul (chromaRows - 1) planes.uvStride).bind (checkedAdd · chromaRowBytes))
    (sizeOverflow "YUV420 UV")
  let requiredRgb ← orFail ((checkedMul width height).bind (checkedMul · 3))
    (sizeOverflow "RGB")
  let rgb ← getState
  failIf (planes.y.length < requiredY ∨ planes.uv.length < requiredUv ∨
    rgb.length < requiredRgb) (.invalidFrame "YUV420 or RGB buffer is too small")
  forRange 0 height fun row => do
    let yRow ← viewFrom planes.y (row * planes.yStride)
    let uvRow ← viewFrom planes.uv (row / 2 * planes.uvStride)
    let rgbRowStart := row * width * 3
    forStep2 0 width fun column => do
      let uvOffset := column / 2 * 2
      let uSample ← read uvRow uvOffset
      let vSample ← read uvRow (uvOffset + 1)
      let u := (uSample.toNat : Int) - 128
      let v := (vSample.toNat : Int) - 128
      let firstRgb := rgbRowStart + column * 3
      let y ← read yRow column
      within firstRgb (firstRgb + 3) (writeBt601Pixel y u v)
      if column + 1 < width then do
        let secondRgb := firstRgb + 3
        let y ← read yRow (column + 1)
        within secondRgb (secondRgb + 3) (writeBt601Pixel y u v)
      else
        pure ()

def yuv420spToRgb (cpu : Cpu) (planes : Yuv420Sp) (width height : Nat) (c : Coefficients) :
    RgbFill Unit :=
  if c = bt601FullCoefficients ∧ planes.vuOrder = false ∧ cpu.yuv.isNone then
    yuv420spBt601FullToRgb planes width height
  else do
    ofExcept (YuvPlane.validate ⟨planes.y, planes.yStride, 1⟩ width height)
    let chromaRowBytes ← orFail (checkedMul (divCeil2 width) 2) (sizeOverflow "YUV420")
    let chromaRows := divCeil2 height
    let requiredUv ← orFail
      ((checkedMul (chromaRows - 1) planes.uvStride).bind (checkedAdd · chromaRowBytes))
      (sizeOverflow "YUV420")
    let requiredRgb ← orFail ((checkedMul width height).bind (checkedMul · 3))
      (sizeOverflow "RGB")
    let rgb ← getState
    failIf (planes.uvStride < chromaRowBytes ∨ planes.uv.length < requiredUv ∨
      rgb.length < requiredRgb) (.invalidFrame "invalid YUV420 UV stride or buffer size")
    match cpu.yuv with
    | some kernels => yuv420spPaired kernels planes width height chromaRowBytes c
    | none =>
        forRange 0 height fun row => do
          let yRow ← view planes.y (row * planes.yStride) (row * planes.yStride + width)
          let uvRow ← view planes.uv (row / 2 * planes.uvStride)
            (row / 2 * planes.uvStride + chromaRowBytes)
          within (row * width * 3) (row * width * 3 + width * 3) <|
            semiplanarColumns c planes.vuOrder yRow uvRow 0 width

def yuv420spToRgbHalf (cpu : Cpu) (planes : Yuv420Sp) (width height : Nat)
    (c : Coefficients) : RgbFill Unit := do
  failIf (width = 0 ∨ height = 0 ∨ width % 2 ≠ 0 ∨ height % 2 ≠ 0)
    (.invalidFrame "half-size YUV420 conversion requires positive even dimensions")
  ofExcept (YuvPlane.validate ⟨planes.y, planes.yStride, 1⟩ width height)
  let chromaRows := height / 2
  let requiredUv ← orFail
    ((checkedMul (chromaRows - 1) planes.uvStride).bind (checkedAdd · width))
    (sizeOverflow "YUV420")
  let outputWidth := width / 2
  let outputHeight := height / 2
  let requiredRgb ← orFail ((checkedMul outputWidth outputHeight).bind (checkedMul · 3))
    (sizeOverflow "RGB")
  let rgb ← getState
  failIf (planes.uvStride < width ∨ planes.uv.length < requiredUv ∨ rgb.length < requiredRgb)
    (.invalidFrame "invalid YUV420 UV stride or half-size RGB buffer")
  forRange 0 outputHeight fun row => do
    let yRow ← view planes.y (row * 2 * planes.yStride) (row * 2 * planes.yStride + width)
    let uvRow ← view planes.uv (row * planes.uvStride) (row * planes.uvStride + width)
    within (row * outputWidth * 3) (row * outputWidth * 3 + outputWidth * 3) do
      let start ← cpu.start fun kernels =>
        kernels.semiplanarHalfRow c planes.vuOrder yRow uvRow
      forRange start outputWidth fun column => do
        let (u, v) ← readChroma planes.vuOrder uvRow (column * 2)
        let y ← read yRow (column * 2)
        within (column * 3) (column * 3 + 3) (yuvPixel c y u v)

/-! ### Packed 4:2:2 -/

def yuv422ToRgb (cpu : Cpu) (source : List UInt8) (width height stride : Nat) (uyvy : Bool)
    (c : Coefficients) : RgbFill Unit := do
  let sourceRowBytes ← orFail (checkedMul width 2) (sizeOverflow "YUV422")
  let rgbRowBytes ← orFail (checkedMul width 3) (sizeOverflow "RGB")
  failIf (width = 0 ∨ height = 0 ∨ width % 2 ≠ 0 ∨ stride < sourceRowBytes)
    (.invalidFrame "invalid YUV422 dimensions or stride")
  let requiredSource ← orFail
    ((checkedMul (height - 1) stride).bind (checkedAdd · sourceRowBytes))
    (sizeOverflow "YUV422")
  let requiredRgb ← orFail (checkedMul height rgbRowBytes) (sizeOverflow "RGB")
  let rgb ← getState
  failIf (source.length < requiredSource ∨ rgb.length < requiredRgb)
    (.invalidFrame "YUV422 or RGB buffer is too small")
  forRange 0 height fun row => do
    let sourceRow ← view source (row * stride) (row * stride + sourceRowBytes)
    within (row * rgbRowBytes) (row * rgbRowBytes + rgbRowBytes) do
      let start ← cpu.start fun kernels => kernels.packed422Row c uyvy sourceRow
      forStep2 start width fun column => do
        let input := column * 2
        let output := column * 3
        let y0 ← read sourceRow (if uyvy then input + 1 else input)
        let u ← read sourceRow (if uyvy then input else input + 1)
        let y1 ← read sourceRow (if uyvy then input + 3 else input + 2)
        let v ← read sourceRow (if uyvy then input + 2 else input + 3)
        within output (output + 3) (yuvPixel c y0 u v)
        within (output + 3) (output + 6) (yuvPixel c y1 u v)

def yuv422ToRgbHalf (cpu : Cpu) (source : List UInt8) (width height stride : Nat)
    (uyvy : Bool) (c : Coefficients) : RgbFill Unit := do
  let sourceRowBytes ← orFail (checkedMul width 2) (sizeOverflow "YUV422")
  let outputWidth := width / 2
  let outputHeight := height / 2
  let rgbRowBytes ← orFail (checkedMul outputWidth 3) (sizeOverflow "RGB")
  failIf (width = 0 ∨ height = 0 ∨ width % 2 ≠ 0 ∨ height % 2 ≠ 0 ∨ stride < sourceRowBytes)
    (.invalidFrame "invalid half-size YUV422 dimensions or stride")
  let requiredSource ← orFail
    ((checkedMul (height - 1) stride).bind (checkedAdd · sourceRowBytes))
    (sizeOverflow "YUV422")
  let requiredRgb ← orFail (checkedMul outputHeight rgbRowBytes) (sizeOverflow "RGB")
  let rgb ← getState
  failIf (source.length < requiredSource ∨ rgb.length < requiredRgb)
    (.invalidFrame "YUV422 or half-size RGB buffer is too small")
  forRange 0 outputHeight fun row => do
    let sourceRow ← view source (row * 2 * stride) (row * 2 * stride + sourceRowBytes)
    within (row * rgbRowBytes) (row * rgbRowBytes + rgbRowBytes) do
      let start ← cpu.start fun kernels => kernels.packed422HalfRow c uyvy sourceRow
      forRange start outputWidth fun column => do
        let input := column * 4
        let y ← read sourceRow (if uyvy then input + 1 else input)
        let u ← read sourceRow (if uyvy then input else input + 1)
        let v ← read sourceRow (if uyvy then input + 2 else input + 3)
        within (column * 3) (column * 3 + 3) (yuvPixel c y u v)

/-! ### Packed 8888 -/

/-- `packed_8888_to_rgb_into` with its channel positions. -/
def packed8888ToRgb (cpu : Cpu) (r g b : Nat) (packed : List UInt8)
    (width height packedStride : Nat) : RgbFill Unit := do
  let packedRowBytes ← orFail (checkedMul width 4) (sizeOverflow "packed 8888")
  let rgbRowBytes ← orFail (checkedMul width 3) (sizeOverflow "RGB")
  failIf (width = 0 ∨ height = 0 ∨ packedStride < packedRowBytes)
    (.invalidFrame "invalid packed 8888 dimensions or stride")
  let requiredPacked ← orFail
    ((checkedMul (height - 1) packedStride).bind (checkedAdd · packedRowBytes))
    (sizeOverflow "packed 8888")
  let requiredRgb ← orFail (checkedMul height rgbRowBytes) (sizeOverflow "RGB")
  let rgb ← getState
  failIf (packed.length < requiredPacked ∨ rgb.length < requiredRgb)
    (.invalidFrame "packed 8888 or RGB buffer is too small")
  forRange 0 height fun row => do
    let source ← view packed (row * packedStride) (row * packedStride + packedRowBytes)
    within (row * rgbRowBytes) ((row + 1) * rgbRowBytes) do
      let converted ← cpu.packed8888.row r g b source
      forRange converted width fun x => do
        let sourcePixel ← view source (x * 4) (x * 4 + 4)
        within (x * 3) (x * 3 + 3) do
          let red ← read sourcePixel r
          let green ← read sourcePixel g
          let blue ← read sourcePixel b
          copyFromSlice [red, green, blue]

def rgba8888ToRgb (cpu : Cpu) : List UInt8 → Nat → Nat → Nat → RgbFill Unit :=
  packed8888ToRgb cpu 0 1 2

def bgra8888ToRgb (cpu : Cpu) : List UInt8 → Nat → Nat → Nat → RgbFill Unit :=
  packed8888ToRgb cpu 2 1 0

def argb8888ToRgb (cpu : Cpu) : List UInt8 → Nat → Nat → Nat → RgbFill Unit :=
  packed8888ToRgb cpu 1 2 3

end CameraRs

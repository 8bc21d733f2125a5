/-
Every kernel fills its destination with the reference image of its planes: the
paired rows, the odd last row, the row loop and the half-size loops all sample
the same luma and chroma bytes.
-/

import CameraRs.Conversion.Images

namespace CameraRs

open Lib Fill

/-! ### Planar YUV -/

def planarAt (c : Coefficients) (y u v : YuvPlane) (row x : Nat) : List UInt8 :=
  rgbOf c (y.sample row x) (u.sample (row / 2) (x / 2)) (v.sample (row / 2) (x / 2))

theorem isRgb_planarAt {c : Coefficients} {y u v : YuvPlane} : IsRgbImage (planarAt c y u v) :=
  fun _ _ => rfl

/-- Luma for every pixel, chroma for every second row and column. -/
structure PlanarCover (y u v : YuvPlane) (width height : Nat) : Prop where
  wide : 0 < width
  tall : 0 < height
  luma : y.Covers width height
  u : u.Covers (divCeil2 width) (divCeil2 height)
  v : v.Covers (divCeil2 width) (divCeil2 height)

section Planar

variable {c : Coefficients} {y u v : YuvPlane} {width height row : Nat} {old : List UInt8}

theorem half_lt (bound : row < height) : row / 2 < divCeil2 height := by
  unfold divCeil2
  omega

theorem planarPixel_row (contiguous : y.pixelStride = 1 ∧ u.pixelStride = 1 ∧ v.pixelStride = 1)
    {yStart uStart vStart size chroma x : Nat} (at_luma : yStart = row * y.rowStride)
    (at_u : uStart = row / 2 * u.rowStride) (at_v : vStart = row / 2 * v.rowStride)
    (inside : x < size) (halved : x / 2 < chroma) :
    planarPixel c (slice y.data yStart (yStart + size)) (slice u.data uStart (uStart + chroma))
      (slice v.data vStart (vStart + chroma)) x = planarAt c y u v row x := by
  subst at_luma at_u at_v
  rw [planarPixel, planarAt, getD_slice (by omega), getD_slice (by omega), getD_slice (by omega),
    YuvPlane.sample, YuvPlane.sample, YuvPlane.sample, contiguous.1, contiguous.2.1,
    contiguous.2.2, Nat.mul_one, Nat.mul_one]

private theorem yuv420Paired_fills (kernels : YuvKernels) (configured : c.Configured)
    (cover : PlanarCover y u v width height)
    (contiguous : y.pixelStride = 1 ∧ u.pixelStride = 1 ∧ v.pixelStride = 1) :
    Fills (yuv420Paired kernels y u v width height c) (imageOf (planarAt c y u v) width height) := by
  have small := configured.small
  have chromaWide := divCeil2_pos cover.wide
  have luma {row : Nat} := @YuvPlane.Covers.contiguous _ _ _ cover.luma contiguous.1 cover.wide row
  have chromaU {row : Nat} :=
    @YuvPlane.Covers.contiguous _ _ _ cover.u contiguous.2.1 chromaWide row
  have chromaV {row : Nat} :=
    @YuvPlane.Covers.contiguous _ _ _ cover.v contiguous.2.2 chromaWide row
  -- What one row of slices gives, for either half of a pair and for the last row.
  have line {r : Nat} (bound : r < height) :
      blocks (planarPixel c
        (slice y.data (r * y.rowStride) (r * y.rowStride + width))
        (slice u.data (r / 2 * u.rowStride) (r / 2 * u.rowStride + divCeil2 width))
        (slice v.data (r / 2 * v.rowStride) (r / 2 * v.rowStride + divCeil2 width))) width =
      blocks (planarAt c y u v r) width :=
    blocks_congr fun x inside => planarPixel_row contiguous rfl rfl rfl inside (half_lt inside)
  refine Fills.paired isRgb_planarAt.rows (fun row old bound parity fits => ?_)
    (fun old bound fits => ?_)
  · have here : row < height := by omega
    have half := half_lt here
    refine .bind (.view (by omega) (luma here)) (.bind (.view (by omega) (luma bound))
      (.bind (.view (by omega) (chromaU half)) (.bind (.view (by omega) (chromaV half)) ?_)))
    refine Returns.blockPair isRgb_planarAt.rows bound fits fun old0 old1 size0 size1 => ?_
    have next : (row + 1) / 2 = row / 2 := by omega
    have upper := line here
    have lower := line bound
    rw [next] at lower
    have written := writes_rows isRgb_planar isRgb_planar
      (kernels.planarTwoRows_fills c _ _ _ _ width configured (length_slice_add (luma here))
        (length_slice_add (luma bound)) (length_slice_add (chromaU half))
        (length_slice_add (chromaV half)))
      (fun start old0 old1 ordered aligned size0 size1 =>
        planarPairColumns_writes small
          ⟨length_slice_add (chromaU half), length_slice_add (chromaV half)⟩
          ⟨length_slice_add (luma here), length_slice_add (luma bound)⟩
          ordered aligned size0 size1) size0 size1
    rwa [upper, lower] at written
  · have inside : height / 2 * 2 < height := by omega
    have half := half_lt inside
    refine .bind (.view (by omega) (luma inside)) (.bind (.view (by omega) (chromaU half))
      (.bind (.view (by omega) (chromaV half)) ?_))
    rw [Nat.succ_mul]
    refine Writes.block isRgb_planarAt.rows inside fits ?_
    have written := writes_row isRgb_planar
      (kernels.planarRow_fills c _ _ _ width configured (length_slice_add (luma inside))
        (length_slice_add (chromaU half)) (length_slice_add (chromaV half)))
      (fun start old ordered aligned size =>
        planarColumns_writes small
          ⟨length_slice_add (chromaU half), length_slice_add (chromaV half)⟩
          (length_slice_add (luma inside)) ordered aligned size)
    rwa [line inside] at written

theorem FillsPrefix.congr {step : Nat} {m : RgbFill Nat} {pixel other : Nat → List UInt8}
    (fills : FillsPrefix step width m pixel) (same : ∀ x, x < width → pixel x = other x) :
    FillsPrefix step width m other := by
  unfold FillsPrefix
  rw [← blocks_congr same]
  exact fills

private theorem yuv420RowStart_fills (cpu : Cpu) (configured : c.Configured)
    (cover : PlanarCover y u v width height) (bound : row < height)
    (fits : (imageOf (planarAt c y u v) width height).length ≤ old.length) :
    ∃ start, start ≤ width ∧ (start % 2 = 0 ∨ start = width) ∧
      Returns (yuv420RowStart cpu y u v width row c)
        (imageUpTo (planarAt c y u v) width height old row 0) start
        (imageUpTo (planarAt c y u v) width height old row start) := by
  have none_done : ∃ start, start ≤ width ∧ (start % 2 = 0 ∨ start = width) ∧
      Returns (pure 0 : RgbFill Nat) (imageUpTo (planarAt c y u v) width height old row 0) start
        (imageUpTo (planarAt c y u v) width height old row start) :=
    ⟨0, Nat.zero_le _, Or.inl rfl, .pure⟩
  unfold yuv420RowStart
  split
  · rename_i adjacent
    rw [Cpu.start]
    cases cpu.yuv with
    | none => exact none_done
    | some kernels =>
        have wide := cover.wide
        have half := half_lt bound
        have lastChroma : divCeil2 width - 1 < divCeil2 width := by
          have := divCeil2_pos wide
          omega
        have lumaEnd := cover.luma.contiguous adjacent wide bound
        have uEnd := cover.u.inside half lastChroma
        have vEnd := cover.v.inside half lastChroma
        have strided := kernels.planarStridedRow_fills c
          (slice y.data (row * y.rowStride) (row * y.rowStride + width))
          (u.data.drop (row / 2 * u.rowStride)) (v.data.drop (row / 2 * v.rowStride))
          u.pixelStride v.pixelStride width configured (length_slice_add lumaEnd)
          (by rw [List.length_drop]; omega) (by rw [List.length_drop]; omega)
        have reference : FillsPrefix _ width _ (planarAt c y u v row) :=
          strided.congr fun x inside => by
            rw [stridedPixel, planarAt, getD_slice (by omega), getD_drop, getD_drop,
              YuvPlane.sample, YuvPlane.sample, YuvPlane.sample, adjacent, Nat.mul_one]
        obtain ⟨stop, ordered, aligned, ran⟩ := prefix_image_row isRgb_planarAt
          (Nat.mul_assoc row width 3) bound fits reference
        exact ⟨stop, ordered, aligned, .bind (.view (by omega) lumaEnd)
          (.bind (.viewFrom (by omega)) (.bind (.viewFrom (by omega)) ran))⟩
  · exact none_done

theorem yuv420Rows_fills (cpu : Cpu) (configured : c.Configured)
    (cover : PlanarCover y u v width height) :
    Fills (yuv420Rows cpu y u v width height c) (imageOf (planarAt c y u v) width height) := by
  refine fills_image isRgb_planarAt fun row old bound fits => ?_
  obtain ⟨start, ordered, aligned, ran⟩ := yuv420RowStart_fills cpu configured cover bound fits
  refine .bind ran ?_
  refine Returns.forStep2 ordered fun column later inside parity => ?_
  have line := half_lt bound
  have half := half_lt inside
  refine .bind (.read (d := 0) (cover.u.inside line half))
    (.bind (.read (d := 0) (cover.v.inside line half)) ?_)
  refine Returns.forRange (by omega) fun x low high => ?_
  have shared := chroma_of_pair aligned later inside parity low high
  refine .bind (.read (d := 0) (cover.luma.inside bound (by omega))) ?_
  refine writes_image_pixel isRgb_planarAt rfl bound (by omega) fits ?_
  rw [planarAt, shared]
  exact yuvPixel_writes configured.small

theorem yuv420ToRgb_fills (cpu : Cpu) (configured : c.Configured)
    (cover : PlanarCover y u v width height) (addressable : width * height * 3 < usizeLimit) :
    Fills (yuv420ToRgb cpu y u v width height c) (imageOf (planarAt c y u v) width height) := by
  intro old fits
  have chromaWide := divCeil2_pos cover.wide
  have chromaTall := divCeil2_pos cover.tall
  have room : width * height * 3 ≤ old.length := by
    rw [isRgb_planarAt.length, ← Nat.mul_assoc, Nat.mul_comm height width] at fits
    exact fits
  refine .bind (.ofExcept (cover.luma.validate cover.wide cover.tall))
    (.bind (.ofExcept (cover.u.validate chromaWide chromaTall))
    (.bind (.ofExcept (cover.v.validate chromaWide chromaTall))
    (.bind (.orFail (checkedMulMul_lt (by omega) addressable))
    (.bind .getState (.bind (.failIf (by omega)) ?_)))))
  cases cpu.yuv with
  | none => exact yuv420Rows_fills cpu configured cover old fits
  | some kernels =>
      by_cases contiguous : y.pixelStride = 1 ∧ u.pixelStride = 1 ∧ v.pixelStride = 1
      · simp only [if_pos contiguous]
        exact yuv420Paired_fills kernels configured cover contiguous old fits
      · simp only [if_neg contiguous]
        exact yuv420Rows_fills cpu configured cover old fits

def halfOf (pixel : Nat → Nat → List UInt8) (row x : Nat) : List UInt8 :=
  pixel (row * 2) (x * 2)

theorem IsRgbImage.half {pixel : Nat → Nat → List UInt8} (rgb : IsRgbImage pixel) :
    IsRgbImage (halfOf pixel) :=
  fun row x => rgb (row * 2) (x * 2)

theorem divCeil2_even (even : width % 2 = 0) : divCeil2 width = width / 2 := by
  unfold divCeil2
  omega

theorem start_fills {step : Nat} {pixel : Nat → List UInt8} {kernel : YuvKernels → RgbFill Nat}
    (cpu : Cpu) (fills : ∀ kernels, FillsPrefix step width (kernel kernels) pixel) :
    FillsPrefix step width (cpu.start kernel) pixel := by
  unfold Cpu.start
  cases cpu.yuv with
  | none => exact fillsPrefix_none
  | some kernels => exact fills kernels

theorem yuv420ToRgbHalf_fills (cpu : Cpu) (configured : c.Configured)
    (cover : PlanarCover y u v width height) (even : width % 2 = 0 ∧ height % 2 = 0)
    (addressable : width / 2 * (height / 2) * 3 < usizeLimit)
    (contiguous : y.pixelStride = 1 ∧ u.pixelStride = 1 ∧ v.pixelStride = 1) :
    Fills (yuv420ToRgbHalf cpu y u v width height c)
      (imageOf (halfOf (planarAt c y u v)) (width / 2) (height / 2)) := by
  intro old fits
  have wide := cover.wide
  have tall := cover.tall
  have coverU := cover.u
  have coverV := cover.v
  rw [divCeil2_even even.1, divCeil2_even even.2] at coverU coverV
  have room : width / 2 * (height / 2) * 3 ≤ old.length := by
    rw [isRgb_planarAt.half.length, ← Nat.mul_assoc, Nat.mul_comm (height / 2)] at fits
    exact fits
  refine .bind (.failIf (by omega)) (.bind (.ofExcept (cover.luma.validate wide tall))
    (.bind (.ofExcept (coverU.validate (by omega) (by omega)))
    (.bind (.ofExcept (coverV.validate (by omega) (by omega))) (.bind (.failIf (by omega))
    (.bind (.orFail (checkedMulMul_lt (by omega) addressable)) (.bind .getState
    (.bind (.failIf (by omega)) ?_)))))))
  refine fills_image isRgb_planarAt.half (fun row old bound fits => ?_) old fits
  have lumaEnd := cover.luma.contiguous contiguous.1 wide (show row * 2 < height by omega)
  have uEnd := coverU.contiguous contiguous.2.1 (by omega) bound
  have vEnd := coverV.contiguous contiguous.2.2 (by omega) bound
  refine .bind (.view (by omega) lumaEnd) (.bind (.view (by omega) uEnd)
    (.bind (.view (by omega) vEnd) ?_))
  refine writes_image_row isRgb_planarAt.half (Nat.mul_assoc _ _ _) bound fits ?_
  have line : blocks (fun x => planarPixel c
        (slice y.data (row * 2 * y.rowStride) (row * 2 * y.rowStride + width))
        (slice u.data (row * u.rowStride) (row * u.rowStride + width / 2))
        (slice v.data (row * v.rowStride) (row * v.rowStride + width / 2)) (x * 2)) (width / 2) =
      blocks (halfOf (planarAt c y u v) row) (width / 2) :=
    blocks_congr fun x inside => planarPixel_row contiguous rfl
      (by rw [Nat.mul_div_cancel _ (by omega)]) (by rw [Nat.mul_div_cancel _ (by omega)])
      (by omega) (by omega)
  rw [← line]
  refine writes_row (fun x => isRgb_planar (x * 2))
    (start_fills cpu fun kernels => kernels.planarHalfRow_fills c _ _ _ (width / 2) configured
      (by rw [length_slice_add lumaEnd]; omega) (length_slice_add uEnd) (length_slice_add vEnd))
    fun start old ordered _ size => ?_
  refine Returns.forRange ordered fun x low high => ?_
  have lumaSize := length_slice_add lumaEnd
  have uSize := length_slice_add uEnd
  have vSize := length_slice_add vEnd
  refine .bind (.read (d := 0) (by omega)) (.bind (.read (d := 0) (by omega))
    (.bind (.read (d := 0) (by omega)) ?_))
  refine writes_pixel (fun x => isRgb_planar (x * 2)) size high ?_
  rw [planarPixel, Nat.mul_div_cancel _ (by omega)]
  exact yuvPixel_writes configured.small

end Planar

/-! ### Semi-planar YUV -/

/-- The reference pixel of a luma plane and an interleaved chroma plane. -/
def semiplanarAt (c : Coefficients) (planes : Yuv420Sp) (row x : Nat) : List UInt8 :=
  let chroma := chromaPair planes.vuOrder planes.uv (row / 2 * planes.uvStride + x / 2 * 2)
  rgbOf c (planes.y.getD (row * planes.yStride + x) 0) chroma.1 chroma.2

theorem isRgb_semiplanarAt {c : Coefficients} {planes : Yuv420Sp} :
    IsRgbImage (semiplanarAt c planes) :=
  fun _ _ => rfl

structure SemiplanarCover (planes : Yuv420Sp) (width height : Nat) : Prop where
  wide : 0 < width
  tall : 0 < height
  luma : YuvPlane.Covers ⟨planes.y, planes.yStride, 1⟩ width height
  chromaRow : divCeil2 width * 2 ≤ planes.uvStride
  chroma : (divCeil2 height - 1) * planes.uvStride + divCeil2 width * 2 ≤ planes.uv.length
  small : planes.uv.length < usizeLimit

namespace SemiplanarCover

variable {planes : Yuv420Sp} {width height row : Nat}

theorem lumaEnd (cover : SemiplanarCover planes width height) (bound : row < height) :
    row * planes.yStride + width ≤ planes.y.length :=
  cover.luma.contiguous rfl cover.wide bound

theorem chromaEnd (cover : SemiplanarCover planes width height)
    (bound : row < divCeil2 height) :
    row * planes.uvStride + divCeil2 width * 2 ≤ planes.uv.length := by
  have earlier : row * planes.uvStride ≤ (divCeil2 height - 1) * planes.uvStride :=
    Nat.mul_le_mul_right _ (by omega)
  have chroma := cover.chroma
  omega

end SemiplanarCover

section Semiplanar

variable {c : Coefficients} {planes : Yuv420Sp} {width height row : Nat} {old : List UInt8}

private theorem chromaPair_slice {vuOrder : Bool} {uv : List UInt8} {start size chroma : Nat}
    (inside : chroma + 1 < size) :
    chromaPair vuOrder (slice uv start (start + size)) chroma =
      chromaPair vuOrder uv (start + chroma) := by
  simp only [chromaPair, getD_slice (show chroma + 1 < start + size - start by omega),
    getD_slice (show chroma < start + size - start by omega), Nat.add_assoc]

theorem semiplanarPixel_row {yStart uvStart size chroma x : Nat}
    (at_luma : yStart = row * planes.yStride) (at_chroma : uvStart = row / 2 * planes.uvStride)
    (inside : x < size) (halved : x / 2 * 2 + 1 < chroma) :
    semiplanarPixel c planes.vuOrder (slice planes.y yStart (yStart + size))
      (slice planes.uv uvStart (uvStart + chroma)) x = semiplanarAt c planes row x := by
  subst at_luma at_chroma
  rw [semiplanarPixel, chromaPair_slice halved, getD_slice (by omega)]
  rfl

theorem semiplanar_line :
    blocks (semiplanarPixel c planes.vuOrder
      (slice planes.y (row * planes.yStride) (row * planes.yStride + width))
      (slice planes.uv (row / 2 * planes.uvStride)
        (row / 2 * planes.uvStride + divCeil2 width * 2))) width =
    blocks (semiplanarAt c planes row) width :=
  blocks_congr fun x inside => semiplanarPixel_row rfl rfl inside (by
    have := half_lt inside
    omega)

private theorem yuv420spPaired_fills (kernels : YuvKernels) (configured : c.Configured)
    (cover : SemiplanarCover planes width height) :
    Fills (yuv420spPaired kernels planes width height (divCeil2 width * 2) c)
      (imageOf (semiplanarAt c planes) width height) := by
  have small := configured.small
  refine Fills.paired isRgb_semiplanarAt.rows (fun row old bound parity fits => ?_)
    (fun old bound fits => ?_)
  · have here : row < height := by omega
    have upper := cover.lumaEnd here
    have lower := cover.lumaEnd bound
    have chroma := cover.chromaEnd (half_lt here)
    refine .bind (.view (by omega) upper) (.bind (.view (by omega) lower)
      (.bind (.view (by omega) chroma) ?_))
    refine Returns.blockPair isRgb_semiplanarAt.rows bound fits fun old0 old1 size0 size1 => ?_
    have written := writes_rows isRgb_semiplanar isRgb_semiplanar
      (kernels.semiplanarTwoRows_fills c planes.vuOrder _ _ _ width configured
        (length_slice_add upper) (length_slice_add lower) (length_slice_add chroma))
      (fun start old0 old1 ordered aligned size0 size1 =>
        semiplanarPairColumns_writes small (length_slice_add chroma)
          ⟨length_slice_add upper, length_slice_add lower⟩ ordered aligned size0 size1)
      size0 size1
    have next := @semiplanar_line c planes width (row + 1)
    rw [show (row + 1) / 2 = row / 2 by omega] at next
    rwa [semiplanar_line, next] at written
  · have inside : height / 2 * 2 < height := by omega
    have luma := cover.lumaEnd inside
    have chroma := cover.chromaEnd (half_lt inside)
    refine .bind (.view (by omega) luma) (.bind (.view (by omega) chroma) ?_)
    rw [Nat.succ_mul]
    refine Writes.block isRgb_semiplanarAt.rows inside fits ?_
    have written := writes_row isRgb_semiplanar
      (kernels.semiplanarRow_fills c planes.vuOrder _ _ width configured
        (length_slice_add luma) (length_slice_add chroma))
      (fun start old ordered aligned size =>
        semiplanarColumns_writes small (length_slice_add chroma) (length_slice_add luma) ordered
          aligned size)
    rwa [semiplanar_line] at written

theorem writeBt601Pixel_writes {y u v : UInt8} :
    Writes (writeBt601Pixel y ((u.toNat : Int) - 128) ((v.toNat : Int) - 128))
      (rgbOf bt601FullCoefficients y u v) := by
  intro old same
  match old, same with
  | [first, second, third], _ =>
      have written : Returns (writeBt601Pixel y ((u.toNat : Int) - 128) ((v.toNat : Int) - 128))
          [first, second, third] () _ :=
        .bind (.store (by simp)) (.bind (.store (by simp)) (.store (by simp)))
      have red (a b : Int) : a + (b + 512) = a + b + 512 := by omega
      have green (a b d : Int) : a + (-b - d) = a - b - d := by omega
      have centre (b : UInt8) : (b.toNat : Int) - 0 = b.toNat := Int.sub_zero _
      simp only [List.set_cons_zero, List.set_cons_succ, red, Int.neg_mul, green] at written
      simpa only [rgbOf, bt601FullCoefficients, centre] using written

private theorem yuv420spBt601FullToRgb_fills (cover : SemiplanarCover planes width height)
    (addressable : width * height * 3 < usizeLimit) (uvOrder : planes.vuOrder = false) :
    Fills (yuv420spBt601FullToRgb planes width height)
      (imageOf (semiplanarAt bt601FullCoefficients planes) width height) := by
  intro old fits
  have wide := cover.wide
  have tall := cover.tall
  have lumaRow := cover.luma.row
  have lumaEnd := cover.luma.extent
  have lumaSmall : planes.y.length < usizeLimit := cover.luma.small
  have chromaRow := cover.chromaRow
  have chroma := cover.chroma
  have chromaSmall := cover.small
  simp only [Nat.mul_one] at lumaRow lumaEnd
  have room : width * height * 3 ≤ old.length := by
    rw [isRgb_semiplanarAt.length, ← Nat.mul_assoc, Nat.mul_comm height width] at fits
    exact fits
  refine .bind (.failIf (by omega)) (.bind (.orFail (checkedMul_lt (by omega)))
    (.bind (.failIf (by omega)) (.bind (.orFail (checkedMulAdd_lt (by omega)))
    (.bind (.orFail (checkedMulAdd_lt (by omega)))
    (.bind (.orFail (checkedMulMul_lt (by omega) addressable)) (.bind .getState
    (.bind (.failIf (by omega)) ?_)))))))
  refine fills_image isRgb_semiplanarAt (fun row old bound fits => ?_) old fits
  have line := cover.lumaEnd bound
  have pairs := cover.chromaEnd (half_lt bound)
  refine .bind (.viewFrom (by omega)) (.bind (.viewFrom (by omega)) ?_)
  refine Returns.forStep2 (Nat.zero_le _) fun column _ inside parity => ?_
  have half := half_lt inside
  -- The pixel at `x` of the pair that starts at `column`.
  have pixel {x : Nat} (bounded : x < width) (shared : x / 2 = column / 2) :
      rgbOf bt601FullCoefficients ((planes.y.drop (row * planes.yStride)).getD x 0)
        ((planes.uv.drop (row / 2 * planes.uvStride)).getD (column / 2 * 2) 0)
        ((planes.uv.drop (row / 2 * planes.uvStride)).getD (column / 2 * 2 + 1) 0) =
      semiplanarAt bt601FullCoefficients planes row x := by
    rw [getD_drop, getD_drop, getD_drop, semiplanarAt, uvOrder, shared]
    rfl
  refine .bind (.read (d := 0) (by rw [List.length_drop]; omega))
    (.bind (.read (d := 0) (by rw [List.length_drop]; omega))
    (.bind (.read (d := 0) (by rw [List.length_drop]; omega)) (.bind
      (writes_image_pixel isRgb_semiplanarAt ?_ bound inside fits ?_) ?_)))
  · rw [Nat.add_mul]
  · rw [← pixel inside rfl]
    exact writeBt601Pixel_writes
  · split
    · rename_i second
      rw [Nat.min_eq_left (show column + 2 ≤ width by omega)]
      refine .bind (.read (d := 0) (by rw [List.length_drop]; omega))
        (writes_image_pixel isRgb_semiplanarAt ?_ bound second fits ?_)
      · omega
      · rw [← pixel second (by omega)]
        exact writeBt601Pixel_writes
    · rw [show min (column + 2) width = column + 1 by omega]
      exact .pure

theorem yuv420spToRgb_fills (cpu : Cpu) (configured : c.Configured)
    (cover : SemiplanarCover planes width height)
    (addressable : width * height * 3 < usizeLimit) :
    Fills (yuv420spToRgb cpu planes width height c)
      (imageOf (semiplanarAt c planes) width height) := by
  unfold yuv420spToRgb
  split
  · rename_i special
    obtain ⟨rfl, uvOrder, _⟩ := special
    exact yuv420spBt601FullToRgb_fills cover addressable uvOrder
  · intro old fits
    have chromaRow := cover.chromaRow
    have chroma := cover.chroma
    have chromaSmall := cover.small
    have room : width * height * 3 ≤ old.length := by
      rw [isRgb_semiplanarAt.length, ← Nat.mul_assoc, Nat.mul_comm height width] at fits
      exact fits
    refine .bind (.ofExcept (cover.luma.validate cover.wide cover.tall))
      (.bind (.orFail (checkedMul_lt (by omega))) (.bind (.orFail (checkedMulAdd_lt (by omega)))
      (.bind (.orFail (checkedMulMul_lt (by omega) addressable)) (.bind .getState
      (.bind (.failIf (by omega)) ?_)))))
    cases cpu.yuv with
    | some kernels => exact yuv420spPaired_fills kernels configured cover old fits
    | none =>
        refine fills_image isRgb_semiplanarAt (fun row old bound fits => ?_) old fits
        have luma := cover.lumaEnd bound
        have pairs := cover.chromaEnd (half_lt bound)
        refine .bind (.view (by omega) luma) (.bind (.view (by omega) pairs) ?_)
        refine writes_image_row isRgb_semiplanarAt (Nat.mul_assoc _ _ _) bound fits ?_
        rw [← semiplanar_line]
        intro old same
        rw [isRgb_semiplanar.row] at same
        have written : Returns (semiplanarColumns c planes.vuOrder _ _ 0 width) _ _ _ :=
          semiplanarColumns_writes configured.small (length_slice_add pairs)
            (length_slice_add luma) (Nat.zero_le width) (Or.inl rfl) same
        rwa [rowUpTo_zero, rowUpTo_width isRgb_semiplanar same] at written

theorem yuv420spToRgbHalf_fills (cpu : Cpu) (configured : c.Configured)
    (cover : SemiplanarCover planes width height) (even : width % 2 = 0 ∧ height % 2 = 0)
    (addressable : width / 2 * (height / 2) * 3 < usizeLimit) :
    Fills (yuv420spToRgbHalf cpu planes width height c)
      (imageOf (halfOf (semiplanarAt c planes)) (width / 2) (height / 2)) := by
  intro old fits
  have wide := cover.wide
  have tall := cover.tall
  have chromaRow := cover.chromaRow
  have chroma := cover.chroma
  have chromaSmall := cover.small
  have rows := divCeil2_even even.2
  have cols : divCeil2 width * 2 = width := by rw [divCeil2_even even.1]; omega
  rw [rows, cols] at chroma
  have room : width / 2 * (height / 2) * 3 ≤ old.length := by
    rw [isRgb_semiplanarAt.half.length, ← Nat.mul_assoc, Nat.mul_comm (height / 2)] at fits
    exact fits
  refine .bind (.failIf (by omega)) (.bind (.ofExcept (cover.luma.validate wide tall))
    (.bind (.orFail (checkedMulAdd_lt (by omega)))
    (.bind (.orFail (checkedMulMul_lt (by omega) addressable)) (.bind .getState
    (.bind (.failIf (by omega)) ?_)))))
  refine fills_image isRgb_semiplanarAt.half (fun row old bound fits => ?_) old fits
  have luma := cover.lumaEnd (show row * 2 < height by omega)
  have pairs := cover.chromaEnd (show row < divCeil2 height by omega)
  rw [cols] at pairs
  refine .bind (.view (by omega) luma) (.bind (.view (by omega) pairs) ?_)
  refine writes_image_row isRgb_semiplanarAt.half (Nat.mul_assoc _ _ _) bound fits ?_
  have line : blocks (fun x => semiplanarPixel c planes.vuOrder
        (slice planes.y (row * 2 * planes.yStride) (row * 2 * planes.yStride + width))
        (slice planes.uv (row * planes.uvStride) (row * planes.uvStride + width)) (x * 2))
        (width / 2) =
      blocks (halfOf (semiplanarAt c planes) row) (width / 2) :=
    blocks_congr fun x inside => semiplanarPixel_row rfl
      (by rw [Nat.mul_div_cancel _ (by omega)]) (by omega) (by omega)
  rw [← line]
  have lumaSize := length_slice_add luma
  have chromaSize := length_slice_add pairs
  refine writes_row (fun x => isRgb_semiplanar (x * 2))
    (start_fills cpu fun kernels => kernels.semiplanarHalfRow_fills c planes.vuOrder _ _
      (width / 2) configured (by omega) (by omega))
    fun start old ordered _ size => ?_
  refine Returns.forRange ordered fun x low high => ?_
  refine .bind (readChroma_returns (by omega)) (.bind (.read (d := 0) (by omega)) ?_)
  refine writes_pixel (fun x => isRgb_semiplanar (x * 2)) size high ?_
  rw [semiplanarPixel, Nat.mul_div_cancel _ (by omega)]
  exact yuvPixel_writes configured.small

end Semiplanar

/-! ### Packed formats -/

/-- The reference pixel of a packed 4:2:2 plane. -/
def packed422At (c : Coefficients) (uyvy : Bool) (source : List UInt8) (stride row x : Nat) :
    List UInt8 :=
  packed422Pixel c uyvy (source.drop (row * stride)) x

/-- The reference pixel of a packed 8888 plane. -/
def packed8888At (r g b : Nat) (source : List UInt8) (stride row x : Nat) : List UInt8 :=
  packed8888Pixel r g b (source.drop (row * stride)) x

theorem isRgb_packed422At {c : Coefficients} {uyvy : Bool} {source : List UInt8}
    {stride : Nat} : IsRgbImage (packed422At c uyvy source stride) :=
  fun _ => isRgb_packed422

theorem isRgb_packed8888At {r g b : Nat} {source : List UInt8} {stride : Nat} :
    IsRgbImage (packed8888At r g b source stride) :=
  fun _ _ => rfl

theorem destination_fits {width height : Nat} (tall : 0 < height)
    (addressable : width * height * 3 < usizeLimit) :
    height * (width * 3) < usizeLimit ∧ width * 3 < usizeLimit := by
  have whole : width * 3 ≤ height * (width * 3) := Nat.le_mul_of_pos_left _ tall
  rw [← Nat.mul_assoc, Nat.mul_comm height width] at whole ⊢
  omega

structure PackedCover (bytes : Nat) (source : List UInt8) (width height stride : Nat) :
    Prop where
  wide : 0 < width
  tall : 0 < height
  row : width * bytes ≤ stride
  extent : (height - 1) * stride + width * bytes ≤ source.length
  small : source.length < usizeLimit

namespace PackedCover

variable {bytes width height stride row : Nat} {source : List UInt8}

theorem rowEnd (cover : PackedCover bytes source width height stride) (bound : row < height) :
    row * stride + width * bytes ≤ source.length := by
  have earlier : row * stride ≤ (height - 1) * stride := Nat.mul_le_mul_right _ (by omega)
  have extent := cover.extent
  omega

end PackedCover

section Packed

variable {c : Coefficients} {uyvy : Bool} {source : List UInt8}
  {r g b width height stride row : Nat} {old : List UInt8}

theorem packed422Pixel_row {start size x : Nat} (at_row : start = row * stride)
    (inside : x * 2 + 1 < size) (even : x / 2 * 4 + 3 < size) :
    packed422Pixel c uyvy (slice source start (start + size)) x =
      packed422At c uyvy source stride row x := by
  subst at_row
  simp only [packed422Pixel, packed422At, getD_drop,
    getD_slice (show x * 2 + 1 < row * stride + size - row * stride by omega),
    getD_slice (show x * 2 < row * stride + size - row * stride by omega),
    getD_slice (show x / 2 * 4 < row * stride + size - row * stride by omega),
    getD_slice (show x / 2 * 4 + 1 < row * stride + size - row * stride by omega),
    getD_slice (show x / 2 * 4 + 2 < row * stride + size - row * stride by omega),
    getD_slice (show x / 2 * 4 + 3 < row * stride + size - row * stride by omega)]

private theorem packed8888Pixel_row {start size x : Nat} (at_row : start = row * stride)
    (channels : r < 4 ∧ g < 4 ∧ b < 4) (inside : x * 4 + 3 < size) :
    packed8888Pixel r g b (slice source start (start + size)) x =
      packed8888At r g b source stride row x := by
  subst at_row
  simp only [packed8888Pixel, packed8888At, getD_drop,
    getD_slice (show x * 4 + r < row * stride + size - row * stride by omega),
    getD_slice (show x * 4 + g < row * stride + size - row * stride by omega),
    getD_slice (show x * 4 + b < row * stride + size - row * stride by omega)]

theorem packed422Pixel_reads {x pair : Nat} (at_pair : x / 2 * 4 = pair) :
    packed422Pixel c uyvy source x =
      rgbOf c (source.getD (if uyvy then x * 2 + 1 else x * 2) 0)
        (source.getD (if uyvy then pair else pair + 1) 0)
        (source.getD (if uyvy then pair + 2 else pair + 3) 0) := by
  subst at_pair
  cases uyvy <;> rfl

theorem yuv422ToRgb_fills (cpu : Cpu) (configured : c.Configured)
    (cover : PackedCover 2 source width height stride) (even : width % 2 = 0)
    (addressable : width * height * 3 < usizeLimit) :
    Fills (yuv422ToRgb cpu source width height stride uyvy c)
      (imageOf (packed422At c uyvy source stride) width height) := by
  intro old fits
  have wide := cover.wide
  have tall := cover.tall
  have sourceRow := cover.row
  have extent := cover.extent
  have small := cover.small
  obtain ⟨destination, rgbRow⟩ := destination_fits tall addressable
  have total : (imageOf (packed422At c uyvy source stride) width height).length =
      height * (width * 3) := isRgb_packed422At.length
  refine .bind (.orFail (checkedMul_lt (by omega))) (.bind (.orFail (checkedMul_lt rgbRow))
    (.bind (.failIf (by omega)) (.bind (.orFail (checkedMulAdd_lt (by omega)))
    (.bind (.orFail (checkedMul_lt destination)) (.bind .getState
    (.bind (.failIf (by omega)) ?_))))))
  refine fills_image isRgb_packed422At (fun row old bound fits => ?_) old fits
  have line := cover.rowEnd bound
  refine .bind (.view (by omega) line) ?_
  refine writes_image_row isRgb_packed422At rfl bound fits ?_
  have reference : blocks (packed422Pixel c uyvy
        (slice source (row * stride) (row * stride + width * 2))) width =
      blocks (packed422At c uyvy source stride row) width :=
    blocks_congr fun x inside => packed422Pixel_row rfl (by omega) (by omega)
  rw [← reference]
  have size := length_slice_add line
  refine writes_row isRgb_packed422
    (start_fills cpu fun kernels =>
      kernels.packed422Row_fills c uyvy _ width configured even size)
    fun start old ordered aligned rowSize => ?_
  refine Returns.forStep2 ordered fun column later inside parity => ?_
  have pair : column / 2 * 4 = column * 2 := by omega
  have next : (column + 1) / 2 * 4 = column * 2 := by omega
  refine .bind (.read (d := 0) (by split <;> omega)) (.bind (.read (d := 0) (by split <;> omega))
    (.bind (.read (d := 0) (by split <;> omega)) (.bind (.read (d := 0) (by split <;> omega)) ?_)))
  rw [Nat.min_eq_left (show column + 2 ≤ width by omega)]
  refine .bind (writes_pixel isRgb_packed422 rowSize inside ?_) ?_
  · rw [packed422Pixel_reads pair]
    exact yuvPixel_writes configured.small
  · have luma : (if uyvy then (column + 1) * 2 + 1 else (column + 1) * 2) =
        if uyvy then column * 2 + 3 else column * 2 + 2 := by
      split <;> omega
    have place : column * 3 + 3 = (column + 1) * 3 := by omega
    rw [show column * 3 + 6 = column * 3 + 3 + 3 by omega, place]
    refine writes_pixel isRgb_packed422 rowSize (show column + 1 < width by omega) ?_
    rw [packed422Pixel_reads next, luma]
    exact yuvPixel_writes configured.small

theorem yuv422ToRgbHalf_fills (cpu : Cpu) (configured : c.Configured)
    (cover : PackedCover 2 source width height stride)
    (even : width % 2 = 0 ∧ height % 2 = 0)
    (addressable : width / 2 * (height / 2) * 3 < usizeLimit) :
    Fills (yuv422ToRgbHalf cpu source width height stride uyvy c)
      (imageOf (halfOf (packed422At c uyvy source stride)) (width / 2) (height / 2)) := by
  intro old fits
  have wide := cover.wide
  have tall := cover.tall
  have sourceRow := cover.row
  have extent := cover.extent
  have small := cover.small
  obtain ⟨destination, rgbRow⟩ := destination_fits (show 0 < height / 2 by omega) addressable
  have total : (imageOf (halfOf (packed422At c uyvy source stride)) (width / 2)
      (height / 2)).length = height / 2 * (width / 2 * 3) := isRgb_packed422At.half.length
  refine .bind (.orFail (checkedMul_lt (by omega)))
    (.bind (.orFail (checkedMul_lt rgbRow))
    (.bind (.failIf (by omega)) (.bind (.orFail (checkedMulAdd_lt (by omega)))
    (.bind (.orFail (checkedMul_lt (by omega))) (.bind .getState
    (.bind (.failIf (by omega)) ?_))))))
  refine fills_image isRgb_packed422At.half (fun row old bound fits => ?_) old fits
  have line := cover.rowEnd (show row * 2 < height by omega)
  refine .bind (.view (by omega) line) ?_
  refine writes_image_row isRgb_packed422At.half rfl bound fits ?_
  have reference : blocks (fun x => packed422Pixel c uyvy
        (slice source (row * 2 * stride) (row * 2 * stride + width * 2)) (x * 2)) (width / 2) =
      blocks (halfOf (packed422At c uyvy source stride) row) (width / 2) :=
    blocks_congr fun x inside => packed422Pixel_row rfl (by omega) (by omega)
  rw [← reference]
  have size := length_slice_add line
  refine writes_row (fun x => isRgb_packed422 (x * 2))
    (start_fills cpu fun kernels => kernels.packed422HalfRow_fills c uyvy _ (width / 2) configured
      (by omega))
    fun start old ordered _ rowSize => ?_
  refine Returns.forRange ordered fun x low high => ?_
  refine .bind (.read (d := 0) (by split <;> omega)) (.bind (.read (d := 0) (by split <;> omega))
    (.bind (.read (d := 0) (by split <;> omega)) ?_))
  refine writes_pixel (fun x => isRgb_packed422 (x * 2)) rowSize high ?_
  have luma : (if uyvy then x * 2 * 2 + 1 else x * 2 * 2) =
      if uyvy then x * 4 + 1 else x * 4 := by
    split <;> omega
  rw [packed422Pixel_reads (show x * 2 / 2 * 4 = x * 4 by omega), luma]
  exact yuvPixel_writes configured.small

theorem packed8888ToRgb_fills (cpu : Cpu) (channels : r < 4 ∧ g < 4 ∧ b < 4)
    (cover : PackedCover 4 source width height stride)
    (addressable : width * height * 3 < usizeLimit) :
    Fills (packed8888ToRgb cpu r g b source width height stride)
      (imageOf (packed8888At r g b source stride) width height) := by
  intro old fits
  have wide := cover.wide
  have tall := cover.tall
  have sourceRow := cover.row
  have extent := cover.extent
  have small := cover.small
  obtain ⟨destination, rgbRow⟩ := destination_fits tall addressable
  have total : (imageOf (packed8888At r g b source stride) width height).length =
      height * (width * 3) := isRgb_packed8888At.length
  refine .bind (.orFail (checkedMul_lt (by omega)))
    (.bind (.orFail (checkedMul_lt rgbRow))
    (.bind (.failIf (by omega)) (.bind (.orFail (checkedMulAdd_lt (by omega)))
    (.bind (.orFail (checkedMul_lt destination)) (.bind .getState
    (.bind (.failIf (by omega)) ?_))))))
  refine fills_image isRgb_packed8888At (fun row old bound fits => ?_) old fits
  have line := cover.rowEnd bound
  rw [Nat.succ_mul]
  refine .bind (.view (by omega) line) ?_
  refine writes_image_row isRgb_packed8888At rfl bound fits ?_
  have reference : blocks (packed8888Pixel r g b
        (slice source (row * stride) (row * stride + width * 4))) width =
      blocks (packed8888At r g b source stride row) width :=
    blocks_congr fun x inside => packed8888Pixel_row rfl channels (by omega)
  rw [← reference]
  have size := length_slice_add line
  refine writes_row isRgb_packed8888
    (cpu.packed8888.row_fills r g b _ width channels.1 channels.2.1 channels.2.2 size)
    fun start old ordered _ rowSize => ?_
  refine Returns.forRange ordered fun x low high => ?_
  have pixel : x * 4 + 4 ≤ width * 4 := by omega
  refine .bind (.view (by omega) (by omega)) ?_
  refine writes_pixel isRgb_packed8888 rowSize high fun old same => ?_
  have four : (slice (slice source (row * stride) (row * stride + width * 4)) (x * 4)
      (x * 4 + 4)).length = 4 := length_slice_add (by omega)
  refine .bind (.read (d := 0) (by omega)) (.bind (.read (d := 0) (by omega))
    (.bind (.read (d := 0) (by omega)) ?_))
  rw [getD_slice (show r < x * 4 + 4 - x * 4 by omega),
    getD_slice (show g < x * 4 + 4 - x * 4 by omega),
    getD_slice (show b < x * 4 + 4 - x * 4 by omega)]
  exact .copyFromSlice same.symm

end Packed

end CameraRs

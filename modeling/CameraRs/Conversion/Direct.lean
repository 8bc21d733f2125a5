/-
The paths that need no maps: the exact half of a top-down image and an image of
the size of its source. Both write the requested image.
-/

import CameraRs.Conversion.YuvScaling

namespace CameraRs

open Lib Fill

/-! ### Images of whole planes -/

section Direct

variable {layout : FrameLayout} {data : List UInt8} {request : ConversionRequest}
  {c : Coefficients} {pixel : Nat → Nat → List UInt8}

theorem exactHalf_facts (half : (directHalfPath layout request).isSome = true) :
    layout.bottomUp = false ∧ layout.width.toNat % 2 = 0 ∧ layout.height.toNat % 2 = 0 ∧
      request.width.toNat = layout.width.toNat / 2 ∧
      request.height.toNat = layout.height.toNat / 2 := by
  unfold directHalfPath at half
  split at half
  · cases half
  · rename_i exact
    simp only [isExactHalf, Bool.not_eq_true, Bool.not_eq_false', Bool.and_eq_true,
      beq_iff_eq, Prod.mk.injEq] at exact
    obtain ⟨⟨⟨topDown, evenW⟩, evenH⟩, sizeW, sizeH⟩ := exact
    exact ⟨Bool.not_eq_true' _ |>.mp topDown, evenW, evenH, sizeW, sizeH⟩

theorem requested_half (wide : 0 < layout.width.toNat) (tall : 0 < layout.height.toNat)
    (half : (directHalfPath layout request).isSome = true)
    (same : ∀ row x, row < layout.height.toNat → x < layout.width.toNat →
      pixel row x = referencePixel layout data c x row) :
    imageOf (halfOf pixel) (layout.width.toNat / 2) (layout.height.toNat / 2) =
      requestedImage layout data c request.width.toNat request.height.toNat := by
  obtain ⟨topDown, evenW, evenH, sizeW, sizeH⟩ := exactHalf_facts half
  rw [requestedImage, sizeW, sizeH, topDown]
  refine imageOf_congr fun row x bound inside => ?_
  rw [halfOf, same _ _ (by omega) (by omega), sourceColumn_half evenW wide, sourceRow,
    if_neg (by simp)]
  exact congrArg _ (sourceColumn_half evenH tall).symm

theorem requested_same (wide : 0 < layout.width.toNat) (tall : 0 < layout.height.toNat)
    (size : (request.width, request.height) = (layout.width, layout.height))
    (topDown : layout.bottomUp = false)
    (same : ∀ row x, row < layout.height.toNat → x < layout.width.toNat →
      pixel row x = referencePixel layout data c x row) :
    imageOf pixel layout.width.toNat layout.height.toNat =
      requestedImage layout data c request.width.toNat request.height.toNat := by
  obtain ⟨sizeW, sizeH⟩ := Prod.mk.injEq .. |>.mp size
  rw [requestedImage, sizeW, sizeH, topDown]
  refine imageOf_congr fun row x bound inside => ?_
  rw [same row x bound inside, sourceColumn_same wide, sourceRow, if_neg (by simp)]
  exact congrArg _ (sourceColumn_same tall).symm

theorem planar_cover {y u v : PlaneLayout} {specU specV : PlaneSpec} (shiftU shiftV : Nat)
    (accepted : layout.validate data.length = .ok ()) (small : data.length < usizeLimit)
    (luma : FrameLayout.Holds data.length y ⟨layout.width.toNat, layout.height.toNat, 1⟩)
    (chromaU : FrameLayout.Holds data.length u specU)
    (chromaV : FrameLayout.Holds data.length v specV)
    (sizeU : specU.cols = divCeil2 layout.width.toNat ∧ specU.rows = divCeil2 layout.height.toNat)
    (sizeV : specV.cols = divCeil2 layout.width.toNat ∧ specV.rows = divCeil2 layout.height.toNat)
    (channels : shiftU < specU.channels ∧ shiftV < specV.channels) :
    PlanarCover (planeView data y 0) (planeView data u shiftU) (planeView data v shiftV)
      layout.width.toNat layout.height.toNat := by
  obtain ⟨wide, tall, -⟩ := FrameLayout.validate_ok accepted
  have coverU := planeView_covers chromaU channels.1 small
  have coverV := planeView_covers chromaV channels.2 small
  rw [sizeU.1, sizeU.2] at coverU
  rw [sizeV.1, sizeV.2] at coverV
  exact
    { wide := wide
      tall := tall
      luma := planeView_covers luma Nat.one_pos small
      u := coverU
      v := coverV }

theorem semiplanar_cover {y uv : PlaneLayout} (vuOrder : Bool)
    (accepted : layout.validate data.length = .ok ()) (small : data.length < usizeLimit)
    (luma : FrameLayout.Holds data.length y ⟨layout.width.toNat, layout.height.toNat, 1⟩)
    (chroma : FrameLayout.Holds data.length uv
      ⟨divCeil2 layout.width.toNat, divCeil2 layout.height.toNat, 2⟩)
    (adjacent : y.pixelStride = 1) (pairs : uv.pixelStride = 2) :
    SemiplanarCover ⟨(planeView data y 0).data, (planeView data uv 0).data, y.rowStride,
      uv.rowStride, vuOrder⟩ layout.width.toNat layout.height.toNat := by
  obtain ⟨wide, tall, -⟩ := FrameLayout.validate_ok accepted
  have chromaWide := divCeil2_pos wide
  have lumaCover := planeView_covers luma Nat.one_pos small
  have size := @length_planeView data uv 0 chroma.inside
  have inside := chroma.inside
  have row : (divCeil2 layout.width.toNat - 1) * uv.pixelStride + 2 ≤ uv.rowStride := chroma.row
  have extent : (divCeil2 layout.height.toNat - 1) * uv.rowStride +
      ((divCeil2 layout.width.toNat - 1) * uv.pixelStride + 2) ≤ uv.length := chroma.extent
  rw [pairs] at row extent
  rw [planeView, adjacent] at lumaCover
  exact
    { wide := wide
      tall := tall
      luma := lumaCover
      chromaRow := by
        change divCeil2 layout.width.toNat * 2 ≤ uv.rowStride
        omega
      chroma := by
        change (divCeil2 layout.height.toNat - 1) * uv.rowStride + _ ≤
          (planeView data uv 0).data.length
        omega
      small := by
        change (planeView data uv 0).data.length < usizeLimit
        omega }

theorem packed_cover {p : PlaneLayout} {bytes : Nat}
    (accepted : layout.validate data.length = .ok ()) (small : data.length < usizeLimit)
    (holds : FrameLayout.Holds data.length p ⟨layout.width.toNat, layout.height.toNat, bytes⟩)
    (adjacent : p.pixelStride = bytes) :
    PackedCover bytes (planeView data p 0).data layout.width.toNat layout.height.toNat
      p.rowStride := by
  obtain ⟨wide, tall, -⟩ := FrameLayout.validate_ok accepted
  have size := @length_planeView data p 0 holds.inside
  have inside := holds.inside
  have row : (layout.width.toNat - 1) * p.pixelStride + bytes ≤ p.rowStride := holds.row
  have extent : (layout.height.toNat - 1) * p.rowStride +
      ((layout.width.toNat - 1) * p.pixelStride + bytes) ≤ p.length := holds.extent
  have whole : (layout.width.toNat - 1) * bytes + bytes = layout.width.toNat * bytes := by
    rw [← Nat.succ_mul]
    congr 1
    omega
  rw [adjacent] at row extent
  exact
    { wide := wide
      tall := tall
      row := by omega
      extent := by omega
      small := by omega }

theorem viewSemiplanar_returns {σ : Type} {s : σ} {y uv : PlaneLayout}
    (planes : layout.planes = [y, uv]) (luma : y.offset + y.length ≤ data.length)
    (chroma : uv.offset + uv.length ≤ data.length) :
    Returns (viewSemiplanar layout data : Fill σ CameraError Yuv420Sp) s
      ⟨(planeView data y 0).data, (planeView data uv 0).data, y.rowStride, uv.rowStride,
        layout.format == .nv21⟩ s :=
  .bind (viewPlane_returns (by rw [planes]; rfl) luma (Nat.zero_le _))
    (.bind (viewPlane_returns (by rw [planes]; rfl) chroma (Nat.zero_le _)) .pure)

theorem semiplanar_whole {y uv : PlaneLayout} {row x : Nat}
    (format : layout.format = .nv12 ∨ layout.format = .nv21) (planes : layout.planes = [y, uv])
    (adjacent : y.pixelStride = 1) (pairs : uv.pixelStride = 2)
    (cover : SemiplanarCover ⟨(planeView data y 0).data, (planeView data uv 0).data, y.rowStride,
      uv.rowStride, layout.format == .nv21⟩ layout.width.toNat layout.height.toNat)
    (bound : row < layout.height.toNat) (inside : x < layout.width.toNat) :
    semiplanarAt c ⟨(planeView data y 0).data, (planeView data uv 0).data, y.rowStride,
      uv.rowStride, layout.format == .nv21⟩ row x = referencePixel layout data c x row := by
  have luma := @planeView_window data y 0
  rw [planeView, adjacent] at luma
  have chroma : (planeView data uv 0).data =
      slice data (uv.offset + 0 / 2 * uv.rowStride) (uv.offset + uv.length) := by
    rw [Nat.zero_div, Nat.zero_mul]
    rfl
  have same := semiplanarAt_windows (c := c) luma chroma rfl pairs cover bound inside (by omega)
  rw [Nat.zero_add] at same
  exact same.trans (reference_semiplanar planes format).symm

theorem packed422_whole {p : PlaneLayout} {row x : Nat}
    (format : layout.format = .yuyv ∨ layout.format = .uyvy) (planes : layout.planes = [p])
    (stride : p.pixelStride = 2) (even : layout.width.toNat % 2 = 0)
    (cover : PackedCover 2 (planeView data p 0).data layout.width.toNat layout.height.toNat
      p.rowStride)
    (bound : row < layout.height.toNat) (inside : x < layout.width.toNat) :
    packed422At c (layout.format == .uyvy) (planeView data p 0).data p.rowStride row x =
      referencePixel layout data c x row := by
  have bytes : (planeView data p 0).data =
      slice data (p.offset + 0 * p.rowStride) (p.offset + p.length) := by
    rw [Nat.zero_mul]
    rfl
  have same : packed422At c (layout.format == .uyvy) (planeView data p 0).data p.rowStride row x =
      _ := packed422At_windows bytes stride cover even bound inside
  rw [Nat.zero_add] at same
  exact same.trans (reference_packed422 planes format).symm

theorem planar_whole {y u v : PlaneLayout} {row x : Nat} (format : layout.format = .yuv420p)
    (planes : layout.planes = [y, u, v])
    (cover : PlanarCover (planeView data y 0) (planeView data u 0) (planeView data v 0)
      layout.width.toNat layout.height.toNat)
    (bound : row < layout.height.toNat) (inside : x < layout.width.toNat) :
    planarAt c (planeView data y 0) (planeView data u 0) (planeView data v 0) row x =
      referencePixel layout data c x row := by
  have same := planarAt_windows (c := c) planeView_window planeView_window planeView_window cover
    bound inside (by omega)
  rw [Nat.zero_add] at same
  exact same.trans (reference_planar planes format).symm

theorem convertHalf_writes (cpu : Cpu) (accepted : layout.validate data.length = .ok ())
    (small : data.length < usizeLimit) (configured : c.Configured)
    (half : (directHalfPath layout request).isSome = true)
    (addressable : request.width.toNat * request.height.toNat * 3 < usizeLimit) :
    Writes (convertHalf cpu layout data c)
      (requestedImage layout data c request.width.toNat request.height.toNat) := by
  obtain ⟨wide, tall, -⟩ := FrameLayout.validate_ok accepted
  obtain ⟨topDown, evenW, evenH, sizeW, sizeH⟩ := exactHalf_facts half
  have fits : layout.width.toNat / 2 * (layout.height.toNat / 2) * 3 < usizeLimit := by
    rwa [← sizeW, ← sizeH]
  intro old same
  unfold convertHalf
  have chosen := half
  unfold directHalfPath at chosen
  split at chosen
  · cases chosen
  cases format : layout.format with
  | rgb8 | bgr8 | bgra8 | rgba8 | argb8 | gray8 | mjpeg | h264 =>
      rw [format] at chosen
      cases chosen
  | yuyv | uyvy =>
      have packed : layout.format = .yuyv ∨ layout.format = .uyvy := by
        rw [format]
        decide
      obtain ⟨even, p, planes, stride, holds⟩ := packed422_plane accepted packed
      have cover := packed_cover accepted small holds stride
      have filled : Writes (yuv422ToRgbHalf cpu _ _ _ _ (layout.format == .uyvy) c) _ :=
        (yuv422ToRgbHalf_fills cpu configured cover ⟨evenW, evenH⟩ fits).writes
      rw [requested_half wide tall half fun row x bound inside =>
        packed422_whole packed planes stride even cover bound inside] at filled
      rw [format] at filled
      exact .bind (viewPlane_returns (by rw [planes]; rfl) holds.inside (Nat.zero_le _))
        (filled old same)
  | nv12 | nv21 =>
      have semiplanar : layout.format = .nv12 ∨ layout.format = .nv21 := by
        rw [format]
        decide
      obtain ⟨y, uv, planes, luma, chroma⟩ := semiplanar_planes accepted semiplanar
      simp only [format, planes] at chosen
      split at chosen
      · rename_i strides
        have cover := semiplanar_cover (layout.format == .nv21) accepted small luma
          chroma strides.1 strides.2
        have filled := (yuv420spToRgbHalf_fills cpu configured cover ⟨evenW, evenH⟩ fits).writes
        rw [requested_half wide tall half fun row x bound inside =>
          semiplanar_whole semiplanar planes strides.1 strides.2 cover bound inside] at filled
        exact .bind (viewSemiplanar_returns planes luma.inside chroma.inside) (filled old same)
      · cases chosen
  | yuv420p =>
      obtain ⟨y, u, v, planes, luma, chromaU, chromaV⟩ := planar_planes accepted format
      simp only [format, planes] at chosen
      split at chosen
      · rename_i strides
        have cover := planar_cover 0 0 accepted small luma chromaU chromaV ⟨rfl, rfl⟩ ⟨rfl, rfl⟩
          ⟨Nat.one_pos, Nat.one_pos⟩
        have filled := (yuv420ToRgbHalf_fills cpu configured cover ⟨evenW, evenH⟩ fits
          strides).writes
        rw [requested_half wide tall half fun row x bound inside =>
          planar_whole format planes cover bound inside] at filled
        exact .bind (viewPlane_returns (by rw [planes]; rfl) luma.inside (Nat.zero_le _))
          (.bind (viewPlane_returns (by rw [planes]; rfl) chromaU.inside (Nat.zero_le _))
          (.bind (viewPlane_returns (by rw [planes]; rfl) chromaV.inside (Nat.zero_le _))
          (filled old same)))
      · cases chosen

/-! ### Images of the size of their source -/

private theorem packed8888_whole {p : PlaneLayout} {r g b row x : Nat}
    (channels : r < 4 ∧ g < 4 ∧ b < 4) (stride : p.pixelStride = 4)
    (cover : PackedCover 4 (planeView data p 0).data layout.width.toNat layout.height.toNat
      p.rowStride)
    (bound : row < layout.height.toNat) (inside : x < layout.width.toNat) :
    packed8888At r g b (planeView data p 0).data p.rowStride row x =
      [sourceByte data p row x r, sourceByte data p row x g, sourceByte data p row x b] := by
  have line := cover.rowEnd bound
  have byte (k : Nat) (channel : k < 4) :
      (planeView data p 0).data.getD (row * p.rowStride + (x * 4 + k)) 0 =
        sourceByte data p row x k := by
    have bytes : (planeView data p 0).data = slice data (p.offset + 0) (p.offset + p.length) := rfl
    rw [getD_window bytes (by omega), sourceByte, stride]
    congr 1
    omega
  simp only [packed8888At, packed8888Pixel, getD_drop, byte r channels.1, byte g channels.2.1,
    byte b channels.2.2]

theorem packed8888_writes (cpu : Cpu) {p : PlaneLayout} {r g b : Nat}
    (channels : r < 4 ∧ g < 4 ∧ b < 4) (accepted : layout.validate data.length = .ok ())
    (small : data.length < usizeLimit)
    (holds : FrameLayout.Holds data.length p ⟨layout.width.toNat, layout.height.toNat, 4⟩)
    (stride : p.pixelStride = 4) (topDown : layout.bottomUp = false)
    (size : (request.width, request.height) = (layout.width, layout.height))
    (addressable : layout.width.toNat * layout.height.toNat * 3 < usizeLimit)
    (reference : ∀ row x, referencePixel layout data c x row =
      [sourceByte data p row x r, sourceByte data p row x g, sourceByte data p row x b]) :
    Writes (packed8888ToRgb cpu r g b (planeView data p 0).data layout.width.toNat
        layout.height.toNat p.rowStride)
      (requestedImage layout data c request.width.toNat request.height.toNat) := by
  obtain ⟨wide, tall, -⟩ := FrameLayout.validate_ok accepted
  have cover := packed_cover accepted small holds stride
  rw [← requested_same wide tall size topDown fun row x bound inside =>
    (packed8888_whole channels stride cover bound inside).trans (reference row x).symm]
  exact (packed8888ToRgb_fills cpu channels cover addressable).writes

theorem copyRows_writes {p : PlaneLayout} (accepted : layout.validate data.length = .ok ())
    (format : layout.format = .rgb8) (planes : layout.planes = [p])
    (holds : FrameLayout.Holds data.length p ⟨layout.width.toNat, layout.height.toNat, 3⟩)
    (tight : p.pixelStride = 3) (topDown : layout.bottomUp = false)
    (size : (request.width, request.height) = (layout.width, layout.height)) :
    Writes (forRange 0 layout.height.toNat fun y =>
        within (y * layout.width.toNat * 3) ((y + 1) * layout.width.toNat * 3) do
          let row ← view (planeView data p 0).data (y * p.rowStride)
            (y * p.rowStride + layout.width.toNat * 3)
          copyFromSlice row : RgbFill Unit)
      (requestedImage layout data c request.width.toNat request.height.toNat) := by
  obtain ⟨wide, tall, -⟩ := FrameLayout.validate_ok accepted
  have inside := holds.inside
  have row : (layout.width.toNat - 1) * p.pixelStride + 3 ≤ p.rowStride := holds.row
  have extent : (layout.height.toNat - 1) * p.rowStride +
      ((layout.width.toNat - 1) * p.pixelStride + 3) ≤ p.length := holds.extent
  have bytes := @length_planeView data p 0 inside
  rw [tight] at row extent
  have rgb : IsRgbImage fun row x => referencePixel layout data c x row :=
    fun row x => isRgb_reference
  rw [← requested_same wide tall size topDown fun row x _ _ => rfl]
  refine (fills_image rgb fun y old bound fits => ?_).writes
  have earlier : y * p.rowStride ≤ (layout.height.toNat - 1) * p.rowStride :=
    Nat.mul_le_mul_right _ (by omega)
  rw [Nat.succ_mul, Nat.add_mul]
  refine writes_image_row rgb (Nat.mul_assoc _ _ _) bound fits fun part same => ?_
  have line : slice (planeView data p 0).data (y * p.rowStride)
      (y * p.rowStride + layout.width.toNat * 3) =
      blocks (fun x => referencePixel layout data c x y) layout.width.toNat := by
    change slice (slice data (p.offset + 0) (p.offset + p.length)) _ _ = _
    rw [slice_slice (by omega), Nat.add_zero, ← Nat.add_assoc, rgbRow_slice (by omega)]
    refine blocks_congr fun x _ => ?_
    simp only [referencePixel, sourceByte, format, planes, tight, Nat.add_zero]
  have viewed := @Returns.view _ CameraError _ part (planeView data p 0).data (y * p.rowStride)
    (y * p.rowStride + layout.width.toNat * 3) (by omega) (by omega)
  rw [line] at viewed
  exact .bind viewed (.copyFromSlice same.symm)

private theorem packed422_writes (cpu : Cpu) {p : PlaneLayout}
    (accepted : layout.validate data.length = .ok ()) (small : data.length < usizeLimit)
    (configured : c.Configured) (format : layout.format = .yuyv ∨ layout.format = .uyvy)
    (planes : layout.planes = [p]) (topDown : layout.bottomUp = false)
    (size : (request.width, request.height) = (layout.width, layout.height))
    (addressable : layout.width.toNat * layout.height.toNat * 3 < usizeLimit) :
    Writes (yuv422ToRgb cpu (planeView data p 0).data layout.width.toNat layout.height.toNat
        p.rowStride (layout.format == .uyvy) c)
      (requestedImage layout data c request.width.toNat request.height.toNat) := by
  obtain ⟨wide, tall, -⟩ := FrameLayout.validate_ok accepted
  obtain ⟨even, q, known, stride, holds⟩ := packed422_plane accepted format
  obtain rfl : p = q := by
    rw [planes] at known
    exact List.head_eq_of_cons_eq known
  have cover := packed_cover accepted small holds stride
  rw [← requested_same wide tall size topDown fun row x bound inside =>
    packed422_whole format planes stride even cover bound inside]
  exact (yuv422ToRgb_fills cpu configured cover even addressable).writes

private theorem planar_writes (cpu : Cpu) (accepted : layout.validate data.length = .ok ())
    (small : data.length < usizeLimit) (configured : c.Configured)
    (format : layout.format = .yuv420p) (topDown : layout.bottomUp = false)
    (size : (request.width, request.height) = (layout.width, layout.height))
    (addressable : layout.width.toNat * layout.height.toNat * 3 < usizeLimit) :
    Writes (do
        let y ← viewPlane layout data 0 0
        let u ← viewPlane layout data 1 0
        let v ← viewPlane layout data 2 0
        yuv420ToRgb cpu y u v layout.width.toNat layout.height.toNat c : RgbFill Unit)
      (requestedImage layout data c request.width.toNat request.height.toNat) := by
  obtain ⟨wide, tall, -⟩ := FrameLayout.validate_ok accepted
  obtain ⟨y, u, v, planes, luma, chromaU, chromaV⟩ := planar_planes accepted format
  have cover := planar_cover 0 0 accepted small luma chromaU chromaV ⟨rfl, rfl⟩ ⟨rfl, rfl⟩
    ⟨Nat.one_pos, Nat.one_pos⟩
  rw [← requested_same wide tall size topDown fun row x bound inside =>
    planar_whole format planes cover bound inside]
  intro old same
  exact .bind (viewPlane_returns (by rw [planes]; rfl) luma.inside (Nat.zero_le _))
    (.bind (viewPlane_returns (by rw [planes]; rfl) chromaU.inside (Nat.zero_le _))
    (.bind (viewPlane_returns (by rw [planes]; rfl) chromaV.inside (Nat.zero_le _))
    ((yuv420ToRgb_fills cpu configured cover addressable).writes old same)))

private theorem semiplanar_writes (cpu : Cpu) {y uv : PlaneLayout}
    (accepted : layout.validate data.length = .ok ()) (small : data.length < usizeLimit)
    (configured : c.Configured) (format : layout.format = .nv12 ∨ layout.format = .nv21)
    (planes : layout.planes = [y, uv]) (adjacent : y.pixelStride = 1)
    (pairs : uv.pixelStride = 2) (topDown : layout.bottomUp = false)
    (size : (request.width, request.height) = (layout.width, layout.height))
    (addressable : layout.width.toNat * layout.height.toNat * 3 < usizeLimit) :
    Writes (do
        let planes ← viewSemiplanar layout data
        yuv420spToRgb cpu planes layout.width.toNat layout.height.toNat c : RgbFill Unit)
      (requestedImage layout data c request.width.toNat request.height.toNat) := by
  obtain ⟨wide, tall, -⟩ := FrameLayout.validate_ok accepted
  obtain ⟨_, _, known, luma, chroma⟩ := semiplanar_planes accepted format
  rw [planes] at known
  cases known
  have cover := semiplanar_cover (layout.format == .nv21) accepted small luma chroma
    adjacent pairs
  rw [← requested_same wide tall size topDown fun row x bound inside =>
    semiplanar_whole format planes adjacent pairs cover bound inside]
  intro old same
  exact .bind (viewSemiplanar_returns planes luma.inside chroma.inside)
    ((yuv420spToRgb_fills cpu configured cover addressable).writes old same)

private theorem interleaved_writes (cpu : Cpu) (accepted : layout.validate data.length = .ok ())
    (small : data.length < usizeLimit) (configured : c.Configured)
    (format : layout.format = .nv12 ∨ layout.format = .nv21) (topDown : layout.bottomUp = false)
    (size : (request.width, request.height) = (layout.width, layout.height))
    (addressable : layout.width.toNat * layout.height.toNat * 3 < usizeLimit) :
    Writes (do
        let y ← viewPlane layout data 0 0
        let first ← viewPlane layout data 1 0
        let second ← viewPlane layout data 1 1
        if layout.format = .nv12 then
          yuv420ToRgb cpu y first second layout.width.toNat layout.height.toNat c
        else
          yuv420ToRgb cpu y second first layout.width.toNat layout.height.toNat c : RgbFill Unit)
      (requestedImage layout data c request.width.toNat request.height.toNat) := by
  obtain ⟨wide, tall, -⟩ := FrameLayout.validate_ok accepted
  obtain ⟨y, uv, planes, luma, chroma⟩ := semiplanar_planes accepted format
  have pair : uv.offset + uv.length ≤ data.length := chroma.inside
  have extent : (divCeil2 layout.height.toNat - 1) * uv.rowStride +
      ((divCeil2 layout.width.toNat - 1) * uv.pixelStride + 2) ≤ uv.length := chroma.extent
  intro old same
  refine .bind (viewPlane_returns (by rw [planes]; rfl) luma.inside (Nat.zero_le _))
    (.bind (viewPlane_returns (by rw [planes]; rfl) pair (Nat.zero_le _))
    (.bind (viewPlane_returns (by rw [planes]; rfl) pair (by omega)) ?_))
  rcases format with nv12 | nv21
  · have cover := planar_cover 0 1 accepted small luma chroma chroma
      ⟨rfl, rfl⟩ ⟨rfl, rfl⟩ ⟨Nat.two_pos, Nat.one_lt_two⟩
    rw [if_pos nv12]
    have image := @requested_same layout data request c _ wide tall size topDown
      fun row x bound inside => (planarAt_windows planeView_window planeView_window
        planeView_window cover bound inside (by omega)).trans (by
          rw [reference_semiplanar planes (Or.inl nv12), nv12, Nat.zero_add]
          rfl)
    rw [← image] at same ⊢
    exact (yuv420ToRgb_fills cpu configured cover addressable).writes old same
  · have cover := planar_cover 1 0 accepted small luma chroma chroma
      ⟨rfl, rfl⟩ ⟨rfl, rfl⟩ ⟨Nat.one_lt_two, Nat.two_pos⟩
    rw [if_neg (by rw [nv21]; decide)]
    have image := @requested_same layout data request c _ wide tall size topDown
      fun row x bound inside => (planarAt_windows planeView_window planeView_window
        planeView_window cover bound inside (by omega)).trans (by
          rw [reference_semiplanar planes (Or.inr nv21), nv21, Nat.zero_add]
          rfl)
    rw [← image] at same ⊢
    exact (yuv420ToRgb_fills cpu configured cover addressable).writes old same

theorem reference_packed8888 {p : PlaneLayout} {row x : Nat} (planes : layout.planes = [p]) :
    (layout.format = .rgba8 → referencePixel layout data c x row =
      [sourceByte data p row x 0, sourceByte data p row x 1, sourceByte data p row x 2]) ∧
    (layout.format = .bgra8 → referencePixel layout data c x row =
      [sourceByte data p row x 2, sourceByte data p row x 1, sourceByte data p row x 0]) ∧
    (layout.format = .argb8 → referencePixel layout data c x row =
      [sourceByte data p row x 1, sourceByte data p row x 2, sourceByte data p row x 3]) := by
  refine ⟨fun format => ?_, fun format => ?_, fun format => ?_⟩ <;>
    simp only [referencePixel, format, planes]

theorem convertSame_writes (cpu : Cpu) {p : PlaneLayout} {kernel : RgbFill Unit}
    (accepted : layout.validate data.length = .ok ()) (small : data.length < usizeLimit)
    (configured : c.Configured) (found : layout.planes[0]? = some p)
    (topDown : layout.bottomUp = false)
    (size : (request.width, request.height) = (layout.width, layout.height))
    (addressable : layout.width.toNat * layout.height.toNat * 3 < usizeLimit)
    (chosen : convertSame cpu layout data (planeView data p 0) c = some kernel) :
    Writes kernel (requestedImage layout data c request.width.toNat request.height.toNat) := by
  have only {q : PlaneLayout} (planes : layout.planes = [q]) : layout.planes = [p] := by
    rw [planes] at found ⊢
    exact congrArg (fun first => [first]) (Option.some.inj found)
  unfold convertSame at chosen
  cases format : layout.format with
  | bgr8 | gray8 | mjpeg | h264 =>
      rw [format] at chosen
      cases chosen
  | rgb8 =>
      obtain ⟨q, planes, holds, -⟩ := @packed_plane layout data 3 accepted (by rw [format]; rfl)
        (by simp only [FrameLayout.planeSpecs, format])
      cases (planes.symm.trans (only planes))
      simp only [format] at chosen
      split at chosen
      · rename_i tight
        cases chosen
        exact copyRows_writes accepted format planes holds tight topDown size
      · cases chosen
  | rgba8 =>
      obtain ⟨q, planes, holds, -⟩ := @packed_plane layout data 4 accepted (by rw [format]; rfl)
        (by simp only [FrameLayout.planeSpecs, format])
      cases (planes.symm.trans (only planes))
      simp only [format] at chosen
      split at chosen
      · rename_i stride
        cases chosen
        exact packed8888_writes cpu (by decide) accepted small holds stride topDown size
          addressable fun row x => (reference_packed8888 planes).1 format
      · cases chosen
  | bgra8 =>
      obtain ⟨q, planes, holds, -⟩ := @packed_plane layout data 4 accepted (by rw [format]; rfl)
        (by simp only [FrameLayout.planeSpecs, format])
      cases (planes.symm.trans (only planes))
      simp only [format] at chosen
      split at chosen
      · rename_i stride
        cases chosen
        exact packed8888_writes cpu (by decide) accepted small holds stride topDown size
          addressable fun row x => (reference_packed8888 planes).2.1 format
      · cases chosen
  | argb8 =>
      obtain ⟨q, planes, holds, -⟩ := @packed_plane layout data 4 accepted (by rw [format]; rfl)
        (by simp only [FrameLayout.planeSpecs, format])
      cases (planes.symm.trans (only planes))
      simp only [format] at chosen
      split at chosen
      · rename_i stride
        cases chosen
        exact packed8888_writes cpu (by decide) accepted small holds stride topDown size
          addressable fun row x => (reference_packed8888 planes).2.2 format
      · cases chosen
  | yuv420p =>
      simp only [format] at chosen
      cases chosen
      exact planar_writes cpu accepted small configured format topDown size addressable
  | nv12 | nv21 =>
      have semiplanar : layout.format = .nv12 ∨ layout.format = .nv21 := by
        rw [format]
        decide
      obtain ⟨y, uv, planes, -, -⟩ := semiplanar_planes accepted semiplanar
      rw [planes] at found
      cases found
      simp only [format] at chosen
      split at chosen
      · rename_i strides
        cases chosen
        rw [planes] at strides
        exact semiplanar_writes cpu accepted small configured semiplanar planes strides.1
          (Option.some.inj strides.2) topDown size addressable
      · cases chosen
        have written := interleaved_writes cpu accepted small configured
          semiplanar topDown size addressable
        rwa [format] at written
  | yuyv | uyvy =>
      have packed : layout.format = .yuyv ∨ layout.format = .uyvy := by
        rw [format]
        decide
      obtain ⟨-, q, planes, -, -⟩ := packed422_plane accepted packed
      have written := packed422_writes cpu accepted small configured packed
        (only planes) topDown size addressable
      rw [format] at written chosen
      cases chosen
      exact written

end Direct

end CameraRs

/-
The YUV paths: windows of an accepted buffer cover the rows that the kernels
convert, the scalar path reads the same bytes, and the row-wise scaler writes
the requested image whatever its row buffer held.
-/

import CameraRs.Conversion.Scaling

namespace CameraRs

open Lib Fill

/-! ### Planes of the YUV formats -/

section Planes

variable {layout : FrameLayout} {data : List UInt8}

theorem packed422_plane (accepted : layout.validate data.length = .ok ())
    (format : layout.format = .yuyv ∨ layout.format = .uyvy) :
    layout.width.toNat % 2 = 0 ∧ ∃ p, layout.planes = [p] ∧ p.pixelStride = 2 ∧
      FrameLayout.Holds data.length p ⟨layout.width.toNat, layout.height.toNat, 2⟩ := by
  obtain ⟨-, -, specs, found, -, -⟩ := FrameLayout.validate_ok accepted
  have raw : layout.format.isCompressed = false := by
    rcases format with format | format <;> rw [format] <;> rfl
  have packed : layout.format.isPacked422 = true := by
    rcases format with format | format <;> rw [format] <;> rfl
  have shape : layout.width.toNat % 2 = 0 ∧ layout.planeSpecs =
      some [⟨layout.width.toNat, layout.height.toNat, 2⟩] := by
    unfold FrameLayout.planeSpecs at found ⊢
    rcases format with format | format <;> simp only [format] at found ⊢ <;>
    · split at found
      · cases found
      · rename_i even
        exact ⟨not_not.mp even, if_neg even⟩
  obtain ⟨p, planes, holds, stride⟩ := FrameLayout.validate_one accepted raw shape.2
  exact ⟨shape.1, p, planes, stride packed, holds⟩

theorem semiplanar_planes (accepted : layout.validate data.length = .ok ())
    (format : layout.format = .nv12 ∨ layout.format = .nv21) :
    ∃ y uv, layout.planes = [y, uv] ∧
      FrameLayout.Holds data.length y ⟨layout.width.toNat, layout.height.toNat, 1⟩ ∧
      FrameLayout.Holds data.length uv
        ⟨divCeil2 layout.width.toNat, divCeil2 layout.height.toNat, 2⟩ := by
  have raw : layout.format.isCompressed = false := by
    rcases format with format | format <;> rw [format] <;> rfl
  refine FrameLayout.validate_two accepted raw ?_
  unfold FrameLayout.planeSpecs
  rcases format with format | format <;> simp only [format]

theorem planar_planes (accepted : layout.validate data.length = .ok ())
    (format : layout.format = .yuv420p) :
    ∃ y u v, layout.planes = [y, u, v] ∧
      FrameLayout.Holds data.length y ⟨layout.width.toNat, layout.height.toNat, 1⟩ ∧
      FrameLayout.Holds data.length u
        ⟨divCeil2 layout.width.toNat, divCeil2 layout.height.toNat, 1⟩ ∧
      FrameLayout.Holds data.length v
        ⟨divCeil2 layout.width.toNat, divCeil2 layout.height.toNat, 1⟩ := by
  have raw : layout.format.isCompressed = false := by rw [format]; rfl
  refine FrameLayout.validate_three accepted raw ?_
  simp only [FrameLayout.planeSpecs, format]

end Planes

/-! ### The scalar path -/

section Scalar

variable {layout : FrameLayout} {data : List UInt8} {c : Coefficients} {outW outH : Nat}

private theorem readYuv_returns {σ : Type} {s : σ} {x r : Nat}
    (accepted : layout.validate data.length = .ok ()) (yuv : layout.format.isYuv = true)
    (column : x < layout.width.toNat) (bound : r < layout.height.toNat) :
    Returns (readYuv layout data x r : Fill σ CameraError _) s (sourceYuv layout data x r) s := by
  have halfColumn := half_lt column
  have halfRow := half_lt bound
  unfold readYuv
  cases format : layout.format with
  | rgb8 | bgr8 | bgra8 | rgba8 | argb8 | gray8 | mjpeg | h264 => rw [format] at yuv; cases yuv
  | yuyv | uyvy =>
      have packed : layout.format = .yuyv ∨ layout.format = .uyvy := by
        rw [format]
        decide
      obtain ⟨even, p, planes, stride, holds⟩ := packed422_plane accepted packed
      have luma : p.offset + r * p.rowStride + x * p.pixelStride + 2 ≤ data.length :=
        sample_inside holds bound column
      have pair : p.offset + r * p.rowStride + (x / 2 * 2 + 1) * p.pixelStride + 2 ≤
          data.length :=
        sample_inside holds bound (show x / 2 * 2 + 1 < layout.width.toNat by omega)
      rw [stride] at luma pair
      simp only [sourceYuv, sourceByte, format, planes, stride, Nat.add_zero]
      refine .bind (.readSome rfl) ?_
      simp only [stride]
      exact .bind (.read (by omega)) (.bind (.read (by omega)) (.bind (.read (by omega)) .pure))
  | nv12 | nv21 =>
      have semiplanar : layout.format = .nv12 ∨ layout.format = .nv21 := by
        rw [format]
        decide
      obtain ⟨p, q, planes, first, second⟩ := semiplanar_planes accepted semiplanar
      have luma := sample_inside first bound column
      have chroma : q.offset + r / 2 * q.rowStride + x / 2 * q.pixelStride + 2 ≤ data.length :=
        sample_inside second halfRow halfColumn
      simp only [sourceYuv, sourceByte, format, planes, Nat.add_zero]
      exact .bind (.readSome rfl) (.bind (.readSome rfl) (.bind (.read luma)
        (.bind (.read (by omega)) (.bind (.read (by omega)) .pure))))
  | yuv420p =>
      obtain ⟨p, q, w, planes, first, second, third⟩ := planar_planes accepted format
      simp only [sourceYuv, sourceByte, format, planes, Nat.add_zero]
      exact .bind (.readSome rfl) (.bind (.readSome rfl) (.bind (.readSome rfl)
        (.bind (.read (sample_inside first bound column))
        (.bind (.read (sample_inside second halfRow halfColumn))
        (.bind (.read (sample_inside third halfRow halfColumn)) .pure)))))

theorem scaleYuvScalar_fills (accepted : layout.validate data.length = .ok ())
    (yuv : layout.format.isYuv = true) (small : c.Small) (positive : 0 < outW) :
    Fills (scaleYuvScalar layout data outW (nearestColumns layout.width.toNat outW)
        (nearestRows layout.height.toNat outH layout.bottomUp) c)
      (requestedImage layout data c outW outH) := by
  obtain ⟨wide, tall, -⟩ := FrameLayout.validate_ok accepted
  refine chunks_rows positive tall fun r bound => chunks_pixels wide fun x column old same => ?_
  rw [referencePixel_yuv yuv] at same ⊢
  exact .bind (readYuv_returns accepted yuv column bound) (yuvPixel_writes small old same)

end Scalar

/-! ### Windows of the source planes -/

structure Window (data : List UInt8) (p : PlaneLayout) (first shift : Nat) (plane : YuvPlane) :
    Prop where
  bytes : ∃ stop, plane.data = slice data (p.offset + shift + first * p.rowStride) stop
  rowStride : plane.rowStride = p.rowStride
  pixelStride : plane.pixelStride = p.pixelStride

section Windows

variable {layout : FrameLayout} {data : List UInt8} {c : Coefficients}
  {p q : PlaneLayout} {plane : YuvPlane} {first shift width rows i x : Nat}

theorem getD_window {source : List UInt8} {start stop k : Nat}
    (bytes : source = slice data start stop) (inside : k < source.length) :
    source.getD k 0 = data.getD (start + k) 0 := by
  have short := @length_slice_le _ data start stop
  rw [bytes] at inside ⊢
  exact getD_slice (by omega)

theorem Window.sample {cols : Nat} (window : Window data p first shift plane)
    (covers : plane.Covers cols rows) (bound : i < rows) (column : x < cols) :
    plane.sample i x = sourceByte data p (first + i) x shift := by
  obtain ⟨stop, bytes⟩ := window.bytes
  rw [YuvPlane.sample, getD_window bytes (covers.inside bound column), window.rowStride,
    window.pixelStride, sourceByte, Nat.add_mul]
  congr 1
  omega

theorem planeView_window : Window data p 0 shift (planeView data p shift) :=
  { bytes := ⟨p.offset + p.length, by rw [Nat.zero_mul]; rfl⟩
    rowStride := rfl
    pixelStride := rfl }

theorem planarAt_windows {y u v : YuvPlane} {pu pv : PlaneLayout} {shiftU shiftV : Nat}
    (luma : Window data p first 0 y) (windowU : Window data pu (first / 2) shiftU u)
    (windowV : Window data pv (first / 2) shiftV v) (cover : PlanarCover y u v width rows)
    (bound : i < rows) (column : x < width) (shared : (first + i) / 2 = first / 2 + i / 2) :
    planarAt c y u v i x = rgbOf c (sourceByte data p (first + i) x 0)
      (sourceByte data pu ((first + i) / 2) (x / 2) shiftU)
      (sourceByte data pv ((first + i) / 2) (x / 2) shiftV) := by
  rw [planarAt, luma.sample cover.luma bound column,
    windowU.sample cover.u (half_lt bound) (half_lt column),
    windowV.sample cover.v (half_lt bound) (half_lt column), shared]

theorem semiplanarAt_windows {planes : Yuv420Sp} {uvStop : Nat}
    (luma : Window data p first 0 ⟨planes.y, planes.yStride, 1⟩)
    (chroma : planes.uv = slice data (q.offset + first / 2 * q.rowStride) uvStop)
    (stride : planes.uvStride = q.rowStride) (pairs : q.pixelStride = 2)
    (cover : SemiplanarCover planes width rows) (bound : i < rows) (column : x < width)
    (shared : (first + i) / 2 = first / 2 + i / 2) :
    semiplanarAt c planes i x =
      rgbOf c (sourceByte data p (first + i) x 0)
        (sourceByte data q ((first + i) / 2) (x / 2) (if planes.vuOrder then 1 else 0))
        (sourceByte data q ((first + i) / 2) (x / 2) (if planes.vuOrder then 0 else 1)) := by
  have sample := luma.sample cover.luma bound column
  rw [YuvPlane.sample, Nat.mul_one] at sample
  change planes.y.getD (i * planes.yStride + x) 0 = _ at sample
  have rowEnd := cover.chromaEnd (half_lt bound)
  have halfColumn := half_lt column
  have byte (k : Nat) (small : k < 2) :
      planes.uv.getD (i / 2 * planes.uvStride + x / 2 * 2 + k) 0 =
        sourceByte data q ((first + i) / 2) (x / 2) k := by
    rw [getD_window chroma (by omega), stride, sourceByte, shared, Nat.add_mul, pairs]
    congr 1
    omega
  have even := byte 0 (by omega)
  have odd := byte 1 (by omega)
  rw [Nat.add_zero] at even
  rw [semiplanarAt, sample]
  unfold chromaPair
  cases planes.vuOrder <;> simp only [Bool.false_eq_true, if_true, if_false, even, odd]

theorem packed422At_windows {source : List UInt8} {stop : Nat} {uyvy : Bool}
    (bytes : source = slice data (p.offset + first * p.rowStride) stop)
    (pixels : p.pixelStride = 2) (cover : PackedCover 2 source width rows p.rowStride)
    (even : width % 2 = 0) (bound : i < rows) (column : x < width) :
    packed422At c uyvy source p.rowStride i x =
      rgbOf c (sourceByte data p (first + i) x (if uyvy then 1 else 0))
        (sourceByte data p (first + i) (x / 2 * 2) (if uyvy then 0 else 1))
        (sourceByte data p (first + i) (x / 2 * 2) (if uyvy then 2 else 3)) := by
  have rowEnd := cover.rowEnd bound
  have byte (pixel shift : Nat) (inside : pixel * 2 + shift < width * 2) :
      source.getD (i * p.rowStride + (pixel * 2 + shift)) 0 =
        sourceByte data p (first + i) pixel shift := by
    rw [getD_window bytes (by omega), sourceByte, pixels, Nat.add_mul]
    congr 1
    omega
  have pair : x / 2 * 4 = x / 2 * 2 * 2 := by omega
  rw [packed422At, packed422Pixel]
  simp only [getD_drop, pair]
  cases uyvy
  · simp only [Bool.false_eq_true, if_false]
    rw [byte (x / 2 * 2) 1 (by omega), byte (x / 2 * 2) 3 (by omega)]
    have luma := byte x 0 (by omega)
    rw [Nat.add_zero] at luma
    rw [luma]
  · simp only [if_true]
    rw [byte x 1 (by omega), byte (x / 2 * 2) 2 (by omega)]
    have chroma := byte (x / 2 * 2) 0 (by omega)
    rw [Nat.add_zero] at chroma
    rw [chroma]

theorem reference_packed422 {r : Nat} (planes : layout.planes = [p])
    (format : layout.format = .yuyv ∨ layout.format = .uyvy) :
    referencePixel layout data c x r =
      rgbOf c (sourceByte data p r x (if layout.format == .uyvy then 1 else 0))
        (sourceByte data p r (x / 2 * 2) (if layout.format == .uyvy then 0 else 1))
        (sourceByte data p r (x / 2 * 2) (if layout.format == .uyvy then 2 else 3)) := by
  rcases format with format | format <;> simp only [referencePixel, sourceYuv, format, planes] <;>
    rfl

theorem reference_semiplanar {r : Nat} (planes : layout.planes = [p, q])
    (format : layout.format = .nv12 ∨ layout.format = .nv21) :
    referencePixel layout data c x r =
      rgbOf c (sourceByte data p r x 0)
        (sourceByte data q (r / 2) (x / 2) (if layout.format == .nv21 then 1 else 0))
        (sourceByte data q (r / 2) (x / 2) (if layout.format == .nv21 then 0 else 1)) := by
  rcases format with format | format <;> simp only [referencePixel, sourceYuv, format, planes] <;>
    rfl

theorem reference_planar {r : Nat} {u v : PlaneLayout} (planes : layout.planes = [p, u, v])
    (format : layout.format = .yuv420p) :
    referencePixel layout data c x r =
      rgbOf c (sourceByte data p r x 0) (sourceByte data u (r / 2) (x / 2) 0)
        (sourceByte data v (r / 2) (x / 2) 0) := by
  simp only [referencePixel, sourceYuv, format, planes]

end Windows

/-! ### Rows of the source -/

section SourceRows

variable {layout : FrameLayout} {data : List UInt8} {c : Coefficients} {p : PlaneLayout}
  {spec : PlaneSpec} {sourceY rows size : Nat}

theorem rowsWindow_covers (holds : FrameLayout.Holds data.length p spec)
    (channel : spec.channels = 1) (adjacent : p.pixelStride = 1)
    (small : data.length < usizeLimit) (wide : 0 < spec.cols) (positive : 0 < rows)
    (room : sourceY + rows ≤ spec.rows) :
    p.offset + sourceY * p.rowStride + ((rows - 1) * p.rowStride + spec.cols) ≤ data.length ∧
      (YuvPlane.mk (slice data (p.offset + sourceY * p.rowStride)
        (p.offset + sourceY * p.rowStride + ((rows - 1) * p.rowStride + spec.cols)))
        p.rowStride p.pixelStride).Covers spec.cols rows := by
  have last := sample_inside holds (show sourceY + (rows - 1) < spec.rows by omega)
    (show spec.cols - 1 < spec.cols by omega)
  rw [adjacent, channel, Nat.add_mul] at last
  have row := holds.row
  unfold FrameLayout.rowBytes at row
  rw [adjacent, channel] at row
  have inside : p.offset + sourceY * p.rowStride + ((rows - 1) * p.rowStride + spec.cols) ≤
      data.length := by omega
  refine ⟨inside, ?_⟩
  rw [adjacent]
  exact
    { step := Nat.one_pos
      row := row
      extent := by
        rw [length_slice_add inside]
        change (rows - 1) * p.rowStride + ((spec.cols - 1) * 1 + 1) ≤ _
        omega
      small := by
        rw [length_slice_add inside]
        omega }

theorem rowsWindow_shows {stop : Nat} :
    Window data p sourceY 0
      ⟨slice data (p.offset + sourceY * p.rowStride) stop, p.rowStride, p.pixelStride⟩ :=
  { bytes := ⟨stop, by rw [Nat.add_zero]⟩
    rowStride := rfl
    pixelStride := rfl }

def sourceRows (layout : FrameLayout) (data : List UInt8) (c : Coefficients)
    (sourceY rows : Nat) : List UInt8 :=
  imageOf (fun i x => referencePixel layout data c x (sourceY + i)) layout.width.toNat rows

theorem rows_addressable (few : rows ≤ 2) :
    layout.width.toNat * rows * 3 < usizeLimit := by
  have narrow : layout.width.toNat < 2 ^ 32 := layout.width.toNat_lt
  have pixels : layout.width.toNat * rows ≤ layout.width.toNat * 2 :=
    Nat.mul_le_mul_left _ few
  unfold usizeLimit
  omega

theorem packed422Rows_writes (cpu : Cpu) (format : layout.format = .yuyv ∨ layout.format = .uyvy)
    (accepted : layout.validate data.length = .ok ()) (configured : c.Configured)
    (small : data.length < usizeLimit) (positive : 0 < rows) (few : rows ≤ 2)
    (room : sourceY + rows ≤ layout.height.toNat) (planes : layout.planes = [p]) :
    p.offset + sourceY * p.rowStride +
        ((rows - 1) * p.rowStride + layout.width.toNat * 2) ≤ data.length ∧
      Writes (yuv422ToRgb cpu (slice data (p.offset + sourceY * p.rowStride)
          (p.offset + sourceY * p.rowStride +
            ((rows - 1) * p.rowStride + layout.width.toNat * 2)))
          layout.width.toNat rows p.rowStride (layout.format == .uyvy) c)
        (sourceRows layout data c sourceY rows) := by
  obtain ⟨wide, tall, -⟩ := FrameLayout.validate_ok accepted
  obtain ⟨even, other, found, stride, holds⟩ := packed422_plane accepted format
  rw [planes] at found
  cases found
  have last : p.offset + (sourceY + (rows - 1)) * p.rowStride +
      (layout.width.toNat - 1) * p.pixelStride + 2 ≤ data.length :=
    sample_inside holds (show sourceY + (rows - 1) < layout.height.toNat by omega)
      (show layout.width.toNat - 1 < layout.width.toNat by omega)
  have row : (layout.width.toNat - 1) * p.pixelStride + 2 ≤ p.rowStride := holds.row
  rw [stride, Nat.add_mul] at last
  rw [stride] at row
  have inside : p.offset + sourceY * p.rowStride +
      ((rows - 1) * p.rowStride + layout.width.toNat * 2) ≤ data.length := by omega
  have cover : PackedCover 2 (slice data (p.offset + sourceY * p.rowStride)
      (p.offset + sourceY * p.rowStride + ((rows - 1) * p.rowStride + layout.width.toNat * 2)))
      layout.width.toNat rows p.rowStride :=
    { wide := wide
      tall := positive
      row := by omega
      extent := by rw [length_slice_add inside]
      small := by
        rw [length_slice_add inside]
        omega }
  have written : Writes (yuv422ToRgb cpu _ _ _ _ (layout.format == .uyvy) c) _ :=
    (yuv422ToRgb_fills cpu configured cover even (rows_addressable few)).writes
  rw [imageOf_congr fun i x bound column => (packed422At_windows rfl stride cover even bound
    column).trans (reference_packed422 planes format).symm] at written
  exact ⟨inside, written⟩

private theorem semiplanarRows_writes (cpu : Cpu) {q : PlaneLayout}
    (format : layout.format = .nv12 ∨ layout.format = .nv21)
    (accepted : layout.validate data.length = .ok ()) (configured : c.Configured)
    (small : data.length < usizeLimit) (positive : 0 < rows) (few : rows ≤ 2)
    (room : sourceY + rows ≤ layout.height.toNat)
    (shared : ∀ i, i < rows → (sourceY + i) / 2 = sourceY / 2 + i / 2)
    (planes : layout.planes = [p, q]) (adjacent : p.pixelStride = 1)
    (pairs : q.pixelStride = 2) :
    p.offset + sourceY * p.rowStride + ((rows - 1) * p.rowStride + layout.width.toNat) ≤
        data.length ∧
      q.offset + sourceY / 2 * q.rowStride + divCeil2 layout.width.toNat * 2 ≤ data.length ∧
      Writes (yuv420spToRgb cpu
          { y := slice data (p.offset + sourceY * p.rowStride)
              (p.offset + sourceY * p.rowStride +
                ((rows - 1) * p.rowStride + layout.width.toNat))
            uv := slice data (q.offset + sourceY / 2 * q.rowStride)
              (q.offset + sourceY / 2 * q.rowStride + divCeil2 layout.width.toNat * 2)
            yStride := p.rowStride
            uvStride := q.rowStride
            vuOrder := layout.format == .nv21 } layout.width.toNat rows c)
        (sourceRows layout data c sourceY rows) := by
  obtain ⟨wide, tall, -⟩ := FrameLayout.validate_ok accepted
  obtain ⟨y, uv, found, first, second⟩ := semiplanar_planes accepted format
  rw [planes] at found
  cases found
  have one : divCeil2 rows = 1 := by unfold divCeil2; omega
  have chromaWide := divCeil2_pos wide
  obtain ⟨lumaEnd, luma⟩ := rowsWindow_covers first rfl adjacent small wide positive room
  have last : q.offset + sourceY / 2 * q.rowStride +
      (divCeil2 layout.width.toNat - 1) * q.pixelStride + 2 ≤ data.length :=
    sample_inside second (half_lt (show sourceY < layout.height.toNat by omega))
      (show divCeil2 layout.width.toNat - 1 < divCeil2 layout.width.toNat by omega)
  have row : (divCeil2 layout.width.toNat - 1) * q.pixelStride + 2 ≤ q.rowStride := second.row
  rw [pairs] at last row
  have inside : q.offset + sourceY / 2 * q.rowStride + divCeil2 layout.width.toNat * 2 ≤
      data.length := by omega
  rw [adjacent] at luma
  have cover : SemiplanarCover ⟨_, slice data (q.offset + sourceY / 2 * q.rowStride)
      (q.offset + sourceY / 2 * q.rowStride + divCeil2 layout.width.toNat * 2), p.rowStride,
      q.rowStride, layout.format == .nv21⟩ layout.width.toNat rows :=
    { wide := wide
      tall := positive
      luma := luma
      chromaRow := by
        change divCeil2 layout.width.toNat * 2 ≤ q.rowStride
        omega
      chroma := by
        rw [one, length_slice_add inside]
        omega
      small := by
        rw [length_slice_add inside]
        omega }
  have shows := @rowsWindow_shows data p sourceY (p.offset + sourceY * p.rowStride +
    ((rows - 1) * p.rowStride + layout.width.toNat))
  rw [adjacent] at shows
  have written := (yuv420spToRgb_fills cpu configured cover (rows_addressable few)).writes
  rw [imageOf_congr fun i x bound column => (semiplanarAt_windows shows rfl rfl pairs cover bound
    column (shared i bound)).trans (reference_semiplanar planes format).symm] at written
  exact ⟨lumaEnd, inside, written⟩

theorem planarRows_writes (cpu : Cpu) {u v : PlaneLayout} (format : layout.format = .yuv420p)
    (accepted : layout.validate data.length = .ok ()) (configured : c.Configured)
    (small : data.length < usizeLimit) (positive : 0 < rows) (few : rows ≤ 2)
    (room : sourceY + rows ≤ layout.height.toNat)
    (shared : ∀ i, i < rows → (sourceY + i) / 2 = sourceY / 2 + i / 2)
    (planes : layout.planes = [p, u, v])
    (adjacent : p.pixelStride = 1 ∧ u.pixelStride = 1 ∧ v.pixelStride = 1) :
    p.offset + sourceY * p.rowStride + ((rows - 1) * p.rowStride + layout.width.toNat) ≤
        data.length ∧
      u.offset + sourceY / 2 * u.rowStride + divCeil2 layout.width.toNat ≤ data.length ∧
      v.offset + sourceY / 2 * v.rowStride + divCeil2 layout.width.toNat ≤ data.length ∧
      Writes (yuv420ToRgb cpu
          ⟨slice data (p.offset + sourceY * p.rowStride) (p.offset + sourceY * p.rowStride +
            ((rows - 1) * p.rowStride + layout.width.toNat)), p.rowStride, p.pixelStride⟩
          ⟨slice data (u.offset + sourceY / 2 * u.rowStride)
            (u.offset + sourceY / 2 * u.rowStride + divCeil2 layout.width.toNat),
            u.rowStride, u.pixelStride⟩
          ⟨slice data (v.offset + sourceY / 2 * v.rowStride)
            (v.offset + sourceY / 2 * v.rowStride + divCeil2 layout.width.toNat),
            v.rowStride, v.pixelStride⟩ layout.width.toNat rows c)
        (sourceRows layout data c sourceY rows) := by
  obtain ⟨wide, tall, -⟩ := FrameLayout.validate_ok accepted
  obtain ⟨y, u', v', found, first, second, third⟩ := planar_planes accepted format
  rw [planes] at found
  cases found
  have one : divCeil2 rows = 1 := by unfold divCeil2; omega
  have chromaWide := divCeil2_pos wide
  have chromaRow : sourceY / 2 < divCeil2 layout.height.toNat :=
    half_lt (show sourceY < _ by omega)
  obtain ⟨yEnd, luma⟩ := rowsWindow_covers first rfl adjacent.1 small wide positive room
  obtain ⟨uEnd, coverU⟩ := rowsWindow_covers second rfl adjacent.2.1 small chromaWide
    Nat.one_pos (Nat.succ_le_of_lt chromaRow)
  obtain ⟨vEnd, coverV⟩ := rowsWindow_covers third rfl adjacent.2.2 small chromaWide
    Nat.one_pos (Nat.succ_le_of_lt chromaRow)
  simp only [Nat.sub_self, Nat.zero_mul, Nat.zero_add] at uEnd coverU vEnd coverV
  have cover : PlanarCover _ _ _ layout.width.toNat rows :=
    { wide := wide
      tall := positive
      luma := luma
      u := by rw [one]; exact coverU
      v := by rw [one]; exact coverV }
  have written := (yuv420ToRgb_fills cpu configured cover (rows_addressable few)).writes
  rw [imageOf_congr fun i x bound column => (planarAt_windows rowsWindow_shows rowsWindow_shows
    rowsWindow_shows cover bound column (shared i bound)).trans
    (reference_planar planes format).symm] at written
  exact ⟨yEnd, uEnd, vEnd, written⟩

private theorem convertYuvRows_writes (cpu : Cpu) (accepted : layout.validate data.length = .ok ())
    (yuv : layout.format.isYuv = true) (supported : supportsYuvRowConversion layout = true)
    (configured : c.Configured) (small : data.length < usizeLimit) (positive : 0 < rows)
    (few : rows ≤ 2) (room : sourceY + rows ≤ layout.height.toNat)
    (shared : ∀ i, i < rows → (sourceY + i) / 2 = sourceY / 2 + i / 2) :
    Writes (convertYuvRows cpu layout data sourceY rows c)
      (sourceRows layout data c sourceY rows) := by
  intro old same
  unfold convertYuvRows
  cases format : layout.format with
  | rgb8 | bgr8 | bgra8 | rgba8 | argb8 | gray8 | mjpeg | h264 => rw [format] at yuv; cases yuv
  | yuyv | uyvy =>
      have packed : layout.format = .yuyv ∨ layout.format = .uyvy := by
        rw [format]
        decide
      obtain ⟨even, p, planes, -⟩ := packed422_plane accepted packed
      obtain ⟨inside, written⟩ := packed422Rows_writes cpu packed accepted configured
        small positive few room planes
      rw [format] at written
      simp only [planes]
      exact .bind (.readSome rfl) (.bind (.view (by omega) inside) (written old same))
  | nv12 | nv21 =>
      have semiplanar : layout.format = .nv12 ∨ layout.format = .nv21 := by
        rw [format]
        decide
      obtain ⟨p, q, planes, -⟩ := semiplanar_planes accepted semiplanar
      simp only [supportsYuvRowConversion, format, planes, Bool.and_eq_true, beq_iff_eq] at supported
      obtain ⟨luma, chroma, written⟩ := semiplanarRows_writes cpu semiplanar accepted
        configured small positive few room shared planes supported.1 supported.2
      rw [format] at written
      simp only [planes]
      exact .bind (.readSome rfl) (.bind (.readSome rfl) (.bind (.view (by omega) luma)
        (.bind (.view (by omega) chroma) (written old same))))
  | yuv420p =>
      obtain ⟨p, u, v, planes, -⟩ := planar_planes accepted format
      simp only [supportsYuvRowConversion, format, planes, Bool.and_eq_true, beq_iff_eq] at supported
      obtain ⟨yEnd, uEnd, vEnd, written⟩ := planarRows_writes cpu format accepted configured small
        positive few room shared planes ⟨supported.1.1, supported.1.2, supported.2⟩
      simp only [planes]
      exact .bind (.readSome rfl) (.bind (.readSome rfl) (.bind (.readSome rfl)
        (.bind (.view (by omega) yEnd) (.bind (.view (by omega) uEnd)
        (.bind (.view (by omega) vEnd) (written old same))))))

theorem convertYuvRows_scratch (cpu : Cpu) (accepted : layout.validate data.length = .ok ())
    (yuv : layout.format.isYuv = true) (supported : supportsYuvRowConversion layout = true)
    (configured : c.Configured) (small : data.length < usizeLimit) (positive : 0 < rows)
    (few : rows ≤ 2) (room : sourceY + rows ≤ layout.height.toNat)
    (shared : ∀ i, i < rows → (sourceY + i) / 2 = sourceY / 2 + i / 2) {scratch : List UInt8}
    (large : scratch.length = layout.width.toNat * 6) (used : size = rows * (layout.width.toNat * 3)) :
    ∃ next, Returns (within 0 size (convertYuvRows cpu layout data sourceY rows c)) scratch ()
        next ∧
      next.length = layout.width.toNat * 6 ∧
      ∀ i, i < rows →
        slice next (i * (layout.width.toNat * 3))
          (i * (layout.width.toNat * 3) + layout.width.toNat * 3) =
        blocks (fun x => referencePixel layout data c x (sourceY + i)) layout.width.toNat := by
  have rgb : IsRgbImage fun i x => referencePixel layout data c x (sourceY + i) :=
    fun _ _ => isRgb_reference
  have total : (sourceRows layout data c sourceY rows).length =
      rows * (layout.width.toNat * 3) := rgb.length
  have enough : rows * (layout.width.toNat * 3) ≤ 2 * (layout.width.toNat * 3) :=
    Nat.mul_le_mul_right _ few
  have written := convertYuvRows_writes cpu accepted yuv supported configured small positive few
    room shared (slice scratch 0 size) (by rw [length_slice (by omega)]; omega)
  refine ⟨_, Returns.within (Nat.zero_le _) (by omega) written, ?_, fun i bound => ?_⟩
  · rw [List.take_zero, List.nil_append, List.length_append, List.length_drop]
    omega
  · have line : slice (sourceRows layout data c sourceY rows) (i * (layout.width.toNat * 3))
        (i * (layout.width.toNat * 3) + layout.width.toNat * 3) =
        blocks (fun x => referencePixel layout data c x (sourceY + i)) layout.width.toNat :=
      slice_blocks rgb.rows bound
    have last : (i + 1) * (layout.width.toNat * 3) ≤ rows * (layout.width.toNat * 3) :=
      Nat.mul_le_mul_right _ bound
    rw [Nat.succ_mul] at last
    rw [← line, List.take_zero, List.nil_append, slice, slice,
      List.drop_append_of_le_length (by omega),
      List.take_append_of_le_length (by rw [List.length_drop]; omega)]

end SourceRows

/-! ### The row-wise scaler -/

section RowWise

variable {layout : FrameLayout} {data : List UInt8} {c : Coefficients} {outW outH index : Nat}

/-- The requested image up to destination row `index`. -/
def requestedUpTo (layout : FrameLayout) (data : List UInt8) (c : Coefficients)
    (outW outH : Nat) (old : List UInt8) (index : Nat) : List UInt8 :=
  overlay (requestedImage layout data c outW outH) (index * (outW * 3)) old

theorem resized_row {old : List UInt8} {r start : Nat} (wide : 0 < layout.width.toNat)
    (bound : index < outH) (fits : (requestedImage layout data c outW outH).length ≤ old.length)
    (source : sourceRow layout.height.toNat outH layout.bottomUp index = r)
    (place : start = index * (outW * 3)) :
    Returns (within start (start + outW * 3)
        (resizeRgbRowNearest (blocks (fun x => referencePixel layout data c x r)
          layout.width.toNat) (nearestColumns layout.width.toNat outW)))
      (requestedUpTo layout data c outW outH old index) ()
      (requestedUpTo layout data c outW outH old (index + 1)) := by
  subst place source
  have rgb : IsRgbImage fun y x => referencePixel layout data c
      (sourceColumn layout.width.toNat outW x)
      (sourceRow layout.height.toNat outH layout.bottomUp y) := fun _ _ => isRgb_reference
  rw [requestedUpTo, requestedUpTo, Nat.succ_mul]
  exact Writes.block rgb.rows bound fits <|
    resizeRgbRowNearest_writes (fun _ => isRgb_reference) wide

private theorem scaleYuvRows_writes (cpu : Cpu) (accepted : layout.validate data.length = .ok ())
    (yuv : layout.format.isYuv = true) (supported : supportsYuvRowConversion layout = true)
    (configured : c.Configured) (small : data.length < usizeLimit) {old : List UInt8}
    (fits : (requestedImage layout data c outW outH).length ≤ old.length) (remaining index : Nat)
    (rest : index + remaining = outH) (scratch : List UInt8)
    (large : scratch.length = layout.width.toNat * 6) :
    ∃ next, Returns (scaleYuvRows cpu layout data (nearestColumns layout.width.toNat outW)
        (nearestRows layout.height.toNat outH layout.bottomUp) c remaining index)
      (scratch, requestedUpTo layout data c outW outH old index) ()
      (next, requestedUpTo layout data c outW outH old outH) := by
  obtain ⟨wide, tall, -⟩ := FrameLayout.validate_ok accepted
  -- The induction follows the calls, which consume one or two rows.
  induction remaining using Nat.strong_induction_on generalizing index scratch with
  | _ remaining ih =>
      cases remaining with
      | zero =>
          rw [scaleYuvRows, ← rest]
          exact ⟨scratch, .pure⟩
      | succ remaining =>
          have bound : index < outH := by omega
          have below := @sourceRow_lt layout.height.toNat outH index layout.bottomUp bound tall
          have entry (k : Nat) (inside : k < outH) :
              (nearestRows layout.height.toNat outH layout.bottomUp)[k]? =
                some (sourceRow layout.height.toNat outH layout.bottomUp k) := by
            rw [List.getElem?_eq_getElem (by rw [length_nearestRows]; exact inside),
              getElem_nearestRows]
          rw [scaleYuvRows]
          simp only [length_nearestColumns]
          by_cases paired : isPairable layout.format ∧
              sourceRow layout.height.toNat outH layout.bottomUp index % 2 = 0 ∧
              (nearestRows layout.height.toNat outH layout.bottomUp)[index + 1]? =
                some (sourceRow layout.height.toNat outH layout.bottomUp index + 1)
          · have next := paired.2.2
            have even := paired.2.1
            have two : index + 1 < outH := by
              have found := (List.getElem?_eq_some_iff.mp next).1
              rwa [length_nearestRows] at found
            rw [entry (index + 1) two, Option.some.injEq] at next
            have nextBelow := @sourceRow_lt layout.height.toNat outH (index + 1) layout.bottomUp
              two tall
            obtain ⟨later, rfl⟩ : ∃ later, remaining = later + 1 := ⟨remaining - 1, by omega⟩
            obtain ⟨buffer, converted, bufferLarge, lines⟩ := convertYuvRows_scratch cpu accepted
              yuv supported configured small Nat.two_pos (Nat.le_refl 2) (show
                sourceRow layout.height.toNat outH layout.bottomUp index + 2 ≤ _ by omega)
              (fun i bound => by omega) large (show layout.width.toNat * 3 * 2 = _ by omega)
            have first := lines 0 (by omega)
            have second := lines 1 (by omega)
            rw [Nat.zero_mul, Nat.zero_add, Nat.add_zero] at first
            rw [Nat.one_mul] at second
            have viewFirst := @Returns.view _ CameraError _
              (buffer, requestedUpTo layout data c outW outH old index) buffer 0
              (layout.width.toNat * 3) (Nat.zero_le _) (by omega)
            have viewSecond := @Returns.view _ CameraError _
              (buffer, requestedUpTo layout data c outW outH old index) buffer
              (layout.width.toNat * 3) (layout.width.toNat * 3 + layout.width.toNat * 3)
              (by omega) (by omega)
            rw [first] at viewFirst
            rw [second] at viewSecond
            obtain ⟨final, finished⟩ := ih later (by omega) (index + 2) (by omega) buffer bufferLarge
            refine ⟨final, .bind (.readSome (entry index bound)) ?_⟩
            simp only [if_pos paired]
            exact .bind (.onFst converted) (.bind .getState (.bind viewFirst (.bind viewSecond
              (.bind (.onSnd (resized_row wide bound fits rfl rfl))
              (.bind (.onSnd (resized_row wide two fits next rfl)) finished)))))
          · obtain ⟨next, converted, nextLarge, lines⟩ := convertYuvRows_scratch cpu accepted yuv
              supported configured small Nat.one_pos (by omega) (show
                sourceRow layout.height.toNat outH layout.bottomUp index + 1 ≤ _ by omega)
              (fun i bound => by omega) large (Nat.one_mul _).symm
            have line := lines 0 Nat.one_pos
            rw [Nat.zero_mul, Nat.zero_add, Nat.add_zero] at line
            have viewed := @Returns.view _ CameraError _
              (next, requestedUpTo layout data c outW outH old index) next 0
              (layout.width.toNat * 3) (Nat.zero_le _) (by omega)
            rw [line] at viewed
            obtain ⟨final, finished⟩ := ih remaining (by omega) (index + 1) (by omega) next nextLarge
            refine ⟨final, .bind (.readSome (entry index bound)) ?_⟩
            simp only [if_neg paired]
            exact .bind (.onFst converted) (.bind .getState (.bind viewed
              (.bind (.onSnd (resized_row wide bound fits rfl rfl)) finished)))

theorem scaleYuvNearest_writes (cpu : Cpu) (accepted : layout.validate data.length = .ok ())
    (yuv : layout.format.isYuv = true) (supported : supportsYuvRowConversion layout = true)
    (configured : c.Configured) (small : data.length < usizeLimit) (positive : 0 < outW)
    {scratch old : List UInt8} (large : scratch.length = layout.width.toNat * 6)
    (same : old.length = (requestedImage layout data c outW outH).length) :
    ∃ next, Returns (scaleYuvNearest cpu layout data (nearestColumns layout.width.toNat outW)
        (nearestRows layout.height.toNat outH layout.bottomUp) c) (scratch, old) ()
      (next, requestedImage layout data c outW outH) := by
  have total : (requestedImage layout data c outW outH).length = outH * (outW * 3) :=
    IsRgbImage.length fun _ _ => isRgb_reference
  obtain ⟨next, ran⟩ := scaleYuvRows_writes cpu accepted yuv supported configured small
    (Nat.le_of_eq same.symm) outH 0 (Nat.zero_add _) scratch large
  have first : requestedUpTo layout data c outW outH old 0 = old := by
    rw [requestedUpTo, Nat.zero_mul, overlay_zero]
  have last : requestedUpTo layout data c outW outH old outH =
      requestedImage layout data c outW outH := by
    rw [requestedUpTo, ← total, overlay_full same]
  rw [first, last] at ran
  refine ⟨next, .bind (.assertThat (by rw [length_nearestColumns]; omega)) (.bind .getState ?_)⟩
  simp only [length_nearestColumns]
  rwa [same, total, Nat.mul_div_cancel _ (by omega)]

end RowWise

end CameraRs

/-
The raw formats of the V4L2 backend, one after the other: what the decoder checks
is what the layout of the native frame is checked for, and the decoder writes the
pixels that the layout describes.
-/

import CameraRs.V4l2.Delivery

namespace CameraRs.V4l2

open Lib Lib.Fill

/-! ### One plane -/

section OnePlane

variable {target : Target} {format : Format} {config : CameraConfig} {first : Plane}
  {decoder : Converter target} {c : Coefficients} {bytes : Nat} {pixels : PixelFormat}
  {out image : List UInt8}

private theorem firstLayout_accepts (sized : config.width ≠ 0 ∧ config.height ≠ 0)
    (raw : pixels.isCompressed = false) (small : first.data.length < usizeLimit)
    (positive : 0 < bytes)
    (specs : (firstLayout config format pixels first).planeSpecs =
      some [⟨config.width.toNat, config.height.toNat, bytes⟩])
    (plane : (firstLayout config format pixels first).planes =
      [⟨0, first.data.length, first.stride, bytes⟩])
    (packed : pixels.isPacked422 = true → bytes = 2) :
    (firstLayout config format pixels first).validate first.data.length = .ok () ↔
      first.Holds (config.width.toNat * bytes) config.height.toNat := by
  have upright : (0 : UInt16) ∈ ([0, 90, 180, 270] : List UInt16) := by decide
  rw [FrameLayout.validate_packed ⟨sized.1, sized.2, upright⟩ raw small positive specs plane packed]
  exact ⟨fun ⟨row, extent⟩ => ⟨row, extent⟩, fun holds => ⟨holds.row, holds.extent⟩⟩

/-- The checks of a format with whole bytes for each pixel. -/
def decodeRows (video : VideoFormat) (first : Plane) (w h : Nat) (kernel : Nat → RgbFill Unit) :
    Decoding target Unit := do
  let bytes ← pixelBytes video
  let rowBytes ← orFail (checkedMul w bytes) (invalid "V4L2 row size overflow")
  ofExcept (checkRows first rowBytes h)
  onSnd (kernel rowBytes)

private theorem decodeRows_returns {video : VideoFormat} {w h : Nat} {kernel : Nat → RgbFill Unit}
    (known : video.bytesPerPixel = some bytes) (positive : 0 < w * bytes) (tall : 0 < h)
    (fits : w * bytes < usizeLimit) (small : first.data.length < usizeLimit)
    (holds : first.Holds (w * bytes) h) (writes : Writes (kernel (w * bytes)) image)
    (same : out.length = image.length) :
    Returns (decodeRows video first w h kernel) (decoder, out) () (decoder, image) := by
  have perPixel : Returns (pixelBytes video) (decoder, out) bytes (decoder, out) := by
    rw [pixelBytes, known]
    exact .pure
  exact .bind perPixel (.bind (.orFail (checkedMul_lt fits))
    (.bind (.ofExcept ((checkRows_ok positive tall small).mpr holds))
    (.onSnd (writes out same))))

private theorem decodeRows_refuses {video : VideoFormat} {w h : Nat} {kernel : Nat → RgbFill Unit}
    (known : video.bytesPerPixel = some bytes) (positive : 0 < w * bytes) (tall : 0 < h)
    (fits : w * bytes < usizeLimit) (small : first.data.length < usizeLimit)
    (short : ¬first.Holds (w * bytes) h) :
    ∃ e, Refuses (decodeRows video first w h kernel) (decoder, out) e := by
  have perPixel : Returns (pixelBytes video) (decoder, out) bytes (decoder, out) := by
    rw [pixelBytes, known]
    exact .pure
  obtain ⟨e, failed⟩ := checkRows_error positive tall small short
  exact ⟨e, .later perPixel (.later (.orFail (checkedMul_lt fits))
    (.here (.ofExcept failed)))⟩

structure Single (format : Format) (config : CameraConfig) (planes : List Plane)
    (first : Plane) : Prop where
  negotiated : Negotiated format config
  one : planes = [first]
  small : first.data.length < usizeLimit

theorem row_addressable {w : UInt32} (few : bytes ≤ 4) : w.toNat * bytes < usizeLimit := by
  have bound := w.toNat_lt
  have most : w.toNat * bytes ≤ w.toNat * 4 := Nat.mul_le_mul_left _ few
  unfold usizeLimit
  omega

private theorem nativeLayout_single (known : pixelFormat config.format = .ok pixels)
    (notMjpeg : pixels ≠ .mjpeg) (notNv12 : pixels ≠ .nv12) :
    nativeLayout config format [first] = .ok (firstLayout config format pixels first) := by
  unfold nativeLayout
  rw [known]
  simp only [List.head?_cons]
  change (checkPayload pixels first >>= fun _ => _) = _
  rw [checkPayload, if_neg notMjpeg]
  change (if pixels = .nv12 then _ else _) = _
  rw [if_neg notNv12]

theorem firstLayout_image {pixel : Nat → Nat → List UInt8}
    (sized : config.width ≠ 0 ∧ config.height ≠ 0)
    (same : ∀ row x, row < config.height.toNat → x < config.width.toNat →
      pixel row x = referencePixel (firstLayout config format pixels first) first.data c x row) :
    imageOf pixel config.width.toNat config.height.toNat =
      requestedImage (firstLayout config format pixels first) first.data c config.width.toNat
        config.height.toNat :=
  @requested_same (firstLayout config format pixels first) first.data
    (ConversionRequest.forLayout (firstLayout config format pixels first)) c pixel
    (toNat_pos sized.1) (toNat_pos sized.2) rfl rfl same

theorem Single.described {planes : List Plane} (kernel : Coefficients → Nat → RgbFill Unit)
    (single : Single format config planes first)
    (raw : config.format.isCompressed = false)
    (known : pixelFormat config.format = .ok pixels) (plain : pixels.isCompressed = false)
    (notNv12 : pixels ≠ .nv12) (perPixel : config.format.bytesPerPixel = some bytes)
    (few : 0 < bytes ∧ bytes ≤ 4)
    (specs : (firstLayout config format pixels first).planeSpecs =
      some [⟨config.width.toNat, config.height.toNat, bytes⟩])
    (plane : (firstLayout config format pixels first).planes =
      [⟨0, first.data.length, first.stride, bytes⟩])
    (packed : pixels.isPacked422 = true → bytes = 2)
    (yuv : pixels.isYuv = true ↔ Colored config)
    (branch : ∀ c, (decodeFrame config planes first c : Decoding target Unit) =
      decodeRows config.format first config.width.toNat config.height.toNat (kernel c))
    (writes : first.Holds (config.width.toNat * bytes) config.height.toNat →
      config.width.toNat * config.height.toNat * 3 < usizeLimit →
      ∀ c : Coefficients, c.Configured → Writes (kernel c (config.width.toNat * bytes))
        (requestedImage (firstLayout config format pixels first) first.data c
          config.width.toNat config.height.toNat)) :
    Described config format planes first (firstLayout config format pixels first) target := by
  obtain ⟨wide, tall, -, -⟩ := CameraConfig.validate_ok single.negotiated.valid raw
  have notMjpeg : pixels ≠ .mjpeg := by
    rintro rfl
    cases plain
  have flat : (planes.map Plane.data).flatten = first.data := by
    rw [single.one]
    simp
  have rowBytes : 0 < config.width.toNat * bytes := Nat.mul_pos (toNat_pos wide) few.1
  have fits := @row_addressable bytes config.width few.2
  have accepted := @firstLayout_accepts format config first bytes pixels ⟨wide, tall⟩ plain
    single.small few.1 specs plane packed
  rw [← flat] at accepted
  exact
    { made := by
        rw [single.one]
        exact nativeLayout_single known notMjpeg notNv12
      raw := plain
      size := ⟨rfl, rfl⟩
      color := rfl
      yuv := yuv
      whole := by
        rw [plane, flat]
        simp
      accepts := fun valid c configured decoder out length addressable => by
        have holds := accepted.mp valid
        rw [branch, flat]
        refine decodeRows_returns perPixel rowBytes (toNat_pos tall) fits single.small holds
          (writes holds (by rwa [← length]) c configured) ?_
        rw [length, length_requestedImage, ← Nat.mul_assoc, Nat.mul_comm config.height.toNat]
      refuses := fun invalid c decoder out => by
        rw [branch]
        exact decodeRows_refuses perPixel rowBytes (toNat_pos tall) fits single.small
          fun holds => invalid (accepted.mpr holds) }

/-! ### Packed 4:2:2 -/

theorem packed422_described {planes : List Plane}
    (single : Single format config planes first)
    (known : pixelFormat config.format = .ok pixels)
    (video : config.format = .yuyv ∧ pixels = .yuyv ∨ config.format = .uyvy ∧ pixels = .uyvy) :
    Described config format planes first (firstLayout config format pixels first) target := by
  have raw : config.format.isCompressed = false := by
    rcases video with ⟨video, -⟩ | ⟨video, -⟩ <;> rw [video] <;> rfl
  obtain ⟨wide, tall, even, -⟩ := CameraConfig.validate_ok single.negotiated.valid raw
  have evenWidth : config.width.toNat % 2 = 0 := even (by
    rcases video with ⟨video, -⟩ | ⟨video, -⟩
    · exact Or.inl video
    · exact Or.inr video)
  have layoutFormat : (firstLayout config format pixels first).format = .yuyv ∨
      (firstLayout config format pixels first).format = .uyvy := by
    rcases video with ⟨-, rfl⟩ | ⟨-, rfl⟩
    · exact Or.inl rfl
    · exact Or.inr rfl
  have order : (config.format == .uyvy) = (pixels == .uyvy) := by
    rcases video with ⟨video, rfl⟩ | ⟨video, rfl⟩ <;> rw [video] <;> rfl
  have plane : (firstLayout config format pixels first).planes =
      [⟨0, first.data.length, first.stride, 2⟩] := by
    rcases video with ⟨-, rfl⟩ | ⟨-, rfl⟩ <;> rfl
  refine Single.described (fun c _ => yuv422ToRgb target.cpu first.data config.width.toNat
    config.height.toNat first.stride (config.format == .uyvy) c) single raw known ?_ ?_ ?_
    (by omega) ?_ plane (fun _ => rfl) ?_ ?_ ?_
  · rcases video with ⟨-, rfl⟩ | ⟨-, rfl⟩ <;> rfl
  · rcases video with ⟨-, rfl⟩ | ⟨-, rfl⟩ <;> decide
  · rcases video with ⟨video, -⟩ | ⟨video, -⟩ <;> rw [video] <;> rfl
  · rcases video with ⟨-, rfl⟩ | ⟨-, rfl⟩ <;>
      simp [firstLayout, FrameLayout.packed, FrameLayout.planeSpecs, evenWidth]
  · unfold Colored
    rcases video with ⟨video, rfl⟩ | ⟨video, rfl⟩ <;> simp [video, PixelFormat.isYuv]
  · intro c
    unfold decodeFrame decodeRows
    rcases video with ⟨video, rfl⟩ | ⟨video, rfl⟩ <;> rw [video]
  · intro holds addressable c configured
    have cover : PackedCover 2 first.data config.width.toNat config.height.toNat first.stride :=
      { wide := toNat_pos wide
        tall := toNat_pos tall
        row := holds.row
        extent := holds.extent
        small := single.small }
    have bytes : first.data = slice first.data (0 + 0 * first.stride) first.data.length := by
      rw [Nat.zero_mul]
      exact slice_all.symm
    have image := @firstLayout_image format config first c pixels
      (packed422At c (pixels == .uyvy) first.data first.stride) ⟨wide, tall⟩
      fun row x bound inside => by
        have same := @packed422At_windows first.data c ⟨0, first.data.length, first.stride, 2⟩
          0 _ _ row x first.data _ (pixels == .uyvy) bytes rfl cover evenWidth bound inside
        rw [Nat.zero_add] at same
        exact same.trans (reference_packed422 plane layoutFormat).symm
    rw [order, ← image]
    exact (yuv422ToRgb_fills target.cpu configured cover evenWidth addressable).writes

/-! ### RGB and gray rows -/

theorem copyRows_writes {gray : Bool} {w h : Nat} {pixel : Nat → Nat → List UInt8}
    (rgb : IsRgbImage pixel) (tall : 0 < h) (holds : first.Holds (w * bytes) h)
    (rows : ∀ row, row * first.stride + w * bytes ≤ first.data.length →
      Writes (copyRow
        (slice first.data (row * first.stride) (row * first.stride + w * bytes)) gray)
        (blocks (pixel row) w)) :
    Writes (copyRows first w h (w * bytes) gray) (imageOf pixel w h) := by
  have extent := holds.extent
  refine (fills_image rgb fun row old bound fits => ?_).writes
  have earlier : row * first.stride ≤ (h - 1) * first.stride :=
    Nat.mul_le_mul_right _ (by omega)
  have line : slice (first.data.drop (row * first.stride)) 0 (w * bytes) =
      slice first.data (row * first.stride) (row * first.stride + w * bytes) := by
    rw [slice, slice, List.drop_zero, Nat.sub_zero, Nat.add_sub_cancel_left]
  refine .bind (.viewFrom (by omega)) (.bind (.view (Nat.zero_le _) ?_) ?_)
  · rw [List.length_drop]
    omega
  · rw [line]
    exact writes_image_row rgb (Nat.mul_assoc _ _ _) bound fits (rows row (by omega))

private theorem rgb_described {planes : List Plane} (single : Single format config planes first)
    (video : config.format = .rgb) :
    Described config format planes first (firstLayout config format .rgb8 first) target := by
  have raw : config.format.isCompressed = false := by rw [video]; rfl
  obtain ⟨wide, tall, -, -⟩ := CameraConfig.validate_ok single.negotiated.valid raw
  refine Single.described (fun _ rowBytes => copyRows first config.width.toNat
    config.height.toNat rowBytes (config.format == .gray)) single raw (by rw [video]; rfl) rfl
    (by decide) (by rw [video]; rfl) (by omega) rfl rfl (by decide) ?_ ?_ ?_
  · unfold Colored
    simp [video, PixelFormat.isYuv]
  · intro c
    unfold decodeFrame decodeRows
    rw [video]
  · intro holds _ c _
    rw [← firstLayout_image ⟨wide, tall⟩ fun _ _ _ _ => rfl, video]
    refine copyRows_writes (fun _ _ => isRgb_reference) (toNat_pos tall) holds fun row room => ?_
    rw [rgbRow_slice room, copyRow, if_neg (by decide)]
    intro old same
    have line : blocks (fun x => [first.data.getD (row * first.stride + x * 3) 0,
        first.data.getD (row * first.stride + x * 3 + 1) 0,
        first.data.getD (row * first.stride + x * 3 + 2) 0]) config.width.toNat =
        blocks (fun x => referencePixel (firstLayout config format .rgb8 first) first.data c x row)
          config.width.toNat := by
      refine blocks_congr fun x _ => ?_
      simp [referencePixel, sourceByte, firstLayout, FrameLayout.packed]
    rw [line]
    exact .copyFromSlice same.symm

private theorem gray_described {planes : List Plane} (single : Single format config planes first)
    (video : config.format = .gray) :
    Described config format planes first (firstLayout config format .gray8 first) target := by
  have raw : config.format.isCompressed = false := by rw [video]; rfl
  obtain ⟨wide, tall, -, -⟩ := CameraConfig.validate_ok single.negotiated.valid raw
  refine Single.described (fun _ rowBytes => copyRows first config.width.toNat
    config.height.toNat rowBytes (config.format == .gray)) single raw (by rw [video]; rfl) rfl
    (by decide) (by rw [video]; rfl) (by omega) rfl rfl (by decide) ?_ ?_ ?_
  · unfold Colored
    simp [video, PixelFormat.isYuv]
  · intro c
    unfold decodeFrame decodeRows
    rw [video]
  · intro holds _ c _
    rw [← firstLayout_image ⟨wide, tall⟩ fun _ _ _ _ => rfl, video]
    refine copyRows_writes (fun _ _ => isRgb_reference) (toNat_pos tall) holds fun row room => ?_
    rw [copyRow, if_pos (by decide)]
    have size : (slice first.data (row * first.stride)
        (row * first.stride + config.width.toNat * 1)).length = config.width.toNat := by
      rw [length_slice_add room, Nat.mul_one]
    have chunks := @Fills.chunks UInt8 UInt8 CameraError
      (fun x => referencePixel (firstLayout config format .gray8 first) first.data c x row) 3
      (slice first.data (row * first.stride) (row * first.stride + config.width.toNat * 1))
      (fun gray => fillWith gray) (fun x => isRgb_reference) (by omega) fun x inside old same => by
        rw [size] at inside
        match old, same with
        | [_, _, _], _ =>
            refine .fillWith ?_
            have value := @getD_slice _ first.data (row * first.stride)
              (row * first.stride + config.width.toNat * 1) x 0 (by omega)
            rw [List.getD_eq_getElem?_getD, List.getElem?_eq_getElem (by omega),
              Option.getD_some] at value
            rw [value]
            simp [referencePixel, sourceByte, firstLayout, FrameLayout.packed]
    rw [size] at chunks
    exact chunks.writes

end OnePlane

/-! ### NV12 -/

section Nv12

variable {target : Target} {format : Format} {config : CameraConfig} {planes : List Plane}
  {first second : Plane} {p q : PlaneLayout} {data : List UInt8}

def nv12Layout (config : CameraConfig) (format : Format) (first : Plane) (p q : PlaneLayout) :
    FrameLayout :=
  { firstLayout config format .nv12 first with planes := [p, q] }

/-- Where the rows of an NV12 frame lie in its payload. -/
structure Rows (data : List UInt8) (first second : Plane) (p q : PlaneLayout) : Prop where
  origin : p.offset = 0
  lumaStride : p.rowStride = first.stride ∧ p.pixelStride = 1
  chromaStride : q.rowStride = second.stride ∧ q.pixelStride = 2
  luma : ∃ stop, first.data = slice data 0 stop
  chroma : ∃ stop, second.data = slice data q.offset stop
  small : first.data.length < usizeLimit ∧ second.data.length < usizeLimit
  whole : max (p.offset + p.length) (q.offset + q.length) = data.length

theorem nv12_cover (wide : 0 < config.width.toNat) (tall : 0 < config.height.toNat)
    (even : config.width.toNat % 2 = 0) (small : first.data.length < usizeLimit ∧
      second.data.length < usizeLimit)
    (luma : first.Holds config.width.toNat config.height.toNat)
    (chroma : second.Holds config.width.toNat (divCeil2 config.height.toNat)) :
    SemiplanarCover ⟨first.data, second.data, first.stride, second.stride, false⟩
      config.width.toNat config.height.toNat := by
  have lumaRow := luma.row
  have lumaEnd := luma.extent
  have chromaRow := chroma.row
  have chromaEnd := chroma.extent
  have width : divCeil2 config.width.toNat * 2 = config.width.toNat := by
    rw [divCeil2_even even]
    omega
  exact
    { wide := wide
      tall := tall
      luma :=
        { step := Nat.one_pos
          row := show (config.width.toNat - 1) * 1 + 1 ≤ first.stride by omega
          extent := show (config.height.toNat - 1) * first.stride +
            ((config.width.toNat - 1) * 1 + 1) ≤ first.data.length by omega
          small := small.1 }
      chromaRow := show divCeil2 config.width.toNat * 2 ≤ second.stride by omega
      chroma := show (divCeil2 config.height.toNat - 1) * second.stride +
        divCeil2 config.width.toNat * 2 ≤ second.data.length by omega
      small := small.2 }

theorem nv12_image {c : Coefficients} (sized : config.width ≠ 0 ∧ config.height ≠ 0)
    (rows : Rows data first second p q)
    (cover : SemiplanarCover ⟨first.data, second.data, first.stride, second.stride, false⟩
      config.width.toNat config.height.toNat) :
    imageOf (semiplanarAt c ⟨first.data, second.data, first.stride, second.stride, false⟩)
        config.width.toNat config.height.toNat =
      requestedImage (nv12Layout config format first p q) data c config.width.toNat
        config.height.toNat := by
  obtain ⟨lumaStop, lumaBytes⟩ := rows.luma
  obtain ⟨chromaStop, chromaBytes⟩ := rows.chroma
  have luma : Window data p 0 0 ⟨first.data, first.stride, 1⟩ :=
    { bytes := ⟨lumaStop, by rw [rows.origin, Nat.zero_mul]; exact lumaBytes⟩
      rowStride := rows.lumaStride.1.symm
      pixelStride := rows.lumaStride.2.symm }
  have chroma : second.data = slice data (q.offset + 0 / 2 * q.rowStride) chromaStop := by
    rw [Nat.zero_div, Nat.zero_mul]
    exact chromaBytes
  refine @requested_same (nv12Layout config format first p q) data
    (ConversionRequest.forLayout (nv12Layout config format first p q)) c _ (toNat_pos sized.1)
    (toNat_pos sized.2) rfl rfl fun row x bound inside => ?_
  have same := @semiplanarAt_windows data c p q 0 _ _ row x
    ⟨first.data, second.data, first.stride, second.stride, false⟩ chromaStop luma chroma
    rows.chromaStride.1.symm rows.chromaStride.2 cover bound inside (by omega)
  rw [Nat.zero_add] at same
  exact same.trans (@reference_semiplanar (nv12Layout config format first p q) data c p q x row
    rfl (Or.inl rfl)).symm

theorem nv12_described (negotiated : Negotiated format config) (video : config.format = .nv12)
    (made : nativeLayout config format planes = .ok (nv12Layout config format first p q))
    (rows : Rows (planes.map Plane.data).flatten first second p q)
    (found : ∀ s : Converter target × List UInt8,
      Returns (chromaPlane planes first config.height.toNat) s second s)
    (accepted : (nv12Layout config format first p q).validate
        (planes.map Plane.data).flatten.length = .ok () ↔
      first.Holds config.width.toNat config.height.toNat ∧
        second.Holds config.width.toNat (divCeil2 config.height.toNat)) :
    Described config format planes first (nv12Layout config format first p q) target := by
  have raw : config.format.isCompressed = false := by rw [video]; rfl
  obtain ⟨wide, tall, -, even⟩ := CameraConfig.validate_ok negotiated.valid raw
  have chromaTall := divCeil2_pos (toNat_pos tall)
  exact
    { made := made
      raw := rfl
      size := ⟨rfl, rfl⟩
      color := rfl
      yuv := by
        unfold Colored
        simp [video, nv12Layout, firstLayout, FrameLayout.packed, PixelFormat.isYuv]
      whole := by
        change ([p, q].map fun p => p.offset + p.length).max?.getD 0 = _
        rw [← rows.whole]
        rfl
      accepts := fun valid c configured decoder out length addressable => by
        obtain ⟨luma, chroma⟩ := accepted.mp valid
        have cover := nv12_cover (toNat_pos wide) (toNat_pos tall) (even video).1 rows.small
          luma chroma
        have fits : config.width.toNat * config.height.toNat * 3 < usizeLimit := by omega
        have written := (yuv420spToRgb_fills target.cpu configured cover fits).writes
        rw [@nv12_image format config first second p q (planes.map Plane.data).flatten c
          ⟨wide, tall⟩ rows cover] at written
        unfold decodeFrame
        rw [video]
        refine .bind (found _) (.bind (.ofExcept ((checkRows_ok (toNat_pos wide)
          (toNat_pos tall) rows.small.1).mpr luma)) (.bind (.ofExcept ((checkRows_ok
          (toNat_pos wide) chromaTall rows.small.2).mpr chroma)) (.onSnd (written out ?_))))
        rw [length, length_requestedImage, ← Nat.mul_assoc, Nat.mul_comm config.height.toNat]
      refuses := fun invalid c decoder out => by
        unfold decodeFrame
        rw [video]
        by_cases luma : first.Holds config.width.toNat config.height.toNat
        · have chroma : ¬second.Holds config.width.toNat (divCeil2 config.height.toNat) :=
            fun chroma => invalid (accepted.mpr ⟨luma, chroma⟩)
          obtain ⟨e, failed⟩ := checkRows_error (toNat_pos wide) chromaTall rows.small.2 chroma
          exact ⟨e, .later (found _) (.later (.ofExcept ((checkRows_ok (toNat_pos wide)
            (toNat_pos tall) rows.small.1).mpr luma)) (.here (.ofExcept failed)))⟩
        · obtain ⟨e, failed⟩ := checkRows_error (toNat_pos wide) (toNat_pos tall) rows.small.1
            luma
          exact ⟨e, .later (found _) (.here (.ofExcept failed))⟩ }

theorem nv12_accepts {length : Nat} (sized : config.width ≠ 0 ∧ config.height ≠ 0)
    (even : config.width.toNat % 2 = 0) (small : length < usizeLimit)
    (strides : p.pixelStride = 1 ∧ q.pixelStride = 2)
    (inside : p.offset + p.length ≤ length ∧ q.offset + q.length ≤ length) :
    (nv12Layout config format first p q).validate length = .ok () ↔
      (config.width.toNat ≤ p.rowStride ∧
        (config.height.toNat - 1) * p.rowStride + config.width.toNat ≤ p.length) ∧
      (config.width.toNat ≤ q.rowStride ∧
        (divCeil2 config.height.toNat - 1) * q.rowStride + config.width.toNat ≤ q.length) := by
  have wide := toNat_pos sized.1
  have halves : (divCeil2 config.width.toNat - 1) * 2 + 2 = config.width.toNat := by
    rw [divCeil2_even even]
    omega
  have whole : (config.width.toNat - 1) * 1 + 1 = config.width.toNat := by omega
  rw [@FrameLayout.validate_two_iff (nv12Layout config format first p q) length p q
    ⟨config.width.toNat, config.height.toNat, 1⟩
    ⟨divCeil2 config.width.toNat, divCeil2 config.height.toNat, 2⟩
    ⟨sized.1, sized.2, show (0 : UInt16) ∈ ([0, 90, 180, 270] : List UInt16) by decide⟩ rfl rfl
    small rfl rfl]
  constructor
  · rintro ⟨⟨-, luma⟩, -, chroma⟩
    have lumaRow := luma.row
    have lumaEnd := luma.extent
    have chromaRow := chroma.row
    have chromaEnd := chroma.extent
    simp only [FrameLayout.rowBytes, strides.1, whole] at lumaRow lumaEnd
    simp only [FrameLayout.rowBytes, strides.2, halves] at chromaRow chromaEnd
    exact ⟨⟨lumaRow, lumaEnd⟩, chromaRow, chromaEnd⟩
  · rintro ⟨⟨lumaRow, lumaEnd⟩, chromaRow, chromaEnd⟩
    refine ⟨⟨by omega, inside.1, Nat.le_of_eq strides.1.symm, ?_, ?_⟩, by omega, inside.2,
      Nat.le_of_eq strides.2.symm, ?_, ?_⟩
    all_goals simp only [FrameLayout.rowBytes, strides.1, strides.2, whole, halves]
    all_goals assumption

private theorem twoPlanes_described (negotiated : Negotiated format config)
    (video : config.format = .nv12)
    (small : first.data.length + second.data.length < usizeLimit) :
    Described config format [first, second] first
      (nv12Layout config format first ⟨0, first.data.length, first.stride, 1⟩
        ⟨first.data.length, second.data.length, second.stride, 2⟩) target := by
  have raw : config.format.isCompressed = false := by rw [video]; rfl
  obtain ⟨wide, tall, -, even⟩ := CameraConfig.validate_ok negotiated.valid raw
  have flat : ([first, second].map Plane.data).flatten = first.data ++ second.data := by simp
  have length : ([first, second].map Plane.data).flatten.length =
      first.data.length + second.data.length := by rw [flat, List.length_append]
  refine @nv12_described target format config [first, second] first second _ _ negotiated video
    ?_ ?_ ?_ ?_
  · unfold nativeLayout
    rw [video]
    rfl
  · rw [flat]
    exact
      { origin := rfl
        lumaStride := ⟨rfl, rfl⟩
        chromaStride := ⟨rfl, rfl⟩
        luma := ⟨first.data.length, by simp [slice]⟩
        chroma := ⟨first.data.length + second.data.length, by simp [slice]⟩
        small := ⟨by omega, by omega⟩
        whole := by
          rw [List.length_append]
          dsimp only
          omega }
  · intro s
    unfold chromaPlane
    rw [if_pos (show [first, second].length = 2 from rfl)]
    exact .readSome rfl
  · rw [nv12_accepts ⟨wide, tall⟩ (even video).1 (by omega) ⟨rfl, rfl⟩
      ⟨by rw [length]; dsimp only; omega, by rw [length]⟩]
    constructor
    · rintro ⟨luma, chroma⟩
      exact ⟨⟨luma.1, luma.2⟩, chroma.1, chroma.2⟩
    · rintro ⟨luma, chroma⟩
      exact ⟨⟨luma.row, luma.extent⟩, chroma.row, chroma.extent⟩

private theorem withChroma_cut (layout : FrameLayout) {yLen : Nat}
    (cut : (checkedMul first.stride layout.height.toNat).filter
      (fun n => decide (n < first.data.length)) = some yLen) :
    withChroma layout first [first] = .ok { layout with
      planes := (layout.planes.modify 0 fun plane => { plane with length := yLen }) ++
        [⟨yLen, first.data.length - yLen, first.stride, 2⟩] } := by
  simp only [withChroma, cut]

private theorem withChroma_short (layout : FrameLayout)
    (cut : (checkedMul first.stride layout.height.toNat).filter
      (fun n => decide (n < first.data.length)) = none) :
    withChroma layout first [first] = .error (.invalidFrame "Truncated V4L2 NV12") := by
  simp only [withChroma, cut]

private theorem onePlane_described (negotiated : Negotiated format config)
    (video : config.format = .nv12) (small : first.data.length < usizeLimit)
    (room : first.stride * config.height.toNat < first.data.length) :
    Described config format [first] first
      (nv12Layout config format first
        ⟨0, first.stride * config.height.toNat, first.stride, 1⟩
        ⟨first.stride * config.height.toNat,
          first.data.length - first.stride * config.height.toNat, first.stride, 2⟩) target := by
  have raw : config.format.isCompressed = false := by rw [video]; rfl
  obtain ⟨wide, tall, -, even⟩ := CameraConfig.validate_ok negotiated.valid raw
  have product : checkedMul first.stride config.height.toNat =
      some (first.stride * config.height.toNat) := checkedMul_lt (by omega)
  have flat : ([first].map Plane.data).flatten = first.data := by simp
  have length : ([first].map Plane.data).flatten.length = first.data.length := by rw [flat]
  have rows : (config.height.toNat - 1) * first.stride + first.stride =
      first.stride * config.height.toNat := by
    rw [← Nat.succ_mul, Nat.mul_comm]
    congr 1
    have := toNat_pos tall
    omega
  refine @nv12_described target format config [first] first
    ⟨first.data.drop (first.stride * config.height.toNat), first.stride⟩ _ _ negotiated video
    ?_ ?_ ?_ ?_
  · unfold nativeLayout
    rw [video]
    refine withChroma_cut (firstLayout config format .nv12 first) ?_
    change (checkedMul first.stride config.height.toNat).filter _ = _
    rw [product, Option.filter_some, if_pos (by simpa using room)]
  · rw [flat]
    exact
      { origin := rfl
        lumaStride := ⟨rfl, rfl⟩
        chromaStride := ⟨rfl, rfl⟩
        luma := ⟨first.data.length, slice_all.symm⟩
        chroma := ⟨first.data.length, by
          rw [slice, List.take_of_length_le (by rw [List.length_drop])]⟩
        small := ⟨small, by rw [List.length_drop]; omega⟩
        whole := by
          dsimp only
          omega }
  · intro s
    unfold chromaPlane
    rw [if_neg (by simp)]
    exact .bind (.orFail product) (.bind (.failIf (by omega)) .pure)
  · rw [nv12_accepts ⟨wide, tall⟩ (even video).1 (by omega) ⟨rfl, rfl⟩
      ⟨by rw [length]; dsimp only; omega, by rw [length]; dsimp only; omega⟩]
    have chromaLength : (first.data.drop (first.stride * config.height.toNat)).length =
        first.data.length - first.stride * config.height.toNat := List.length_drop
    constructor
    · rintro ⟨luma, chroma⟩
      have lumaEnd : (config.height.toNat - 1) * first.stride + config.width.toNat ≤
          first.stride * config.height.toNat := luma.2
      exact ⟨⟨luma.1, by omega⟩, chroma.1, by rw [chromaLength]; exact chroma.2⟩
    · rintro ⟨luma, chroma⟩
      have lumaRow := luma.row
      have chromaEnd := chroma.extent
      rw [chromaLength] at chromaEnd
      have lumaEnd : (config.height.toNat - 1) * first.stride + config.width.toNat ≤
          first.stride * config.height.toNat := by omega
      exact ⟨⟨lumaRow, lumaEnd⟩, chroma.row, chromaEnd⟩

private theorem nativeLayout_truncated (video : config.format = .nv12)
    (short : ¬first.stride * config.height.toNat < first.data.length) :
    ∃ e, nativeLayout config format [first] = .error e := by
  have none_left : (checkedMul first.stride config.height.toNat).filter
      (fun n => decide (n < first.data.length)) = none := by
    unfold checkedMul
    split
    · rw [Option.filter_some, if_neg (by simpa using short)]
    · rfl
  refine ⟨.invalidFrame "Truncated V4L2 NV12", ?_⟩
  unfold nativeLayout
  rw [video]
  exact withChroma_short (firstLayout config format .nv12 first) none_left

private theorem decodeFrame_truncated (negotiated : Negotiated format config)
    (video : config.format = .nv12)
    (short : ¬first.stride * config.height.toNat < first.data.length) {c : Coefficients}
    {s : Converter target × List UInt8} :
    ∃ e, Refuses (decodeFrame config [first] first c) s e := by
  have raw : config.format.isCompressed = false := by rw [video]; rfl
  obtain ⟨wide, tall, -, -⟩ := CameraConfig.validate_ok negotiated.valid raw
  unfold decodeFrame
  rw [video]
  have single : (chromaPlane [first] first config.height.toNat :
      Decoding target Plane) = (do
        let offset ← orFail (checkedMul first.stride config.height.toNat)
          (invalid "NV12 plane offset overflow")
        failIf (first.data.length < offset) (invalid "Truncated NV12 Y plane")
        pure { data := first.data.drop offset, stride := first.stride }) := if_neg (by simp)
  dsimp only
  rw [single]
  by_cases fits : first.stride * config.height.toNat < usizeLimit
  · by_cases inside : first.data.length < first.stride * config.height.toNat
    · exact ⟨_, .here (.later (.orFail (checkedMul_lt fits)) (.here (.failIf inside)))⟩
    · have nothing : first.data.drop (first.stride * config.height.toNat) = [] :=
        List.drop_eq_nil_of_le (by omega)
      have empty : ¬Plane.Holds ⟨first.data.drop (first.stride * config.height.toNat),
          first.stride⟩ config.width.toNat (divCeil2 config.height.toNat) := by
        intro holds
        have extent := holds.extent
        have positive := toNat_pos wide
        rw [nothing] at extent
        change _ ≤ 0 at extent
        omega
      have found : Returns (do
          let offset ← orFail (checkedMul first.stride config.height.toNat)
            (invalid "NV12 plane offset overflow")
          failIf (first.data.length < offset) (invalid "Truncated NV12 Y plane")
          pure { data := first.data.drop offset, stride := first.stride } :
            Decoding target Plane) s
          ⟨first.data.drop (first.stride * config.height.toNat), first.stride⟩ s :=
        .bind (.orFail (checkedMul_lt fits)) (.bind (.failIf inside) .pure)
      cases luma : checkRows first config.width.toNat config.height.toNat with
      | error e => exact ⟨e, .later found (.here (.ofExcept rfl))⟩
      | ok _ =>
          obtain ⟨e, failed⟩ := checkRows_error (toNat_pos wide) (divCeil2_pos (toNat_pos tall))
            (show (first.data.drop _).length < usizeLimit by rw [List.length_drop]; omega) empty
          exact ⟨e, .later found (.later (.ofExcept rfl) (.here (.ofExcept failed)))⟩
  · have overflow : checkedMul first.stride config.height.toNat = none := if_neg fits
    exact ⟨_, .here (.here (.orFail overflow))⟩

end Nv12

/-! ### Every negotiated frame -/

section Delivery

variable {target : Target} {format : Format} {config : CameraConfig} {planes : List Plane}
  {first : Plane} {decoder : Converter target} {converter : RgbConverter target}
  {out : List UInt8}

private theorem truncated_agree (negotiated : Negotiated format config)
    (dequeued : Dequeued format planes) (found : planes.head? = some first)
    (length : out.length = config.width.toNat * config.height.toNat * 3)
    (addressable : out.length < usizeLimit)
    (unmade : ∃ e, nativeLayout config format planes = .error e)
    (refuses : ∀ (c : Coefficients) (s : Converter target × List UInt8),
      ∃ e, Refuses (decodeFrame config planes first c) s e) :
    Agree format config planes decoder converter out := by
  obtain ⟨e', failed⟩ := unmade
  have native : deliverNative format config planes (converter, out) =
      some (.error e', converter, out) := Refuses.here (.ofExcept failed)
  cases known : (openDecoder format config : CameraResult (Converter target)) with
  | error e => exact Or.inr ⟨e, decoder, e', Refuses.here (.ofExcept known), native⟩
  | ok opened =>
      have rgb := @deliverRgb_converts target format config planes first decoder out opened
        negotiated dequeued found length addressable known
      obtain ⟨e, refused⟩ := refuses opened.coefficients (opened, out)
      exact Or.inr ⟨e, opened, e', rgb.trans refused, native⟩

private theorem negotiated_agree (used : converter.Used) (negotiated : Negotiated format config)
    (raw : config.format.isCompressed = false) (dequeued : Dequeued format planes)
    (length : out.length = config.width.toNat * config.height.toNat * 3)
    (addressable : out.length < usizeLimit) :
    Agree format config planes decoder converter out := by
  obtain ⟨wide, tall, -, -⟩ := CameraConfig.validate_ok negotiated.valid raw
  have positive : 0 < out.length := by
    rw [length]
    exact Nat.mul_pos (Nat.mul_pos (toNat_pos wide) (toNat_pos tall)) (by omega)
  have half : 2 ^ 63 + 2 ^ 63 = usizeLimit := rfl
  have one_plane (one : planes.length = 1) : ∃ first, planes = [first] ∧
      first.data.length < usizeLimit := by
    obtain ⟨first, rfl⟩ := List.length_eq_one_iff.mp one
    have slice := dequeued.slices first List.mem_cons_self
    exact ⟨first, rfl, by omega⟩
  have counted := dequeued.count
  have single {first : Plane} {pixels : PixelFormat} (planes_eq : planes = [first])
      (small : first.data.length < usizeLimit)
      (described : Described config format planes first
        (firstLayout config format pixels first) target) :
      Agree format config planes decoder converter out := by
    refine described.agree used negotiated dequeued (by rw [planes_eq]; rfl) ?_ length positive
      addressable
    rw [planes_eq]
    simpa using small
  cases video : config.format with
  | mjpeg | h264 =>
      rw [video] at raw
      cases raw
  | yuyv =>
      obtain ⟨first, eq, small⟩ := one_plane (by have := negotiated.planes; simp_all)
      exact single eq small (packed422_described ⟨negotiated, eq, small⟩ (by rw [video]; rfl)
        (Or.inl ⟨video, rfl⟩))
  | uyvy =>
      obtain ⟨first, eq, small⟩ := one_plane (by have := negotiated.planes; simp_all)
      exact single eq small (packed422_described ⟨negotiated, eq, small⟩ (by rw [video]; rfl)
        (Or.inr ⟨video, rfl⟩))
  | rgb =>
      obtain ⟨first, eq, small⟩ := one_plane (by have := negotiated.planes; simp_all)
      exact single eq small (rgb_described ⟨negotiated, eq, small⟩ video)
  | gray =>
      obtain ⟨first, eq, small⟩ := one_plane (by have := negotiated.planes; simp_all)
      exact single eq small (gray_described ⟨negotiated, eq, small⟩ video)
  | nv12 =>
      rcases negotiated.planes with one | ⟨-, two⟩
      · obtain ⟨first, rfl, small⟩ := one_plane (by omega)
        by_cases room : first.stride * config.height.toNat < first.data.length
        · refine (onePlane_described negotiated video small room).agree used negotiated dequeued
            rfl ?_ length positive addressable
          simpa using small
        · exact truncated_agree negotiated dequeued rfl length addressable
            (nativeLayout_truncated video room)
            fun c s => decodeFrame_truncated negotiated video room
      · obtain ⟨first, second, rfl⟩ := List.length_eq_two.mp (counted.trans two)
        have firstSlice := dequeued.slices first (by simp)
        have secondSlice := dequeued.slices second (by simp)
        have small : first.data.length + second.data.length < usizeLimit := by omega
        refine (twoPlanes_described negotiated video small).agree used negotiated dequeued rfl ?_
          length positive addressable
        simpa using small

/-- For every raw format the two deliveries succeed on the same frames, and with the
same bytes. -/
theorem deliveries_agree (used : converter.Used)
    (admitted : configFromFormat format = .ok config)
    (raw : config.format.isCompressed = false)
    (count : planes.length = format.planes.toNat)
    (slices : ∀ plane ∈ planes, plane.data.length < 2 ^ 63)
    (length : out.length = config.width.toNat * config.height.toNat * 3)
    (addressable : out.length < usizeLimit) :
    ∃ rgb decoder' image native converter' image',
      deliverRgb format config planes (decoder, out) = some (rgb, decoder', image) ∧
      deliverNative format config planes (converter, out) = some (native, converter', image') ∧
      (rgb = .ok () ↔ native = .ok ()) ∧ (rgb = .ok () → image = image') := by
  have agree := @negotiated_agree target format config planes decoder converter out used
    (configFromFormat_ok admitted) raw ⟨count, slices⟩ length addressable
  rcases agree with ⟨image, decoder', converter', rgb, native⟩ |
    ⟨e, decoder', e', rgb, native⟩
  · exact ⟨_, decoder', image, _, converter', image, rgb, native, Iff.rfl, fun _ => rfl⟩
  · exact ⟨_, decoder', out, _, converter, out, rgb, native, by simp, fun _ => rfl⟩

/-- What the driver reports for 4x2 NV12 in limited BT.709, in one buffer. -/
def nv12Format : Format :=
  { fourcc := 0x3231564e
    width := 4
    height := 2
    fps := 30
    fpsDenominator := 1
    planes := 1
    ycbcr := 2
    fullRange := 0 }

def nv12Config : CameraConfig :=
  { format := .nv12, width := 4, height := 2, fps := 30 }

theorem deliveries_agree_nv12 :
    ∃ rgb decoder' image native converter' image',
      deliverRgb nv12Format nv12Config [⟨List.replicate 15 90, 5⟩]
          (({ coefficients := bt601FullCoefficients } : Converter Target.withoutJpeg),
            List.replicate 24 0) = some (rgb, decoder', image) ∧
      deliverNative nv12Format nv12Config [⟨List.replicate 15 90, 5⟩]
          (({} : RgbConverter Target.withoutJpeg), List.replicate 24 0) =
        some (native, converter', image') ∧
      (rgb = .ok () ↔ native = .ok ()) ∧ (rgb = .ok () → image = image') :=
  deliveries_agree RgbConverter.used_new (by decide +kernel) rfl rfl (by decide) (by decide)
    (by decide)

end Delivery

end CameraRs.V4l2

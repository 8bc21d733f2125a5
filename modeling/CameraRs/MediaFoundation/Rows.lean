/-
The rows of a Media Foundation buffer: what the decoder writes for the formats with whole
bytes for each pixel, with either sign of the stride.
-/

import CameraRs.MediaFoundation.Surface

namespace CameraRs.MediaFoundation

open Lib Lib.Fill

/-! ### Groups of three bytes -/

private theorem length_lt_three {source : List UInt8}
    (short : ∀ first second third rest, source = first :: second :: third :: rest → False) :
    source.length < 3 := by
  rcases source with _ | ⟨first, _ | ⟨second, _ | ⟨third, rest⟩⟩⟩
  · simp
  · simp
  · simp
  · exact (short first second third rest rfl).elim

theorem chunks3_short {source : List UInt8}
    (short : ∀ first second third rest, source = first :: second :: third :: rest → False) :
    chunks3 source = [] := by
  rcases source with _ | ⟨first, _ | ⟨second, _ | ⟨third, rest⟩⟩⟩
  · rfl
  · rfl
  · rfl
  · exact (short first second third rest rfl).elim

theorem chunks3_length (source : List UInt8) : (chunks3 source).length = source.length / 3 := by
  induction source using chunks3.induct with
  | case1 first second third rest ih =>
      simp only [chunks3, List.length_cons, ih]
      omega
  | case2 source short =>
      rw [chunks3_short short, Nat.div_eq_of_lt (length_lt_three short)]
      rfl

theorem chunks3_getElem (source : List UInt8) {k : Nat} (bound : k < (chunks3 source).length) :
    (chunks3 source)[k] =
      (source.getD (k * 3) 0, source.getD (k * 3 + 1) 0, source.getD (k * 3 + 2) 0) := by
  induction source using chunks3.induct generalizing k with
  | case1 first second third rest ih =>
      cases k with
      | zero => rfl
      | succ k =>
          have inner : k < (chunks3 rest).length := Nat.lt_of_succ_lt_succ bound
          have later := ih inner
          simp only [List.getD_eq_getElem?_getD] at later ⊢
          simpa only [chunks3, List.getElem_cons_succ, Nat.succ_mul,
            show k * 3 + 3 + 1 = k * 3 + 1 + 3 from rfl, show k * 3 + 3 + 2 = k * 3 + 2 + 3 from rfl,
            List.getElem?_cons_succ] using later
  | case2 source short =>
      simp [chunks3_short short] at bound

/-! ### One row -/

section Row

variable {cpu : Cpu} {data : List UInt8} {config : CameraConfig} {stride : Int32}
  {color : ColorInfo} {video : VideoFormat} {pixels : PixelFormat} {bytes r : Nat}
  {c : Coefficients}

theorem packedCoefficients_found (packed : Packed video pixels bytes) {request : ConversionRequest}
    (own : request.colorOverride = none)
    (found : coefficientsFor (bufferLayout data config stride color pixels) request = .ok c) :
    packedCoefficients video color = .ok (if pixels.isYuv then some c else none) := by
  have same : request.color (bufferLayout data config stride color pixels) = color := by
    rw [ConversionRequest.color, own]
    rfl
  unfold coefficientsFor at found
  rw [same] at found
  cases packed with
  | yuyv | uyvy =>
      have known : colorCoefficients color = .ok c := found
      simp [packedCoefficients, known, PixelFormat.isYuv, Except.map]
  | rgb | gray => rfl

private theorem imageOf_one {pixel : Nat → Nat → List UInt8} {width : Nat} :
    imageOf pixel width 1 = blocks (pixel 0) width := by
  simp [imageOf, blocks]

theorem packed422_pixel {uyvy : Bool} {x : Nat}
    (format : pixels = .yuyv ∧ uyvy = false ∨ pixels = .uyvy ∧ uyvy = true) :
    referencePixel (bufferLayout data config stride color pixels) data c x r =
      rgbOf c (sourceByte data ⟨0, data.length, pitch stride, 2⟩ r x (if uyvy then 1 else 0))
        (sourceByte data ⟨0, data.length, pitch stride, 2⟩ r (x / 2 * 2) (if uyvy then 0 else 1))
        (sourceByte data ⟨0, data.length, pitch stride, 2⟩ r (x / 2 * 2)
          (if uyvy then 2 else 3)) := by
  rcases format with ⟨rfl, rfl⟩ | ⟨rfl, rfl⟩
  · rfl
  · rfl

theorem packed422Row_writes {uyvy : Bool} (configured : c.Configured)
    (wide : 0 < config.width.toNat) (even : config.width.toNat % 2 = 0)
    (row : config.width.toNat * 2 ≤ pitch stride)
    (inside : r * pitch stride + config.width.toNat * 2 ≤ data.length)
    (small : data.length < usizeLimit)
    (format : pixels = .yuyv ∧ uyvy = false ∨ pixels = .uyvy ∧ uyvy = true) :
    Writes (yuv422ToRgb cpu
        (slice data (r * pitch stride) (r * pitch stride + config.width.toNat * 2))
        config.width.toNat 1 (config.width.toNat * 2) uyvy c)
      (blocks (fun x => referencePixel (bufferLayout data config stride color pixels) data c x r)
        config.width.toNat) := by
  have size := length_slice_add inside
  have cover (step : Nat) (enough : config.width.toNat * 2 ≤ step) : PackedCover 2
      (slice data (r * pitch stride) (r * pitch stride + config.width.toNat * 2))
      config.width.toNat 1 step :=
    { wide := wide
      tall := Nat.one_pos
      row := enough
      extent := by omega
      small := by omega }
  have addressable : config.width.toNat * 1 * 3 < usizeLimit := by
    have bound := config.width.toNat_lt
    unfold usizeLimit
    omega
  have written := (@yuv422ToRgb_fills c uyvy _ config.width.toNat 1 _ cpu configured
    (cover (config.width.toNat * 2) (Nat.le_refl _)) even addressable).writes
  have line : blocks (packed422At c uyvy
        (slice data (r * pitch stride) (r * pitch stride + config.width.toNat * 2))
        (config.width.toNat * 2) 0) config.width.toNat =
      blocks (fun x => referencePixel (bufferLayout data config stride color pixels) data c x r)
        config.width.toNat := by
    refine blocks_congr fun x column => ?_
    have shown := @packed422At_windows data c ⟨0, data.length, pitch stride, 2⟩ r
      config.width.toNat 1 0 x _ _ uyvy (by rw [Nat.zero_add]) rfl (cover (pitch stride) row) even
      Nat.one_pos column
    have here : packed422At c uyvy
          (slice data (r * pitch stride) (r * pitch stride + config.width.toNat * 2))
          (config.width.toNat * 2) 0 x = packed422At c uyvy
          (slice data (r * pitch stride) (r * pitch stride + config.width.toNat * 2))
          (pitch stride) 0 x := by
      rw [packed422At, packed422At, Nat.zero_mul, Nat.zero_mul]
    rw [here]
    exact shown.trans (packed422_pixel format).symm
  rw [imageOf_one, line] at written
  exact written

theorem bgrRow_writes (inside : r * pitch stride + config.width.toNat * 3 ≤ data.length) :
    Writes (forChunks 3 (chunks3
        (slice data (r * pitch stride) (r * pitch stride + config.width.toNat * 3))) writeBgr)
      (blocks (fun x => referencePixel (bufferLayout data config stride color .bgr8) data c x r)
        config.width.toNat) := by
  have size := length_slice_add inside
  have count : (chunks3 (slice data (r * pitch stride)
      (r * pitch stride + config.width.toNat * 3))).length = config.width.toNat := by
    rw [chunks3_length, size, Nat.mul_div_cancel _ (by omega)]
  have chunks := @Fills.chunks UInt8 (UInt8 × UInt8 × UInt8) CameraError
    (fun x => referencePixel (bufferLayout data config stride color .bgr8) data c x r) 3
    (chunks3 (slice data (r * pitch stride) (r * pitch stride + config.width.toNat * 3)))
    writeBgr (fun x => isRgb_reference) (by omega) fun x column old same => by
      rw [chunks3_getElem _ column]
      rw [count] at column
      rw [isRgb_reference] at same
      have pixel : referencePixel (bufferLayout data config stride color .bgr8) data c x r =
          [data.getD (r * pitch stride + x * 3 + 2) 0, data.getD (r * pitch stride + x * 3 + 1) 0,
            data.getD (r * pitch stride + x * 3) 0] := by
        simp [referencePixel, sourceByte, bufferLayout, FrameLayout.packed]
      rw [pixel, writeBgr, getD_slice (by omega), getD_slice (by omega), getD_slice (by omega),
        ← Nat.add_assoc, ← Nat.add_assoc]
      exact .copyFromSlice same.symm
  rw [count] at chunks
  exact chunks.writes

theorem grayRow_writes (inside : r * pitch stride + config.width.toNat * 1 ≤ data.length) :
    Writes (forChunks 3
        (slice data (r * pitch stride) (r * pitch stride + config.width.toNat * 1))
        fun gray => fillWith gray : RgbFill Unit)
      (blocks (fun x => referencePixel (bufferLayout data config stride color .gray8) data c x r)
        config.width.toNat) := by
  have size := length_slice_add inside
  have chunks := @Fills.chunks UInt8 UInt8 CameraError
    (fun x => referencePixel (bufferLayout data config stride color .gray8) data c x r) 3
    (slice data (r * pitch stride) (r * pitch stride + config.width.toNat * 1))
    (fun gray => fillWith gray) (fun x => isRgb_reference) (by omega) fun x column old same => by
      rw [size, Nat.mul_one] at column
      have value := @getD_slice _ data (r * pitch stride)
        (r * pitch stride + config.width.toNat * 1) x 0 (by omega)
      rw [List.getD_eq_getElem?_getD, List.getElem?_eq_getElem (by omega), Option.getD_some] at value
      rw [value]
      refine .fillWith ?_
      rw [same, isRgb_reference]
      simp [referencePixel, sourceByte, bufferLayout, FrameLayout.packed]
  rw [size, Nat.mul_one] at chunks
  rw [Nat.mul_one]
  exact chunks.writes

theorem decodeRow_writes (packed : Packed video pixels bytes) (configured : c.Configured)
    (wide : 0 < config.width.toNat) (even : pixels.isPacked422 → config.width.toNat % 2 = 0)
    (row : config.width.toNat * bytes ≤ pitch stride)
    (inside : r * pitch stride + config.width.toNat * bytes ≤ data.length)
    (small : data.length < usizeLimit) :
    Writes (decodeRow cpu video (if pixels.isYuv then some c else none)
        (slice data (r * pitch stride) (r * pitch stride + config.width.toNat * bytes))
        config.width.toNat (config.width.toNat * bytes))
      (blocks (fun x => referencePixel (bufferLayout data config stride color pixels) data c x r)
        config.width.toNat) := by
  cases packed with
  | yuyv => exact packed422Row_writes configured wide (even rfl) row inside small (Or.inl ⟨rfl, rfl⟩)
  | uyvy => exact packed422Row_writes configured wide (even rfl) row inside small (Or.inr ⟨rfl, rfl⟩)
  | rgb => exact bgrRow_writes inside
  | gray => exact grayRow_writes inside

private theorem decodeRow_odd (packed : Packed video pixels bytes) {source out : List UInt8}
    (small : source.length < usizeLimit)
    (odd : ¬(pixels.isPacked422 → config.width.toNat % 2 = 0)) {rowBytes : Nat} :
    Fails (decodeRow cpu video (if pixels.isYuv then some c else none) source config.width.toNat
      rowBytes) out := by
  cases packed with
  | yuyv | uyvy => exact yuv422ToRgb_fails cpu small fun fine => odd fun _ => fine.2.1
  | rgb | gray => exact absurd (fun isPacked => absurd isPacked Bool.false_ne_true) odd

end Row

/-! ### All rows -/

section Rows

variable {cpu : Cpu} {data out : List UInt8} {config : CameraConfig} {stride : Int32}
  {color : ColorInfo} {pixels : PixelFormat} {bytes : Nat} {c : Coefficients}

theorem bufferRow_some {height row : Nat} (bound : row < height) :
    bufferRow stride height row =
      some (if stride.toInt < 0 then height - 1 - row else row) := by
  unfold bufferRow
  split
  · rw [flipped, checkedSub, if_pos (by omega), Option.bind_some, checkedSub, if_pos (by omega)]
    congr 1
    omega
  · rfl

theorem getSlice_some {start size : Nat} (inside : start + size ≤ data.length)
    (small : data.length < usizeLimit) :
    getSlice data start (min (start + size) (usizeLimit - 1)) =
      some (slice data start (start + size)) := by
  rw [Nat.min_eq_left (by omega), getSlice, if_pos ⟨by omega, inside⟩]

theorem getSlice_none {start size : Nat} (short : data.length < start + size)
    (small : data.length < usizeLimit - 1) :
    getSlice data start (min (start + size) (usizeLimit - 1)) = none := by
  rw [getSlice, if_neg]
  omega

section Round

variable {row sourceRow rowBytes : Nat} {coefficients : Option Coefficients}

theorem decodeImageRow_eq (bound : row < config.height.toNat)
    (place : (if stride.toInt < 0 then config.height.toNat - 1 - row else row) = sourceRow)
    (inside : sourceRow * pitch stride + rowBytes ≤ data.length) (small : data.length < usizeLimit) :
    decodeImageRow cpu data config stride rowBytes coefficients row out =
      decodeRow cpu config.format coefficients
        (slice data (sourceRow * pitch stride) (sourceRow * pitch stride + rowBytes))
        config.width.toNat rowBytes out := by
  unfold decodeImageRow
  rw [bufferRow_some bound, place]
  refine (Returns.then_eq (.orFail (checkedMul_lt (by omega)))).trans ?_
  exact Returns.then_eq (.orFail (getSlice_some inside small))

theorem decodeImageRow_fails (bound : row < config.height.toNat)
    (place : (if stride.toInt < 0 then config.height.toNat - 1 - row else row) = sourceRow)
    (short : data.length < sourceRow * pitch stride + rowBytes)
    (small : data.length < usizeLimit - 1) :
    Fails (decodeImageRow cpu data config stride rowBytes coefficients row) out := by
  unfold decodeImageRow
  rw [bufferRow_some bound, place]
  refine .unlessNone fun offset known => .refused (.here (.orFail ?_))
  obtain ⟨_, rfl⟩ := checkedMul_eq_some.mp known
  exact getSlice_none short small

end Round

/-- The bytes hold all rows of the image. -/
structure Holds (data : List UInt8) (config : CameraConfig) (stride : Int32) (bytes : Nat) :
    Prop where
  row : config.width.toNat * bytes ≤ pitch stride
  extent : (config.height.toNat - 1) * pitch stride + config.width.toNat * bytes ≤ data.length

theorem Holds.inside (holds : Holds data config stride bytes) {row : Nat}
    (bound : row < config.height.toNat) :
    row * pitch stride + config.width.toNat * bytes ≤ data.length := by
  have earlier : row * pitch stride ≤ (config.height.toNat - 1) * pitch stride :=
    Nat.mul_le_mul_right _ (by omega)
  have extent := holds.extent
  omega

theorem bufferLayout_accepts {video : VideoFormat} (packed : Packed video pixels bytes)
    (sized : config.width ≠ 0 ∧ config.height ≠ 0) (small : data.length < usizeLimit) :
    (bufferLayout data config stride color pixels).validate data.length = .ok () ↔
      (pixels.isPacked422 → config.width.toNat % 2 = 0) ∧ Holds data config stride bytes := by
  have accepts := @surfacePlane_accepts video config pixels bytes (pitch stride) data.length
    (decide (stride.toInt < 0)) color packed sized small
  change (surfacePlane config pixels (pitch stride) data.length (decide (stride.toInt < 0))
    color).validate data.length = .ok () ↔ _
  rw [accepts]
  constructor
  · intro fits
    exact ⟨fits.1, fits.2.1, fits.2.2⟩
  · intro fine
    exact ⟨fine.1, fine.2.row, fine.2.extent⟩

section Loop

theorem decodeRows_writes (packed : Packed config.format pixels bytes)
    (configured : c.Configured) (sized : config.width ≠ 0 ∧ config.height ≠ 0)
    (even : pixels.isPacked422 → config.width.toNat % 2 = 0)
    (holds : Holds data config stride bytes) (small : data.length < usizeLimit) :
    Writes (decodeRows cpu data config stride (config.width.toNat * bytes)
        (if pixels.isYuv then some c else none))
      (requestedImage (bufferLayout data config stride color pixels) data c config.width.toNat
        config.height.toNat) := by
  have wide := toNat_pos sized.1
  have full := @requested_full (bufferLayout data config stride color pixels) data c wide
    (toNat_pos sized.2)
  refine full.symm ▸ fun old same => ?_
  have rgb : IsRgbImage fun row x => referencePixel (bufferLayout data config stride color pixels)
      data c x (if (bufferLayout data config stride color pixels).bottomUp then
        (bufferLayout data config stride color pixels).height.toNat - 1 - row else row) :=
    fun _ _ => isRgb_reference
  have length : old.length = config.height.toNat * (config.width.toNat * 3) := same.trans rgb.length
  refine .bind (.assertThat (by omega)) (.bind .getState ?_)
  rw [length, Nat.mul_div_cancel _ (by omega)]
  refine (fills_image rgb fun row old bound fits => ?_).writes old same
  refine writes_image_row rgb rfl bound fits fun line size => ?_
  have place : (if (bufferLayout data config stride color pixels).bottomUp then
        (bufferLayout data config stride color pixels).height.toNat - 1 - row else row) =
      if stride.toInt < 0 then config.height.toNat - 1 - row else row :=
    if_congr (decide_eq_true_iff) rfl rfl
  have inside : (if stride.toInt < 0 then config.height.toNat - 1 - row else row) <
      config.height.toNat := by
    change row < config.height.toNat at bound
    split <;> omega
  change line.length = (blocks (fun x => referencePixel _ data c x _) config.width.toNat).length
    at size
  rw [Returns, decodeImageRow_eq bound rfl (holds.inside inside) small]
  rw [place] at size ⊢
  exact decodeRow_writes packed configured wide even holds.row (holds.inside inside) small line size

private theorem decodeRows_round {coefficients : Option Coefficients} {rowBytes row : Nat}
    {image : List UInt8} (length : out.length = config.height.toNat * (config.width.toNat * 3))
    (bound : row < config.height.toNat) (size : image.length = config.width.toNat * 3)
    (writes : Writes (decodeImageRow cpu data config stride rowBytes coefficients row) image) :
    ∃ next, Returns (within (row * (config.width.toNat * 3))
        (row * (config.width.toNat * 3) + config.width.toNat * 3)
        (decodeImageRow cpu data config stride rowBytes coefficients row)) out () next ∧
      next.length = config.height.toNat * (config.width.toNat * 3) := by
  have room : row * (config.width.toNat * 3) + config.width.toNat * 3 ≤ out.length := by
    rw [length, ← Nat.succ_mul]
    exact Nat.mul_le_mul_right _ bound
  have written := writes (slice out (row * (config.width.toNat * 3))
    (row * (config.width.toNat * 3) + config.width.toNat * 3)) (by rw [length_slice_add room, size])
  refine ⟨_, .within (by omega) room written, ?_⟩
  simp only [List.length_append, List.length_take, List.length_drop, size]
  omega

/-- The loop stops at the first row that the buffer does not hold, or at once where no row can be
decoded. -/
theorem decodeRows_fails (packed : Packed config.format pixels bytes) (configured : c.Configured)
    (sized : config.width ≠ 0 ∧ config.height ≠ 0)
    (short : ¬((pixels.isPacked422 → config.width.toNat % 2 = 0) ∧ Holds data config stride bytes))
    (row : config.width.toNat * bytes ≤ pitch stride) (down : pixels.isPacked422 → stride.toInt < 0)
    (small : data.length < usizeLimit - 1)
    (length : out.length = config.height.toNat * (config.width.toNat * 3)) :
    Fails (decodeRows cpu data config stride (config.width.toNat * bytes)
      (if pixels.isYuv then some c else none)) out := by
  have wide := toNat_pos sized.1
  have tall := toNat_pos sized.2
  have fitting : data.length < usizeLimit := by omega
  refine .later (.assertThat (by omega)) (.later .getState ?_)
  rw [length, Nat.mul_div_cancel _ (by omega)]
  have at_row {k : Nat} (bound : k < config.height.toNat) {old : List UInt8}
      (same : old.length = config.height.toNat * (config.width.toNat * 3))
      (fails : ∀ line, Fails (decodeImageRow cpu data config stride (config.width.toNat * bytes)
        (if pixels.isYuv then some c else none) k) line) :
      Fails (within (k * (config.width.toNat * 3))
        (k * (config.width.toNat * 3) + config.width.toNat * 3)
        (decodeImageRow cpu data config stride (config.width.toNat * bytes)
          (if pixels.isYuv then some c else none) k)) old := by
    refine .within (by omega) ?_ (fails _)
    rw [same, ← Nat.succ_mul]
    exact Nat.mul_le_mul_right _ bound
  by_cases up : stride.toInt < 0
  · -- The first round reads the last row of the buffer.
    refine Fails.forRange (k := 0) (P := fun old => old.length = config.height.toNat *
      (config.width.toNat * 3)) ⟨Nat.le_refl _, tall⟩ length (fun i _ early => by omega)
      fun old same => at_row tall same fun line => ?_
    have place : (if stride.toInt < 0 then config.height.toNat - 1 - 0 else 0) =
        config.height.toNat - 1 := if_pos up
    by_cases inside : (config.height.toNat - 1) * pitch stride + config.width.toNat * bytes ≤
        data.length
    · obtain ⟨e, reached, failed⟩ := @decodeRow_odd cpu config config.format pixels bytes c packed
        (slice data ((config.height.toNat - 1) * pitch stride)
          ((config.height.toNat - 1) * pitch stride + config.width.toNat * bytes)) line
        (by rw [length_slice_add inside]; omega) (fun even => short ⟨even, row, inside⟩)
        (config.width.toNat * bytes)
      exact ⟨e, reached, (decodeImageRow_eq tall place inside fitting).trans failed⟩
    · exact decodeImageRow_fails tall place (by omega) small
  · have plain : ¬(pixels.isPacked422 = true) := fun isPacked => up (down isPacked)
    have missing : ∃ r, data.length < r * pitch stride + config.width.toNat * bytes := by
      refine ⟨config.height.toNat - 1, ?_⟩
      by_contra enough
      exact short ⟨fun isPacked => absurd isPacked plain, row, by omega⟩
    have first : Nat.find missing < config.height.toNat := by
      refine Nat.lt_of_le_of_lt (Nat.find_min' missing (m := config.height.toNat - 1) ?_) (by omega)
      by_contra enough
      exact short ⟨fun isPacked => absurd isPacked plain, row, by omega⟩
    refine Fails.forRange (k := Nat.find missing) (P := fun old => old.length =
      config.height.toNat * (config.width.toNat * 3)) ⟨Nat.zero_le _, first⟩ length
      (fun i _ early old same => ?_)
      fun old same => at_row first same fun line =>
        decodeImageRow_fails first (if_neg up) (Nat.find_spec missing) small
    have inside : i * pitch stride + config.width.toNat * bytes ≤ data.length :=
      Nat.le_of_not_lt (Nat.find_min missing early)
    have written := @decodeRow_writes cpu data config stride {} config.format pixels bytes i c packed
      configured wide (fun isPacked => absurd isPacked plain) row inside fitting
    have round : Writes (decodeImageRow cpu data config stride (config.width.toNat * bytes)
        (if pixels.isYuv then some c else none) i) _ := fun line size =>
      (decodeImageRow_eq (by omega) (if_neg up) inside fitting).trans (written line size)
    exact decodeRows_round same (by omega) (length_blocks fun x => isRgb_reference) round

end Loop

end Rows

end CameraRs.MediaFoundation

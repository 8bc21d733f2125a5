/-
The two deliveries of the Media Foundation backend: where the bytes decode to RGB, the native
frame is published and converts to the same image. An NV12 image with a negative stride is the
exception.
-/

import CameraRs.MediaFoundation.Rows

namespace CameraRs.MediaFoundation

open Lib Lib.Fill

variable {target : Target} {data out : List UInt8} {config : CameraConfig} {stride : Int32}
  {color : ColorInfo} {pixels : PixelFormat} {bytes : Nat} {c : Coefficients}
  {decoder : Option target.turbojpeg.Decompressor} {converter : RgbConverter target}

/-! ### Whole bytes for each pixel -/

section Packed

variable {video : VideoFormat}

theorem pixelBytes_packed (packed : Packed video pixels bytes) :
    pixelBytes video = .ok bytes := by
  cases packed <;> rfl

theorem nativeFrame_packed (packed : Packed video pixels bytes) (same : config.format = video) :
    nativeFrame data config stride color =
      .ok (bufferLayout data config stride color pixels, [data]) := by
  unfold nativeFrame nativeLayout
  rw [same]
  cases packed <;> rfl

theorem decodeInto_packed (packed : Packed video pixels bytes) (same : config.format = video) :
    (decodeInto data config stride color : Decoding target Unit) =
      decodePacked data config stride color := by
  unfold decodeInto
  rw [same]
  cases packed <;> rfl

theorem Packed.yuv (packed : Packed video pixels bytes) (yuv : pixels.isYuv = true) :
    bytes = 2 ∧ pixels.isPacked422 = true := by
  cases packed with
  | yuyv | uyvy => exact ⟨rfl, rfl⟩
  | rgb | gray => contradiction

theorem Packed.order (packed : Packed video pixels bytes) (yuv : pixels.isYuv = true) :
    pixels = .yuyv ∧ (video == .uyvy) = false ∨ pixels = .uyvy ∧ (video == .uyvy) = true := by
  cases packed with
  | yuyv => exact Or.inl ⟨rfl, rfl⟩
  | uyvy => exact Or.inr ⟨rfl, rfl⟩
  | rgb | gray => contradiction

theorem Packed.isYuv (packed : Packed video pixels bytes) (isPacked : pixels.isPacked422 = true) :
    pixels.isYuv = true := by
  cases packed with
  | yuyv | uyvy => rfl
  | rgb | gray => contradiction

theorem Packed.raw (packed : Packed video pixels bytes) : pixels.isCompressed = false := by
  cases packed <;> rfl

theorem Packed.positive (packed : Packed video pixels bytes) : 0 < bytes := by
  cases packed <;> decide

private theorem yuv422_writes (packed : Packed video pixels 2) (configured : c.Configured)
    (cover : PackedCover 2 data config.width.toNat config.height.toNat (pitch stride))
    (yuv : pixels.isYuv = true) (down : 0 < stride.toInt) (even : config.width.toNat % 2 = 0)
    (addressable : config.width.toNat * config.height.toNat * 3 < usizeLimit) :
    Writes (yuv422ToRgb target.cpu data config.width.toNat config.height.toNat (pitch stride)
        (video == .uyvy) c)
      (requestedImage (bufferLayout data config stride color pixels) data c config.width.toNat
        config.height.toNat) := by
  have topDown : (bufferLayout data config stride color pixels).bottomUp = false :=
    decide_eq_false (by omega)
  have whole : data = slice data (0 + 0 * pitch stride) data.length := by
    rw [Nat.zero_mul]
    exact slice_all.symm
  have image := @requested_same (bufferLayout data config stride color pixels) data
    (ConversionRequest.forLayout (bufferLayout data config stride color pixels)) c
    (packed422At c (video == .uyvy) data (pitch stride)) cover.wide cover.tall rfl topDown
    fun row x bound inside => by
      have shown := @packed422At_windows data c ⟨0, data.length, pitch stride, 2⟩ 0 _ _ row x data _
        (video == .uyvy) whole rfl cover even bound inside
      rw [Nat.zero_add] at shown
      exact shown.trans (packed422_pixel (packed.order yuv)).symm
  refine Eq.subst (motive := Writes _) image ?_
  exact (yuv422ToRgb_fills target.cpu configured cover even addressable).writes

private theorem decodePacked_returns (packed : Packed config.format pixels bytes)
    (sized : config.width ≠ 0 ∧ config.height ≠ 0) (small : data.length < usizeLimit)
    (accepted : (bufferLayout data config stride color pixels).validate data.length = .ok ())
    (found : coefficientsFor (bufferLayout data config stride color pixels)
      (ConversionRequest.forLayout (bufferLayout data config stride color pixels)) = .ok c)
    (length : out.length = config.width.toNat * config.height.toNat * 3)
    (addressable : out.length < usizeLimit) :
    Returns (decodePacked data config stride color : Decoding target Unit) (decoder, out) ()
      (decoder, requestedImage (bufferLayout data config stride color pixels) data c
        config.width.toNat config.height.toNat) := by
  obtain ⟨even, holds⟩ := (bufferLayout_accepts packed sized small).mp accepted
  have configured := coefficientsFor_configured found
  have same : out.length = (requestedImage (bufferLayout data config stride color pixels) data c
      config.width.toNat config.height.toNat).length := by
    rw [length, length_requestedImage, ← Nat.mul_assoc, Nat.mul_comm config.height.toNat]
  have rows : Returns (onSnd (decodeRows target.cpu data config stride (config.width.toNat * bytes)
      (if pixels.isYuv then some c else none)) : Decoding target Unit) (decoder, out) () _ :=
    .onSnd (decodeRows_writes packed configured sized even holds small out same)
  refine .bind (.ofExcept (pixelBytes_packed packed)) (.bind (.failIf (Nat.not_lt.mpr holds.row))
    (.bind (.ofExcept (packedCoefficients_found packed rfl found)) ?_))
  by_cases down : 0 < stride.toInt
  · by_cases yuv : pixels.isYuv = true
    · simp only [if_pos down, if_pos yuv]
      obtain ⟨rfl, isPacked⟩ := packed.yuv yuv
      refine .onSnd (yuv422_writes packed configured ?_ yuv down (even isPacked) (by omega) out same)
      exact
        { wide := toNat_pos sized.1
          tall := toNat_pos sized.2
          row := holds.row
          extent := holds.extent
          small := small }
    · simp only [if_pos down, if_neg yuv] at rows ⊢
      exact rows
  · simp only [if_neg down]
    exact rows

private theorem decodePacked_fails (packed : Packed config.format pixels bytes)
    (sized : config.width ≠ 0 ∧ config.height ≠ 0) (small : data.length < usizeLimit - 1)
    (rejected : (bufferLayout data config stride color pixels).validate data.length ≠ .ok ())
    (found : coefficientsFor (bufferLayout data config stride color pixels)
      (ConversionRequest.forLayout (bufferLayout data config stride color pixels)) = .ok c)
    (length : out.length = config.width.toNat * config.height.toNat * 3) :
    Fails (decodePacked data config stride color : Decoding target Unit) (decoder, out) := by
  have fitting : data.length < usizeLimit := by omega
  have short := mt (bufferLayout_accepts packed sized fitting).mpr rejected
  have configured := coefficientsFor_configured found
  refine .later (.ofExcept (pixelBytes_packed packed)) (.unlessIf fun row => .later (.ofExcept
    (packedCoefficients_found packed rfl found)) ?_)
  rw [Nat.not_lt] at row
  by_cases whole : 0 < stride.toInt ∧ pixels.isYuv = true
  · obtain ⟨down, yuv⟩ := whole
    obtain ⟨rfl, isPacked⟩ := packed.yuv yuv
    simp only [if_pos down, if_pos yuv]
    exact .onSnd (yuv422ToRgb_fails target.cpu fitting fun fine =>
      short ⟨fun _ => fine.2.1, fine.1.row, fine.1.extent⟩)
  · have rows : Fails (onSnd (decodeRows target.cpu data config stride
        (config.width.toNat * bytes) (if pixels.isYuv then some c else none)) :
        Decoding target Unit) (decoder, out) := by
      refine .onSnd (decodeRows_fails packed configured sized short row (fun isPacked => ?_) small ?_)
      · have upward : stride.toInt ≤ 0 :=
          Int.not_lt.mp fun down => whole ⟨down, packed.isYuv isPacked⟩
        have some_pitch : 0 < pitch stride :=
          Nat.lt_of_lt_of_le (Nat.mul_pos (toNat_pos sized.1) packed.positive) row
        unfold pitch at some_pitch
        omega
      · rw [length, Nat.mul_comm config.width.toNat, Nat.mul_assoc]
    by_cases down : 0 < stride.toInt
    · have plain : ¬pixels.isYuv = true := fun yuv => whole ⟨down, yuv⟩
      simp only [if_pos down, if_neg plain] at rows ⊢
      exact rows
    · simp only [if_neg down]
      exact rows

private theorem packed_agree (packed : Packed config.format pixels bytes) (used : converter.Used)
    (sized : config.width ≠ 0 ∧ config.height ≠ 0) (known : color.IsKnown)
    (small : data.length < usizeLimit - 1)
    (length : out.length = config.width.toNat * config.height.toNat * 3)
    (addressable : out.length < usizeLimit) :
    SameDelivery ((decodeInto data config stride color : Decoding target Unit) (decoder, out))
      ((convertNative (nativeFrame data config stride color) : Conversion target Unit)
        (converter, out)) := by
  have flat : [data].flatten = data := by simp
  have payload : Payload (bufferLayout data config stride color pixels) [data] :=
    { raw := packed.raw
      small := by
        rw [flat]
        omega
      whole := by simp [bufferLayout, FrameLayout.packed]
      known := fun _ => known }
  obtain ⟨c, found⟩ := (@coefficientsFor_ok (bufferLayout data config stride color pixels)
    (ConversionRequest.forLayout _)).mpr payload.known
  rw [nativeFrame_packed packed rfl, decodeInto_packed packed rfl]
  refine payload.same used length addressable (fun accepted c found => ⟨decoder, ?_⟩)
    fun rejected => ?_
  · rw [flat] at accepted ⊢
    exact decodePacked_returns packed sized (by omega) accepted found length addressable
  · rw [flat] at rejected
    exact decodePacked_fails packed sized small rejected found length

end Packed

/-! ### NV12 -/

section Nv12

/-- The bytes hold the luma rows and the rows of chroma pairs behind them. -/
def HoldsNv12 (data : List UInt8) (config : CameraConfig) (stride : Int32) : Prop :=
  divCeil2 config.width.toNat * 2 ≤ pitch stride ∧
    pitch stride * config.height.toNat + ((divCeil2 config.height.toNat - 1) * pitch stride +
      divCeil2 config.width.toNat * 2) ≤ data.length

instance : Decidable (HoldsNv12 data config stride) :=
  inferInstanceAs (Decidable (_ ∧ _))

def nv12Layout (data : List UInt8) (config : CameraConfig) (stride : Int32) (color : ColorInfo) :
    FrameLayout :=
  { bufferLayout data config stride color .nv12 with
    planes :=
      [⟨0, pitch stride * config.height.toNat, pitch stride, 1⟩,
        ⟨pitch stride * config.height.toNat,
          data.length - pitch stride * config.height.toNat, pitch stride, 2⟩] }

theorem nativeFrame_nv12 (video : config.format = .nv12) (small : data.length < usizeLimit)
    (room : pitch stride * config.height.toNat < data.length) :
    nativeFrame data config stride color = .ok (nv12Layout data config stride color, [data]) := by
  have cut : (checkedMul (pitch stride) config.height.toNat).filter
      (fun n => decide (n < data.length)) = some (pitch stride * config.height.toNat) := by
    rw [checkedMul_lt (by omega), Option.filter_some, if_pos (decide_eq_true room)]
  have made : withChroma data stride (bufferLayout data config stride color .nv12) =
      .ok (nv12Layout data config stride color) := by
    unfold withChroma
    simp only [bufferLayout, FrameLayout.packed, cut]
    rfl
  unfold nativeFrame nativeLayout
  rw [video]
  change (withChroma data stride (bufferLayout data config stride color .nv12)).map _ = _
  rw [made]
  rfl

theorem nativeFrame_short (video : config.format = .nv12)
    (short : data.length ≤ pitch stride * config.height.toNat) :
    nativeFrame data config stride color = .error (invalid "Truncated MF NV12") := by
  have none_left : (checkedMul (pitch stride) config.height.toNat).filter
      (fun n => decide (n < data.length)) = none := by
    unfold checkedMul
    split
    · rw [Option.filter_some, if_neg (by simpa using short)]
    · rfl
  have unmade : withChroma data stride (bufferLayout data config stride color .nv12) =
      .error (invalid "Truncated MF NV12") := by
    unfold withChroma
    simp only [bufferLayout, FrameLayout.packed, none_left]
  unfold nativeFrame nativeLayout
  rw [video]
  change (withChroma data stride (bufferLayout data config stride color .nv12)).map _ = _
  rw [unmade]
  rfl

theorem nv12_accepts (sized : config.width ≠ 0 ∧ config.height ≠ 0)
    (small : data.length < usizeLimit) (room : pitch stride * config.height.toNat < data.length) :
    (nv12Layout data config stride color).validate data.length = .ok () ↔
      HoldsNv12 data config stride :=
  @surfaceNv12_accepts config (pitch stride) data.length (decide (stride.toInt < 0)) color sized
    small room

/-- The planes that the decoder takes out of the buffer. -/
def nv12Planes (data : List UInt8) (config : CameraConfig) (stride : Int32) : Yuv420Sp :=
  { y := slice data 0 (pitch stride * config.height.toNat)
    uv := data.drop (pitch stride * config.height.toNat)
    yStride := pitch stride
    uvStride := pitch stride
    vuOrder := false }

theorem nv12_cover (sized : config.width ≠ 0 ∧ config.height ≠ 0) (small : data.length < usizeLimit)
    (holds : HoldsNv12 data config stride) :
    SemiplanarCover (nv12Planes data config stride) config.width.toNat config.height.toNat := by
  have wide := toNat_pos sized.1
  have tall := toNat_pos sized.2
  obtain ⟨row, extent⟩ := holds
  have rows : (config.height.toNat - 1) * pitch stride + pitch stride =
      pitch stride * config.height.toNat := by
    rw [← Nat.succ_mul, Nat.mul_comm]
    congr 1
    omega
  have half : config.width.toNat ≤ divCeil2 config.width.toNat * 2 := by
    unfold divCeil2
    omega
  have luma : (slice data 0 (pitch stride * config.height.toNat)).length =
      pitch stride * config.height.toNat := by
    rw [length_slice (by omega), Nat.sub_zero]
  have chroma : (data.drop (pitch stride * config.height.toNat)).length =
      data.length - pitch stride * config.height.toNat := List.length_drop
  exact
    { wide := wide
      tall := tall
      luma :=
        { step := Nat.one_pos
          row := show (config.width.toNat - 1) * 1 + 1 ≤ pitch stride by omega
          extent := show (config.height.toNat - 1) * pitch stride +
            ((config.width.toNat - 1) * 1 + 1) ≤
              (slice data 0 (pitch stride * config.height.toNat)).length by omega
          small := show (slice data 0 (pitch stride * config.height.toNat)).length <
            usizeLimit by omega }
      chromaRow := row
      chroma := show (divCeil2 config.height.toNat - 1) * pitch stride +
        divCeil2 config.width.toNat * 2 ≤
          (data.drop (pitch stride * config.height.toNat)).length by omega
      small := show (data.drop (pitch stride * config.height.toNat)).length < usizeLimit by omega }

private theorem nv12_holds (inside : pitch stride * config.height.toNat ≤ data.length)
    (cover : SemiplanarCover (nv12Planes data config stride) config.width.toNat
      config.height.toNat) : HoldsNv12 data config stride := by
  have row : divCeil2 config.width.toNat * 2 ≤ pitch stride := cover.chromaRow
  have extent : (divCeil2 config.height.toNat - 1) * pitch stride +
      divCeil2 config.width.toNat * 2 ≤
        (data.drop (pitch stride * config.height.toNat)).length := cover.chroma
  rw [List.length_drop] at extent
  exact ⟨row, by omega⟩

theorem nv12_image (cover : SemiplanarCover (nv12Planes data config stride) config.width.toNat
      config.height.toNat) (down : 0 < stride.toInt) :
    imageOf (semiplanarAt c (nv12Planes data config stride)) config.width.toNat
        config.height.toNat =
      requestedImage (nv12Layout data config stride color) data c config.width.toNat
        config.height.toNat := by
  have topDown : (nv12Layout data config stride color).bottomUp = false :=
    decide_eq_false (by omega)
  have luma : Window data ⟨0, pitch stride * config.height.toNat, pitch stride, 1⟩ 0 0
      ⟨slice data 0 (pitch stride * config.height.toNat), pitch stride, 1⟩ :=
    { bytes := ⟨pitch stride * config.height.toNat, by rw [Nat.zero_mul]⟩
      rowStride := rfl
      pixelStride := rfl }
  have chroma : data.drop (pitch stride * config.height.toNat) =
      slice data (pitch stride * config.height.toNat + 0 / 2 * pitch stride) data.length := by
    rw [Nat.zero_div, Nat.zero_mul, Nat.add_zero, slice,
      List.take_of_length_le (by rw [List.length_drop])]
  refine @requested_same (nv12Layout data config stride color) data
    (ConversionRequest.forLayout (nv12Layout data config stride color)) c _ cover.wide cover.tall
    rfl topDown fun row x bound inside => ?_
  have shown := @semiplanarAt_windows data c
    ⟨0, pitch stride * config.height.toNat, pitch stride, 1⟩
    ⟨pitch stride * config.height.toNat, data.length - pitch stride * config.height.toNat,
      pitch stride, 2⟩ 0 _ _ row x (nv12Planes data config stride) data.length luma chroma rfl rfl
    cover bound inside (by omega)
  rw [Nat.zero_add] at shown
  exact shown.trans (@reference_semiplanar (nv12Layout data config stride color) data c _ _ x row
    rfl (Or.inl rfl)).symm

theorem decodeInto_upward (video : config.format = .nv12) (up : stride.toInt ≤ 0) :
    Refuses (decodeInto data config stride color : Decoding target Unit) (decoder, out)
      (invalid "Negative NV12 stride") := by
  unfold decodeInto
  rw [video]
  exact .here (.failIf up)

theorem decodeInto_nv12 (video : config.format = .nv12) (down : 0 < stride.toInt)
    (small : data.length < usizeLimit)
    (inside : pitch stride * config.height.toNat ≤ data.length)
    (found : colorCoefficients color = .ok c) :
    (decodeInto data config stride color : Decoding target Unit) (decoder, out) =
      (onSnd (yuv420spToRgb target.cpu (nv12Planes data config stride) config.width.toNat
        config.height.toNat c) : Decoding target Unit) (decoder, out) := by
  have same : stride.toInt.toNat = pitch stride := by
    unfold pitch
    omega
  have cut : (checkedMul (pitch stride) config.height.toNat).filter
      (fun n => decide (n ≤ data.length)) = some (pitch stride * config.height.toNat) := by
    rw [checkedMul_lt (by omega), Option.filter_some, if_pos (decide_eq_true inside)]
  unfold decodeInto
  rw [video, same]
  refine (Returns.then_eq (.failIf (Int.not_le.mpr down))).trans ?_
  refine (Returns.then_eq (.orFail cut)).trans ?_
  refine (Returns.then_eq (.view (Nat.zero_le _) inside)).trans ?_
  refine (Returns.then_eq (.viewFrom inside)).trans ?_
  exact Returns.then_eq (.ofExcept found)

private theorem decodeInto_short (video : config.format = .nv12) (down : 0 < stride.toInt)
    (short : data.length < pitch stride * config.height.toNat) :
    Fails (decodeInto data config stride color : Decoding target Unit) (decoder, out) := by
  have same : stride.toInt.toNat = pitch stride := by
    unfold pitch
    omega
  have none_left : (checkedMul (pitch stride) config.height.toNat).filter
      (fun n => decide (n ≤ data.length)) = none := by
    unfold checkedMul
    split
    · rw [Option.filter_some, if_neg (by simpa using short)]
    · rfl
  unfold decodeInto
  rw [video, same]
  exact .unlessIf fun _ => .refused (.here (.orFail none_left))

theorem nv12_payload (known : color.IsKnown) (small : data.length < usizeLimit)
    (room : pitch stride * config.height.toNat < data.length) :
    Payload (nv12Layout data config stride color) [data] :=
  have flat : [data].flatten = data := by simp
  { raw := rfl
    small := by rwa [flat]
    whole := by
      rw [flat]
      change max (0 + pitch stride * config.height.toNat) (pitch stride * config.height.toNat +
        (data.length - pitch stride * config.height.toNat)) = data.length
      omega
    known := fun _ => known }

theorem nv12_agree (video : config.format = .nv12) (down : 0 < stride.toInt)
    (used : converter.Used) (sized : config.width ≠ 0 ∧ config.height ≠ 0)
    (known : color.IsKnown) (small : data.length < usizeLimit)
    (length : out.length = config.width.toNat * config.height.toNat * 3)
    (addressable : out.length < usizeLimit) :
    SameDelivery ((decodeInto data config stride color : Decoding target Unit) (decoder, out))
      ((convertNative (nativeFrame data config stride color) : Conversion target Unit)
        (converter, out)) := by
  have flat : [data].flatten = data := by simp
  obtain ⟨c, coefficients⟩ := colorCoefficients_ok.mpr known
  have decoded (inside : pitch stride * config.height.toNat ≤ data.length)
      (rejected : ¬HoldsNv12 data config stride) :
      Fails (decodeInto data config stride color : Decoding target Unit) (decoder, out) := by
    have sizes : (nv12Planes data config stride).y.length < usizeLimit ∧
        (nv12Planes data config stride).uv.length < usizeLimit := by
      simp only [nv12Planes, slice, List.length_take, List.length_drop]
      omega
    obtain ⟨e, reached, failed⟩ := @Fails.onSnd _ _ _ _ _ out decoder
      (@yuv420spToRgb_fails c config.width.toNat config.height.toNat out target.cpu
        (nv12Planes data config stride) sizes
        fun fine => rejected (nv12_holds inside fine.1))
    exact ⟨e, reached, (decodeInto_nv12 video down small inside coefficients).trans failed⟩
  by_cases room : pitch stride * config.height.toNat < data.length
  · rw [nativeFrame_nv12 video small room]
    refine (nv12_payload known small room).same used length addressable
      (fun accepted c found => ⟨decoder, ?_⟩) fun rejected => ?_
    · rw [flat] at accepted ⊢
      have holds := (nv12_accepts sized small room).mp accepted
      have cover := nv12_cover sized small holds
      have written := (yuv420spToRgb_fills target.cpu (coefficientsFor_configured found) cover
        (by omega)).writes
      rw [nv12_image cover down] at written
      refine (decodeInto_nv12 video down small (Nat.le_of_lt room) found).trans
        (Returns.onSnd (written out ?_))
      rw [length, length_requestedImage, ← Nat.mul_assoc, Nat.mul_comm config.height.toNat]
    · rw [flat] at rejected
      exact decoded (Nat.le_of_lt room) (mt (nv12_accepts sized small room).mpr rejected)
  · rw [nativeFrame_short video (Nat.le_of_not_lt room)]
    refine .failed ?_ (.refused (.here (.ofExcept rfl)))
    by_cases inside : pitch stride * config.height.toNat ≤ data.length
    · refine decoded inside fun holds => ?_
      have extent := holds.2
      have chromaWide := divCeil2_pos (toNat_pos sized.1)
      omega
    · exact decodeInto_short video down (by omega)

/-- With a stride that is not positive the decoder refuses, and the native frame fails unless the
rows of a bottom-up image are there. -/
private theorem upward_agree (video : config.format = .nv12) (up : stride.toInt ≤ 0)
    (rejected : ¬HoldsNv12 data config stride) (sized : config.width ≠ 0 ∧ config.height ≠ 0)
    (known : color.IsKnown) (small : data.length < usizeLimit) :
    SameDelivery ((decodeInto data config stride color : Decoding target Unit) (decoder, out))
      ((convertNative (nativeFrame data config stride color) : Conversion target Unit)
        (converter, out)) := by
  refine .failed (.refused (decodeInto_upward video up)) ?_
  by_cases room : pitch stride * config.height.toNat < data.length
  · rw [nativeFrame_nv12 video small room]
    refine (nv12_payload known small room).convertNative_fails ?_
    rw [show [data].flatten = data by simp]
    exact mt (nv12_accepts sized small room).mp rejected
  · rw [nativeFrame_short video (Nat.le_of_not_lt room)]
    exact .refused (.here (.ofExcept rfl))

theorem upward_converts (video : config.format = .nv12) (holds : HoldsNv12 data config stride)
    (used : converter.Used) (sized : config.width ≠ 0 ∧ config.height ≠ 0)
    (known : color.IsKnown) (small : data.length < usizeLimit)
    (length : out.length = config.width.toNat * config.height.toNat * 3)
    (addressable : out.length < usizeLimit) :
    ∃ next image, Returns (convertNative (nativeFrame data config stride color) :
      Conversion target Unit) (converter, out) () (next, image) := by
  have chromaWide := divCeil2_pos (toNat_pos sized.1)
  have room : pitch stride * config.height.toNat < data.length := by
    obtain ⟨_, extent⟩ := holds
    omega
  rw [nativeFrame_nv12 video small room]
  obtain ⟨next, c, _, converted⟩ := (nv12_payload known small room).convertNative_returns used
    (by rw [show [data].flatten = data by simp]; exact (nv12_accepts sized small room).mpr holds)
    length addressable
  exact ⟨next, _, converted⟩

theorem upward_disagree (video : config.format = .nv12) (up : stride.toInt < 0)
    (holds : HoldsNv12 data config stride) (used : converter.Used)
    (sized : config.width ≠ 0 ∧ config.height ≠ 0) (known : color.IsKnown)
    (small : data.length < usizeLimit)
    (length : out.length = config.width.toNat * config.height.toNat * 3)
    (addressable : out.length < usizeLimit) :
    ¬SameDelivery ((decodeInto data config stride color : Decoding target Unit) (decoder, out))
      ((convertNative (nativeFrame data config stride color) : Conversion target Unit)
        (converter, out)) := by
  rintro ⟨result, _, _, result', _, _, first, second, both, _⟩
  obtain ⟨next, image, converted⟩ := upward_converts video holds used sized known small length
    addressable
  have refused : (decodeInto data config stride color : Decoding target Unit) (decoder, out) = _ :=
    decodeInto_upward video (Int.le_of_lt up)
  rw [refused, Option.some.injEq, Prod.mk.injEq] at first
  rw [Returns] at converted
  rw [converted, Option.some.injEq, Prod.mk.injEq] at second
  rw [← first.1, ← second.1] at both
  exact absurd (both.mpr rfl) (by simp)

end Nv12

/-! ### Every raw frame -/

/-- The two deliveries agree on every raw frame but a well-formed NV12 image with a negative
stride, which is published and not decoded. -/
theorem deliveries_agree_iff (used : converter.Used) (raw : config.format.isCompressed = false)
    (wide : config.width ≠ 0) (tall : config.height ≠ 0) (known : color.IsKnown)
    (slice : data.length < 2 ^ 63)
    (length : out.length = config.width.toNat * config.height.toNat * 3)
    (addressable : out.length < usizeLimit) :
    SameDelivery ((decodeInto data config stride color : Decoding target Unit) (decoder, out))
        ((convertNative (nativeFrame data config stride color) : Conversion target Unit)
          (converter, out)) ↔
      (config.format = .nv12 → stride.toInt < 0 → ¬HoldsNv12 data config stride) := by
  have half : 2 ^ 63 + 2 ^ 63 = usizeLimit := rfl
  constructor
  · intro agree video up holds
    exact upward_disagree video up holds used ⟨wide, tall⟩ known (by omega) length addressable agree
  · intro fine
    have whole {video : VideoFormat} {pixels : PixelFormat} {bytes : Nat}
        (packed : Packed video pixels bytes) (same : config.format = video) :=
      @packed_agree target data out config stride color pixels bytes decoder converter
        (same.symm ▸ packed) used ⟨wide, tall⟩ known (by omega) length addressable
    cases video : config.format with
    | mjpeg | h264 =>
        rw [video] at raw
        contradiction
    | yuyv => exact whole .yuyv video
    | uyvy => exact whole .uyvy video
    | rgb => exact whole .rgb video
    | gray => exact whole .gray video
    | nv12 =>
        by_cases down : 0 < stride.toInt
        · exact nv12_agree video down used ⟨wide, tall⟩ known (by omega) length addressable
        · refine upward_agree video (Int.not_lt.mp down) (fun holds => ?_) ⟨wide, tall⟩ known
            (by omega)
          by_cases up : stride.toInt < 0
          · exact fine video up holds
          · have chromaWide := divCeil2_pos (toNat_pos wide)
            have row := holds.1
            unfold pitch at row
            omega

def smallNv12 : CameraConfig :=
  { format := .nv12
    width := 2
    height := 2
    fps := 30 }

def bt709Limited : ColorInfo := { matrix := .bt709, range := .limited }

theorem deliveries_agree_iff_topDown :
    SameDelivery
        ((decodeInto [16, 235, 16, 235, 128, 128] smallNv12 2 bt709Limited :
          Decoding Target.withoutJpeg Unit) (none, List.replicate 12 0))
        ((convertNative (nativeFrame [16, 235, 16, 235, 128, 128] smallNv12 2 bt709Limited) :
          Conversion Target.withoutJpeg Unit) ({}, List.replicate 12 0)) ↔
      (smallNv12.format = .nv12 → (2 : Int32).toInt < 0 →
        ¬HoldsNv12 [16, 235, 16, 235, 128, 128] smallNv12 2) :=
  deliveries_agree_iff RgbConverter.used_new rfl (by decide) (by decide) ⟨by decide, by decide⟩
    (by decide) rfl (by decide)

theorem not_always_agree :
    (decodeInto [16, 235, 16, 235, 128, 128] smallNv12 (-2) bt709Limited :
        Decoding Target.withoutJpeg Unit) (none, List.replicate 12 0) =
      some (.error (.invalidFrame "Negative NV12 stride"), none, List.replicate 12 0) ∧
    (∃ next image, (convertNative (nativeFrame [16, 235, 16, 235, 128, 128] smallNv12 (-2)
        bt709Limited) : Conversion Target.withoutJpeg Unit) ({}, List.replicate 12 0) =
      some (.ok (), next, image)) ∧
    ¬SameDelivery
      ((decodeInto [16, 235, 16, 235, 128, 128] smallNv12 (-2) bt709Limited :
        Decoding Target.withoutJpeg Unit) (none, List.replicate 12 0))
      ((convertNative (nativeFrame [16, 235, 16, 235, 128, 128] smallNv12 (-2) bt709Limited) :
        Conversion Target.withoutJpeg Unit) ({}, List.replicate 12 0)) := by
  have holds : HoldsNv12 [16, 235, 16, 235, 128, 128] smallNv12 (-2) := by decide
  have sized : smallNv12.width ≠ 0 ∧ smallNv12.height ≠ 0 := by decide
  have known : bt709Limited.IsKnown := ⟨by decide, by decide⟩
  exact ⟨decodeInto_upward rfl (by decide),
    upward_converts rfl holds RgbConverter.used_new sized known (by decide) rfl (by decide),
    upward_disagree rfl (by decide) holds RgbConverter.used_new sized known (by decide) rfl
      (by decide)⟩

end CameraRs.MediaFoundation

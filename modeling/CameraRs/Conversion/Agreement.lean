/-
Every conversion path yields the requested image: the half-size, same-size, row
conversion, scalar and mapped paths are all the same function of the layout, the
buffer and the request, whatever was converted before. Raw conversion is total,
and a refused conversion has not written anything.
-/

import CameraRs.Conversion.Direct
import CameraRs.Lib.Machine

namespace CameraRs

open Lib Fill

/-! ### Earlier conversions -/

structure ConvertCall where
  layout : FrameLayout
  data : List UInt8
  request : ConversionRequest
  out : List UInt8

/-- A converter under a sequence of calls, refused and MJPEG ones included. -/
def converterMachine (target : Target) : Machine (RgbConverter target) ConvertCall where
  initial := fun converter => converter = {}
  step := fun converter call =>
    (convertLayoutInto call.layout call.data call.request (converter, call.out)).map
      fun outcome => outcome.2.1

/-- Converters that some calls on a new one lead to. -/
def RgbConverter.Used {target : Target} (converter : RgbConverter target) : Prop :=
  (converterMachine target).Reachable Machine.anything converter

section Cache

variable {target : Target}

/-- The cached map of the converter is what its dimensions ask for. -/
def FreshCache (s : RgbConverter target × List UInt8) : Prop := s.1.nearest.Fresh

private theorem decodeJpeg_keeps {lib : Turbojpeg} {w h outW outH : Nat} {data : List UInt8} :
    Keeps (fun s : lib.Decompressor × JpegBuffers => s.2.nearest.Fresh)
      (decodeJpeg lib w h outW outH data) := by
  have decoderOnly {α : Type} {m : Fill lib.Decompressor CameraError α} :
      Keeps (fun s : lib.Decompressor × JpegBuffers => s.2.nearest.Fresh) (onFst m) :=
    .zoom (Q := fun _ => True) (fun _ _ => trivial) (fun _ _ holds _ => holds)
      (fun _ _ _ _ _ => trivial)
  refine .bind decoderOnly fun header => ?_
  split
  · exact .fail
  · refine .bind decoderOnly fun _ => ?_
    dsimp only
    split
    · exact .zoom (Q := fun _ => True) (fun _ _ => trivial) (fun _ _ holds _ => holds)
        (fun _ _ _ _ _ => trivial)
    · refine .bind .orFail fun scratchLen => .bind ?_ fun _ => .bind ?_ fun _ =>
        .bind .getState fun buffers => ?_
      · exact .zoom (Q := fun _ => True) (fun _ _ => trivial) (fun _ _ holds _ => holds)
          (fun _ _ _ _ _ => trivial)
      · refine .zoom (Q := fun buffers : JpegBuffers => buffers.nearest.Fresh)
          (fun _ holds => holds) (fun _ _ _ kept => kept) ?_
        refine .zoom (Q := NearestMap.Fresh) (fun _ holds => holds) (fun _ _ _ kept => kept) ?_
        exact fun _ _ _ fresh ran => (NearestMap.update_fresh fresh ran).1
      · refine .zoom (Q := fun buffers : JpegBuffers => buffers.nearest.Fresh)
          (fun _ holds => holds) (fun _ _ _ kept => kept) ?_
        exact .zoom (Q := fun _ => True) (fun _ _ => trivial) (fun _ _ holds _ => holds)
          (fun _ _ _ _ _ => trivial)

private theorem decodeWith_keeps {τ : Type} {lib : Turbojpeg} {data : List UInt8} {P : τ → Prop}
    {decode : List UInt8 → Fill (lib.Decompressor × τ) CameraError Unit}
    (inner : ∀ complete, Keeps (fun s : lib.Decompressor × τ => P s.2) (decode complete)) :
    Keeps (fun s : Option lib.Decompressor × τ => P s.2) (decodeWith lib data decode) := by
  refine .bind .ofExcept fun complete => ?_
  rintro ⟨decoder, rest⟩ result s' holds ran
  simp only at ran
  split at ran
  · cases ran
    exact holds
  · rename_i decompressor _
    split at ran
    · cases ran
    · rename_i reached
      cases ran
      exact inner complete _ _ _ (show P (decompressor, rest).2 from holds) reached
    · rename_i reached
      cases ran
      exact inner complete _ _ _ (show P (decompressor, rest).2 from holds) reached

private theorem convertMjpeg_keeps {data : List UInt8} {w h outW outH : Nat} :
    Keeps FreshCache (convertMjpeg data w h outW outH : Conversion target Unit) :=
  .zoom (Q := fun s : Option target.turbojpeg.Decompressor × JpegBuffers => s.2.nearest.Fresh)
    (fun _ holds => holds) (fun _ _ _ kept => kept)
    (decodeWith_keeps (P := fun buffers : JpegBuffers => buffers.nearest.Fresh)
      fun _ => decodeJpeg_keeps)

theorem onOut_keeps {m : RgbFill Unit} :
    Keeps FreshCache (onSnd m : Conversion target Unit) :=
  .onSnd (P := fun converter : RgbConverter target => converter.nearest.Fresh)

theorem convertMapped_keeps {layout : FrameLayout} {data : List UInt8} {outW outH : Nat}
    {c : Coefficients} :
    Keeps FreshCache (convertMapped layout data outW outH c : Conversion target Unit) := by
  refine .bind ?_ fun _ => .bind .getState fun _ => ?_
  · refine .zoom (Q := fun converter : RgbConverter target => converter.nearest.Fresh)
      (fun _ holds => holds) (fun _ _ _ kept => kept) ?_
    refine .zoom (Q := NearestMap.Fresh) (fun _ holds => holds) (fun _ _ _ kept => kept) ?_
    exact fun _ _ _ fresh ran => (NearestMap.update_fresh fresh ran).1
  · split
    · exact .zoom (Q := fun _ => True) (fun _ _ => trivial) (fun _ _ holds _ => holds)
        (fun _ _ _ _ _ => trivial)
    · split
      · exact onOut_keeps
      · exact onOut_keeps

private theorem convertRaw_keeps {layout : FrameLayout} {data : List UInt8}
    {request : ConversionRequest} {c : Coefficients} :
    Keeps FreshCache (convertRaw layout data request c : Conversion target Unit) := by
  unfold convertRaw
  split
  · exact onOut_keeps
  · split
    · refine .bind (.bind .read fun _ => .bind .view fun _ => .pure) fun plane => ?_
      split
      · exact onOut_keeps
      · exact convertMapped_keeps
    · exact convertMapped_keeps

private theorem convertLayoutInto_keeps {layout : FrameLayout} {data : List UInt8}
    {request : ConversionRequest} :
    Keeps FreshCache (convertLayoutInto layout data request : Conversion target Unit) := by
  refine .bind .ofExcept fun _ => .bind .ofExcept fun _ => .bind .getState fun _ =>
    .bind .failIf fun _ => ?_
  split
  · split
    · exact convertMjpeg_keeps
    · exact .fail
  · exact .fail
  · exact .bind .ofExcept fun _ => convertRaw_keeps

theorem RgbConverter.Used.fresh {converter : RgbConverter target} (used : converter.Used) :
    converter.nearest.Fresh := by
  refine used.invariant (P := fun converter => converter.nearest.Fresh) ?_ ?_
  · rintro converter rfl
    exact ⟨rfl, rfl⟩
  · intro converter call next _ taken fresh
    simp only [converterMachine, Option.map_eq_some_iff] at taken
    obtain ⟨⟨result, after, out⟩, ran, rfl⟩ := taken
    exact convertLayoutInto_keeps _ _ _ (show FreshCache (converter, call.out) from fresh) ran

end Cache

/-! ### The mapped paths -/

section Mapped

variable {target : Target} {layout : FrameLayout} {data : List UInt8}
  {request : ConversionRequest} {c : Coefficients} {converter : RgbConverter target}
  {out : List UInt8}

theorem size_product {x a : Nat} {b : UInt32} (inside : x < a) (wide : a ≤ 2 ^ 32) :
    x * b.toNat < usizeLimit := by
  have bound := b.toNat_lt
  have below : x * b.toNat ≤ (2 ^ 32 - 1) * b.toNat := Nat.mul_le_mul_right _ (by omega)
  unfold usizeLimit
  omega

private theorem length_resized {buffer : List UInt8} {length : Nat} :
    (resized buffer length).length = length := by
  simp only [resized, List.length_append, List.length_take, List.length_replicate]
  omega

theorem length_requestedImage {outW outH : Nat} :
    (requestedImage layout data c outW outH).length = outH * (outW * 3) :=
  IsRgbImage.length fun _ _ => isRgb_reference

theorem convertMapped_returns (fresh : converter.nearest.Fresh)
    (accepted : layout.validate data.length = .ok ())
    (raw : layout.format.isCompressed = false) (small : data.length < usizeLimit)
    (configured : c.Configured) (positive : 0 < request.width.toNat)
    (same : out.length =
      (requestedImage layout data c request.width.toNat request.height.toNat).length) :
    ∃ next, Returns (convertMapped layout data request.width.toNat request.height.toNat c :
        Conversion target Unit) (converter, out) ()
      (next, requestedImage layout data c request.width.toNat request.height.toNat) := by
  obtain ⟨wide, tall, -⟩ := FrameLayout.validate_ok accepted
  obtain ⟨map, updated, -, columns, rows⟩ := @NearestMap.update_returns usizeLimit CameraError
    layout.width.toNat layout.height.toNat request.width.toNat request.height.toNat
    layout.bottomUp converter.nearest fresh tall
    (fun x inside => size_product inside (Nat.le_of_lt request.width.toNat_lt))
    (fun y inside => size_product inside (Nat.le_of_lt request.height.toNat_lt))
  have start {m : Conversion target Unit} {next : RgbConverter target}
      (rest : Returns m ({ converter with nearest := map }, out) () (next,
        requestedImage layout data c request.width.toNat request.height.toNat)) :
      Returns (onFst (zoom RgbConverter.nearest
          (fun nearest converter => { converter with nearest := nearest })
          (NearestMap.update usizeLimit layout.width.toNat layout.height.toNat
            request.width.toNat request.height.toNat layout.bottomUp)) >>=
        fun _ => m : Conversion target Unit) (converter, out) ()
        (next, requestedImage layout data c request.width.toNat request.height.toNat) :=
    .bind (.onFst (.zoom updated)) rest
  by_cases rowWise : layout.format.isYuv ∧ supportsYuvRowConversion layout ∧
      min (request.width.toNat * 4) (usizeLimit - 1) ≥ layout.width.toNat
  · obtain ⟨scratch, scaled⟩ := scaleYuvNearest_writes target.cpu accepted rowWise.1 rowWise.2.1
      configured small positive (@length_resized converter.rgbRowScratch _) same
    rw [← columns, ← rows] at scaled
    refine ⟨{ converter with nearest := map, rgbRowScratch := scratch }, start (.bind .getState ?_)⟩
    simp only [if_pos rowWise]
    exact .zoom_eq scaled rfl
  · refine ⟨{ converter with nearest := map }, start (.bind .getState ?_)⟩
    simp only [if_neg rowWise, columns, rows]
    by_cases yuv : layout.format.isYuv = true
    · rw [if_pos yuv]
      exact .onSnd ((scaleYuvScalar_fills accepted yuv configured.small positive).writes out same)
    · rw [if_neg yuv]
      exact .onSnd ((scaleNearest_fills accepted raw (Bool.not_eq_true _ |>.mp yuv)
        positive).writes out same)

private theorem convertRaw_returns (fresh : converter.nearest.Fresh)
    (accepted : layout.validate data.length = .ok ())
    (raw : layout.format.isCompressed = false) (small : data.length < usizeLimit)
    (configured : c.Configured) (positive : 0 < request.width.toNat)
    (addressable : request.width.toNat * request.height.toNat * 3 < usizeLimit)
    (same : out.length =
      (requestedImage layout data c request.width.toNat request.height.toNat).length) :
    ∃ next, Returns (convertRaw layout data request c : Conversion target Unit)
      (converter, out) ()
      (next, requestedImage layout data c request.width.toNat request.height.toNat) := by
  unfold convertRaw
  split
  · rename_i half
    exact ⟨converter, .onSnd (convertHalf_writes target.cpu accepted small configured half
      addressable out same)⟩
  · split
    · rename_i direct
      obtain ⟨size, topDown⟩ := direct
      obtain ⟨p, found, holds⟩ := FrameLayout.validate_first accepted raw
      have viewed {s : RgbConverter target × List UInt8} :=
        @viewPlane_returns data p 0 _ s layout 0 found holds (Nat.zero_le _)
      cases chosen : convertSame target.cpu layout data (planeView data p 0) c with
      | none =>
          obtain ⟨next, mapped⟩ := @convertMapped_returns target layout data request c converter
            out fresh accepted raw small configured positive same
          refine ⟨next, .bind viewed ?_⟩
          rw [chosen]
          exact mapped
      | some kernel =>
          obtain ⟨sizeW, sizeH⟩ := Prod.mk.injEq .. |>.mp size
          have written := convertSame_writes target.cpu accepted small configured found topDown
            size (by rwa [← sizeW, ← sizeH]) chosen
          refine ⟨converter, .bind viewed ?_⟩
          rw [chosen]
          exact .onSnd (written out same)
    · exact convertMapped_returns fresh accepted raw small configured positive same

end Mapped

/-! ### The whole conversion -/

section Whole

variable {target : Target} {layout : FrameLayout} {data : List UInt8}
  {request : ConversionRequest} {c : Coefficients} {converter : RgbConverter target}
  {out : List UInt8}

theorem ConversionRequest.outputLen_ok {bytes : Nat} :
    request.outputLen = .ok bytes ↔
      request.width.toNat * request.height.toNat * 3 = bytes ∧ 0 < bytes ∧
        bytes < usizeLimit := by
  have product : (checkedMul request.width.toNat request.height.toNat).bind (checkedMul · 3) =
      some bytes ↔ request.width.toNat * request.height.toNat * 3 = bytes ∧
        bytes < usizeLimit := by
    constructor
    · intro found
      obtain ⟨pixels, first, second⟩ := Option.bind_eq_some_iff.mp found
      obtain ⟨-, rfl⟩ := checkedMul_eq_some.mp first
      obtain ⟨fits, rfl⟩ := checkedMul_eq_some.mp second
      exact ⟨rfl, fits⟩
    · rintro ⟨rfl, fits⟩
      exact checkedMulMul_lt (by omega) fits
  have filtered : ((checkedMul request.width.toNat request.height.toNat).bind
      (checkedMul · 3)).filter (fun bytes => decide (0 < bytes)) = some bytes ↔
        request.width.toNat * request.height.toNat * 3 = bytes ∧ 0 < bytes ∧
          bytes < usizeLimit := by
    rw [Option.filter_eq_some_iff, product, decide_eq_true_eq]
    constructor
    · rintro ⟨⟨size, fits⟩, positive⟩
      exact ⟨size, positive, fits⟩
    · rintro ⟨size, positive, fits⟩
      exact ⟨⟨size, fits⟩, positive⟩
  rw [← filtered]
  unfold ConversionRequest.outputLen
  split
  · rename_i known
    rw [known, Except.ok.injEq, Option.some.injEq]
  · rename_i unknown
    rw [unknown]
    simp

theorem coefficientsFor_ok :
    (∃ c, coefficientsFor layout request = .ok c) ↔
      (layout.format.isYuv = true → (request.color layout).IsKnown) := by
  unfold coefficientsFor
  split
  · rename_i yuv
    rw [colorCoefficients_ok]
    exact ⟨fun known _ => known, fun known => known yuv⟩
  · rename_i packed
    exact ⟨fun _ yuv => absurd yuv packed, fun _ => ⟨_, rfl⟩⟩

theorem coefficientsFor_configured (known : coefficientsFor layout request = .ok c) :
    c.Configured := by
  unfold coefficientsFor at known
  split at known
  · exact ⟨_, known⟩
  · cases known
    exact ⟨{ matrix := .bt601, range := .full }, rfl⟩

theorem convertLayoutInto_returns (fresh : converter.nearest.Fresh)
    (accepted : layout.validate data.length = .ok ())
    (raw : layout.format.isCompressed = false) (small : data.length < usizeLimit)
    (length : request.outputLen = .ok out.length)
    (known : coefficientsFor layout request = .ok c) :
    ∃ next, Returns (convertLayoutInto layout data request : Conversion target Unit)
      (converter, out) ()
      (next, requestedImage layout data c request.width.toNat request.height.toNat) := by
  obtain ⟨size, positive, addressable⟩ := ConversionRequest.outputLen_ok.mp length
  have wide : 0 < request.width.toNat := by
    refine Nat.pos_of_ne_zero fun zero => ?_
    rw [zero, Nat.zero_mul, Nat.zero_mul] at size
    omega
  have same : out.length =
      (requestedImage layout data c request.width.toNat request.height.toNat).length := by
    rw [length_requestedImage, ← size, Nat.mul_comm request.width.toNat, Nat.mul_assoc]
  obtain ⟨next, converted⟩ := convertRaw_returns fresh accepted raw small
    (coefficientsFor_configured known) wide (by omega) same
  refine ⟨next, .bind (.ofExcept accepted) (.bind (.ofExcept length) (.bind .getState
    (.bind (.failIf (not_not.mpr rfl)) ?_)))⟩
  cases format : layout.format with
  | mjpeg | h264 =>
      rw [format] at raw
      cases raw
  | rgb8 | bgr8 | bgra8 | rgba8 | argb8 | yuyv | uyvy | nv12 | nv21 | yuv420p | gray8 =>
      exact .bind (.ofExcept known) converted

/-- Every raw conversion into a buffer of the right length succeeds, and pixel
`(x, y)` of the result is the pixel of source column `⌊x·w/out_w⌋` and source row
`⌊y·h/out_h⌋`, counted from the bottom for a bottom-up layout. -/
theorem convertLayoutInto_pixels (used : converter.Used)
    (raw : layout.format.isCompressed = false)
    (accepted : layout.validate data.length = .ok ()) (small : data.length < usizeLimit)
    (positive : 0 < request.width.toNat ∧ 0 < request.height.toNat)
    (known : layout.format.isYuv = true → (request.color layout).IsKnown)
    (length : out.length = request.width.toNat * request.height.toNat * 3)
    (addressable : out.length < usizeLimit) :
    ∃ c next image,
      (layout.format.isYuv = true → colorCoefficients (request.color layout) = .ok c) ∧
      convertLayoutInto layout data request (converter, out) = some (.ok (), next, image) ∧
      image.length = out.length ∧
      ∀ x y, x < request.width.toNat → y < request.height.toNat →
        slice image ((y * request.width.toNat + x) * 3)
            ((y * request.width.toNat + x) * 3 + 3) =
          referencePixel layout data c (x * layout.width.toNat / request.width.toNat)
            (if layout.bottomUp then
              layout.height.toNat - 1 - y * layout.height.toNat / request.height.toNat
            else y * layout.height.toNat / request.height.toNat) := by
  obtain ⟨c, found⟩ := (@coefficientsFor_ok layout request).mpr known
  have bytes : 0 < out.length := by
    rw [length]
    exact Nat.mul_pos (Nat.mul_pos positive.1 positive.2) (by omega)
  obtain ⟨next, converted⟩ := convertLayoutInto_returns used.fresh accepted raw small
    (ConversionRequest.outputLen_ok.mpr ⟨length.symm, bytes, addressable⟩) found
  refine ⟨c, next, _, fun yuv => ?_, converted, ?_, fun x y inside bound => ?_⟩
  · rw [← found, coefficientsFor, if_pos yuv]
  · rw [length_requestedImage, length, ← Nat.mul_assoc, Nat.mul_comm request.height.toNat]
  · exact slice_imageOf (fun _ _ => isRgb_reference) bound inside

def Target.withoutJpeg : Target where
  cpu := Cpu.portable
  turbojpeg :=
    { Decompressor := Empty
      ScalingFactor := Unit
      one := ()
      supportedScalingFactors := [()]
      num := fun _ => 1
      denom := fun _ => 1
      scale := fun _ size => size
      create := .error "built without TurboJPEG"
      readHeader := fun _ decoder => decoder.elim
      setScalingFactor := fun _ decoder => decoder.elim
      decompress := fun _ _ _ _ state => state.1.elim }
  decodeMjpeg := false

theorem RgbConverter.used_new {target : Target} : ({} : RgbConverter target).Used :=
  ⟨{}, [], rfl, .nil⟩

/-- A bottom-up 3x3 NV21 image whose planes have padded rows. -/
def paddedNv21 : FrameLayout :=
  { width := 3
    height := 3
    format := .nv21
    planes :=
      [{ offset := 1, length := 13, rowStride := 5, pixelStride := 1 },
        { offset := 14, length := 10, rowStride := 6, pixelStride := 2 }]
    color := { matrix := .bt709, range := .limited }
    bottomUp := true }

def paddedBytes : List UInt8 := (List.range 24).map fun i => UInt8.ofNat (i * 11)

theorem convertLayoutInto_pixels_padded :
    ∃ c next image,
      (paddedNv21.format.isYuv = true →
        colorCoefficients (ConversionRequest.color ⟨2, 4, none⟩ paddedNv21) = .ok c) ∧
      convertLayoutInto paddedNv21 paddedBytes ⟨2, 4, none⟩
          (({} : RgbConverter Target.withoutJpeg), List.replicate 24 7) =
        some (.ok (), next, image) ∧
      image.length = 24 ∧
      ∀ x y, x < 2 → y < 4 →
        slice image ((y * 2 + x) * 3) ((y * 2 + x) * 3 + 3) =
          referencePixel paddedNv21 paddedBytes c (x * 3 / 2) (3 - 1 - y * 3 / 4) :=
  convertLayoutInto_pixels RgbConverter.used_new rfl (by decide +kernel) (by decide)
    ⟨by decide, by decide⟩ (fun _ => ⟨by decide, by decide⟩) (by decide) (by decide)

theorem convertLayoutInto_refuses (supported : layout.format ≠ .mjpeg)
    (broken : ¬(layout.validate data.length = .ok () ∧ layout.format ≠ .h264 ∧
      out.length = request.width.toNat * request.height.toNat * 3 ∧ 0 < out.length ∧
      (layout.format.isYuv = true → (request.color layout).IsKnown))) :
    ∃ e, Refuses (convertLayoutInto layout data request : Conversion target Unit)
      (converter, out) e := by
  cases accepted : layout.validate data.length with
  | error e => exact ⟨e, .here (.ofExcept accepted)⟩
  | ok _ =>
      cases sized : request.outputLen with
      | error e => exact ⟨e, .later (.ofExcept accepted) (.here (.ofExcept sized))⟩
      | ok bytes =>
          have start {e : CameraError} {m : Nat → Conversion target Unit}
              (rest : Refuses (m bytes) (converter, out) e) :
              Refuses (ofExcept (layout.validate data.length) >>= fun _ =>
                ofExcept request.outputLen >>= m) (converter, out) e :=
            .later (.ofExcept accepted) (.later (.ofExcept sized) rest)
          by_cases same : bytes = out.length
          · subst same
            obtain ⟨size, positive, _⟩ := ConversionRequest.outputLen_ok.mp sized
            cases format : layout.format with
            | mjpeg => exact absurd format supported
            | h264 =>
                refine ⟨.unsupportedFormat "H264 decoding requires an external video decoder",
                  start (.later .getState (.later (.failIf (not_not.mpr rfl)) ?_))⟩
                simp only [format]
                exact .fail
            | rgb8 | bgr8 | bgra8 | rgba8 | argb8 | yuyv | uyvy | nv12 | nv21 | yuv420p | gray8 =>
                cases known : coefficientsFor layout request with
                | ok c =>
                    rw [accepted] at broken
                    exact absurd ⟨rfl, by rw [format]; decide, size.symm, positive,
                      coefficientsFor_ok.mp ⟨c, known⟩⟩ broken
                | error e =>
                    refine ⟨e, start (.later .getState (.later (.failIf (not_not.mpr rfl)) ?_))⟩
                    simp only [format]
                    exact .here (.ofExcept known)
          · exact ⟨_, start (.later .getState (.here (.failIf same)))⟩

/-- Raw and H264 conversion never panics, succeeds exactly on what the checks
describe, and a refusal leaves the converter and the destination alone. Offsets
are naturals here: the buffers are shorter than `2^64`, so an index that lies
inside one has not wrapped. -/
theorem convertLayoutInto_total (used : converter.Used) (supported : layout.format ≠ .mjpeg)
    (small : data.length < usizeLimit) (addressable : out.length < usizeLimit) :
    ∃ result next image,
      convertLayoutInto layout data request (converter, out) = some (result, next, image) ∧
      (result = .ok () ↔
        layout.validate data.length = .ok () ∧ layout.format ≠ .h264 ∧
        out.length = request.width.toNat * request.height.toNat * 3 ∧ 0 < out.length ∧
        (layout.format.isYuv = true → (request.color layout).IsKnown)) ∧
      (∀ e, result = .error e → next = converter ∧ image = out) := by
  by_cases fine : layout.validate data.length = .ok () ∧ layout.format ≠ .h264 ∧
      out.length = request.width.toNat * request.height.toNat * 3 ∧ 0 < out.length ∧
      (layout.format.isYuv = true → (request.color layout).IsKnown)
  · obtain ⟨accepted, notH264, length, positive, known⟩ := fine
    obtain ⟨c, found⟩ := (@coefficientsFor_ok layout request).mpr known
    have raw : layout.format.isCompressed = false := by
      cases format : layout.format <;> simp_all [PixelFormat.isCompressed]
    obtain ⟨next, converted⟩ := convertLayoutInto_returns used.fresh accepted raw small
      (ConversionRequest.outputLen_ok.mpr ⟨length.symm, positive, addressable⟩) found
    refine ⟨.ok (), next, _, converted, ?_, fun e failed => nomatch failed⟩
    exact ⟨fun _ => ⟨accepted, notH264, length, positive, known⟩, fun _ => rfl⟩
  · obtain ⟨e, refused⟩ := @convertLayoutInto_refuses target layout data request converter out
      supported fine
    refine ⟨.error e, converter, out, refused, ?_, fun _ _ => ⟨rfl, rfl⟩⟩
    exact ⟨fun ok => (nomatch ok), fun holds => absurd holds fine⟩

theorem convertLayoutInto_total_padded :
    ∃ result next image,
      convertLayoutInto paddedNv21 paddedBytes ⟨2, 4, none⟩
          (({} : RgbConverter Target.withoutJpeg), List.replicate 23 7) =
        some (result, next, image) ∧
      (result = .ok () ↔
        paddedNv21.validate paddedBytes.length = .ok () ∧ paddedNv21.format ≠ .h264 ∧
        23 = 2 * 4 * 3 ∧ 0 < 23 ∧
        (paddedNv21.format.isYuv = true →
          (ConversionRequest.color ⟨2, 4, none⟩ paddedNv21).IsKnown)) ∧
      (∀ e, result = .error e → next = {} ∧ image = List.replicate 23 7) :=
  convertLayoutInto_total RgbConverter.used_new (by decide) (by decide) (by decide)

end Whole

end CameraRs

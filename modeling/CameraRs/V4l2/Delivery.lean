/-
The two deliveries of the V4L2 backend agree: a frame of a negotiated raw format is
decoded to RGB exactly when its native layout is published and converted, and the
RGB bytes are the same.
-/

import CameraRs.V4l2.Convert
import CameraRs.Conversion.Native

namespace CameraRs.V4l2

open Lib Lib.Fill

/-! ### Negotiated configurations -/

structure Negotiated (format : Format) (config : CameraConfig) : Prop where
  valid : config.validate = .ok ()
  decodable : config.format ≠ .h264
  planes : format.planes.toNat = 1 ∨ (config.format = .nv12 ∧ format.planes.toNat = 2)

private theorem fromFourcc_decodable {code : UInt32} {pixels : VideoFormat}
    (known : fromFourcc code = some pixels) : pixels ≠ .h264 := by
  rintro rfl
  unfold fromFourcc at known
  split at known <;> cases known

theorem configFromFormat_ok {format : Format} {config : CameraConfig}
    (admitted : configFromFormat format = .ok config) : Negotiated format config := by
  unfold configFromFormat at admitted
  cases known : fromFourcc format.fourcc with
  | none =>
      rw [known] at admitted
      cases admitted
  | some pixels =>
      rw [known] at admitted
      dsimp only at admitted
      split at admitted
      · cases admitted
      · rename_i count
        split at admitted
        · cases admitted
        · cases rated : FrameRate.new format.fps format.fpsDenominator with
          | error e =>
              rw [rated] at admitted
              cases admitted
          | ok rate =>
              rw [rated] at admitted
              change (CameraConfig.validate (CameraConfig.withFrameRate _ rate) >>=
                fun _ => Except.ok _) = Except.ok config at admitted
              cases valid : CameraConfig.validate (CameraConfig.withFrameRate
                { format := pixels, width := format.width, height := format.height,
                  fps := format.fps } rate) with
              | error e =>
                  rw [valid] at admitted
                  cases admitted
              | ok _ =>
                  rw [valid] at admitted
                  cases admitted
                  refine ⟨valid, fromFourcc_decodable known, ?_⟩
                  by_cases single : format.planes = 1
                  · exact Or.inl (by rw [single]; rfl)
                  · have pair := not_not.mp (not_and.mp count single)
                    exact Or.inr ⟨pair.1, by rw [pair.2]; rfl⟩

/-! ### Rows of a plane -/

structure Plane.Holds (plane : Plane) (rowBytes height : Nat) : Prop where
  row : rowBytes ≤ plane.stride
  extent : (height - 1) * plane.stride + rowBytes ≤ plane.data.length

theorem checkRows_ok {plane : Plane} {rowBytes height : Nat} (positive : 0 < rowBytes)
    (tall : 0 < height) (small : plane.data.length < usizeLimit) :
    checkRows plane rowBytes height = .ok () ↔ plane.Holds rowBytes height := by
  unfold checkRows
  constructor
  · intro accepted
    dsimp only at accepted
    split at accepted
    · cases accepted
    · rename_i bounds
      push Not at bounds
      obtain ⟨-, row, extent⟩ := bounds
      refine ⟨row, ?_⟩
      cases known : ((checkedSub height 1).bind (checkedMul · plane.stride)).bind
          (checkedAdd · rowBytes) with
      | none =>
          rw [known] at extent
          exact absurd rfl extent
      | some required =>
          rw [known, Option.all_some, ne_eq, decide_eq_true_eq] at extent
          rw [checkedSub, if_pos (by omega), Option.bind_some] at known
          obtain ⟨_, product, sum⟩ := Option.bind_eq_some_iff.mp known
          obtain ⟨-, rfl⟩ := checkedMul_eq_some.mp product
          obtain ⟨-, rfl⟩ := checkedAdd_eq_some.mp sum
          omega
  · intro holds
    have row := holds.row
    have extent := holds.extent
    have required : ((checkedSub height 1).bind (checkedMul · plane.stride)).bind
        (checkedAdd · rowBytes) = some ((height - 1) * plane.stride + rowBytes) := by
      rw [checkedSub, if_pos (by omega), Option.bind_some]
      exact checkedMulAdd_lt (by omega)
    dsimp only
    rw [if_neg]
    rw [required, Option.all_some, decide_eq_true_eq]
    omega

theorem checkRows_error {plane : Plane} {rowBytes height : Nat} (positive : 0 < rowBytes)
    (tall : 0 < height) (small : plane.data.length < usizeLimit)
    (short : ¬plane.Holds rowBytes height) :
    ∃ e, checkRows plane rowBytes height = .error e := by
  cases checked : checkRows plane rowBytes height with
  | ok _ => exact absurd ((checkRows_ok positive tall small).mp checked) short
  | error e => exact ⟨e, rfl⟩

/-! ### The decoder -/

section Decoder

variable {target : Target} {format : Format} {config : CameraConfig} {planes : List Plane}
  {first second : Plane} {decoder : Converter target} {out image : List UInt8}

/-- The plane count of the frame is the negotiated one, and its bytes are slices. -/
structure Dequeued (format : Format) (planes : List Plane) : Prop where
  count : planes.length = format.planes.toNat
  slices : ∀ plane ∈ planes, plane.data.length < 2 ^ 63

private theorem convert_start (negotiated : Negotiated format config)
    (dequeued : Dequeued format planes) (found : planes.head? = some first)
    (length : out.length = config.width.toNat * config.height.toNat * 3)
    (addressable : out.length < usizeLimit) :
    Converter.convert config planes (decoder, out) =
      decodeFrame config planes first decoder.coefficients (decoder, out) := by
  have fits : (checkedMul config.width.toNat config.height.toNat).bind (checkedMul · 3) =
      some out.length := by
    rw [length]
    exact checkedMulMul_lt (by omega) (by omega)
  have count : ¬(planes.length ≠ 1 ∧ ¬(config.format = .nv12 ∧ planes.length = 2)) := by
    rintro ⟨several, other⟩
    rw [dequeued.count] at several other
    rcases negotiated.planes with one | two
    · exact several one
    · exact other two
  refine (Returns.then_eq (.ofExcept negotiated.valid)).trans ?_
  refine (Returns.then_eq (.orFail fits)).trans ?_
  refine (Returns.then_eq .getState).trans ?_
  refine (Returns.then_eq (.failIf (Nat.lt_irrefl _))).trans ?_
  refine (Returns.then_eq (.orFail found)).trans ?_
  exact Returns.then_eq (.failIf count)

end Decoder

/-! ### The published payload -/

section Payload

variable {target : Target} {format : Format} {config : CameraConfig} {planes : List Plane}
  {layout : FrameLayout} {c : Coefficients} {converter : RgbConverter target}
  {out : List UInt8}

private theorem deliverNative_converts (made : nativeLayout config format planes = .ok layout)
    (small : (planes.map Plane.data).flatten.length < usizeLimit)
    (described : (layout.planes.map fun p => p.offset + p.length).max?.getD 0 =
      (planes.map Plane.data).flatten.length) :
    deliverNative format config planes (converter, out) =
      convertLayoutInto layout (planes.map Plane.data).flatten
        (ConversionRequest.forLayout layout) (converter, out) := by
  refine (Returns.then_eq (.ofExcept made)).trans ?_
  have checked := checkParts_described small described
  cases accepted : layout.validate (planes.map Plane.data).flatten.length with
  | ok _ =>
      rw [accepted] at checked
      exact Returns.then_eq (.ofExcept checked)
  | error e =>
      rw [accepted] at checked
      have first : Refuses (convertLayoutInto layout (planes.map Plane.data).flatten
          (ConversionRequest.forLayout layout)) (converter, out) e :=
        .here (.ofExcept accepted)
      have second : Refuses (Fill.ofExcept (Frame.checkParts layout (planes.map Plane.data)) >>=
          fun _ => convertLayoutInto layout (planes.map Plane.data).flatten
            (ConversionRequest.forLayout layout)) (converter, out) e :=
        .here (.ofExcept checked)
      exact second.trans first.symm

end Payload

/-! ### Colour -/

section Colour

variable {target : Target} {format : Format} {config : CameraConfig} {layout : FrameLayout}

private theorem ycbcrMatrix_known {ycbcr : UInt32} {matrix : ColorMatrix}
    (found : ycbcrMatrix ycbcr = some matrix) : matrix ≠ .unknown := by
  rintro rfl
  unfold ycbcrMatrix at found
  repeat' split at found
  all_goals cases found

theorem color_known : format.color.IsKnown ↔ ∃ matrix, ycbcrMatrix format.ycbcr = some matrix := by
  constructor
  · intro known
    cases found : ycbcrMatrix format.ycbcr with
    | none =>
        have unknown : format.color.matrix = .unknown := by
          rw [Format.color, found]
          rfl
        exact absurd unknown known.1
    | some matrix => exact ⟨matrix, rfl⟩
  · rintro ⟨matrix, found⟩
    constructor
    · rw [Format.color, found]
      exact ycbcrMatrix_known found
    · change ycbcrRange _ ≠ .unknown
      unfold ycbcrRange
      split <;> decide

/-- `set_colorimetry` is called. -/
def Colored (config : CameraConfig) : Prop :=
  config.format = .yuyv ∨ config.format = .uyvy ∨ config.format = .nv12

/-- The stream's decoder and the converter of its consumer choose the same
coefficients, or both reject the colour. -/
private theorem openDecoder_agrees (color : layout.color = format.color)
    (yuv : layout.format.isYuv = true ↔ Colored config) :
    match coefficientsFor layout (ConversionRequest.forLayout layout) with
    | .ok c => ∃ decoder : Converter target,
        openDecoder format config = .ok decoder ∧ decoder.coefficients = c
    | .error _ => ∃ e, (openDecoder format config : CameraResult (Converter target)) = .error e := by
  have new : (Converter.new : CameraResult (Converter target)) =
      .ok { coefficients := bt601FullCoefficients } := rfl
  have same : (ConversionRequest.forLayout layout).color layout = format.color := color
  by_cases colored : Colored config
  · have opened : (openDecoder format config : CameraResult (Converter target)) =
        Converter.setColorimetry { coefficients := bt601FullCoefficients } format.ycbcr
          (format.fullRange != 0) := by
      rw [openDecoder, new]
      exact if_pos colored
    rw [coefficientsFor, if_pos (yuv.mpr colored), same, opened, Converter.setColorimetry]
    cases found : ycbcrMatrix format.ycbcr with
    | none =>
        have unknown : ¬∃ c, colorCoefficients format.color = .ok c := by
          rw [colorCoefficients_ok, color_known, found]
          simp
        cases coefficients : colorCoefficients format.color with
        | ok c => exact absurd ⟨c, coefficients⟩ unknown
        | error e => exact ⟨_, rfl⟩
    | some matrix =>
        have reported : format.color =
            { matrix := matrix, range := ycbcrRange (format.fullRange != 0) } := by
          rw [Format.color, found]
          rfl
        dsimp only
        rw [← reported]
        cases coefficients : colorCoefficients format.color with
        | ok c => exact ⟨_, rfl, rfl⟩
        | error e => exact ⟨e, rfl⟩
  · have opened : (openDecoder format config : CameraResult (Converter target)) =
        .ok { coefficients := bt601FullCoefficients } := by
      rw [openDecoder, new]
      exact if_neg colored
    rw [coefficientsFor, if_neg fun isYuv => colored (yuv.mp isYuv)]
    exact ⟨_, opened, rfl⟩

end Colour

/-! ### Agreement -/

section Agreement

variable {target : Target} {format : Format} {config : CameraConfig} {planes : List Plane}
  {first : Plane} {layout : FrameLayout} {decoder : Converter target}
  {converter : RgbConverter target} {out : List UInt8}

/-- Both deliveries write the same image, or both refuse and write nothing. -/
def Agree (format : Format) (config : CameraConfig) (planes : List Plane)
    (decoder : Converter target) (converter : RgbConverter target) (out : List UInt8) : Prop :=
  (∃ image decoder' converter',
    deliverRgb format config planes (decoder, out) = some (.ok (), decoder', image) ∧
    deliverNative format config planes (converter, out) = some (.ok (), converter', image)) ∨
  (∃ e decoder' e',
    deliverRgb format config planes (decoder, out) = some (.error e, decoder', out) ∧
    deliverNative format config planes (converter, out) = some (.error e', converter, out))

structure Described (config : CameraConfig) (format : Format) (planes : List Plane)
    (first : Plane) (layout : FrameLayout) (target : Target) : Prop where
  made : nativeLayout config format planes = .ok layout
  raw : layout.format.isCompressed = false
  size : layout.width = config.width ∧ layout.height = config.height
  color : layout.color = format.color
  yuv : layout.format.isYuv = true ↔ Colored config
  whole : (layout.planes.map fun p => p.offset + p.length).max?.getD 0 =
    (planes.map Plane.data).flatten.length
  accepts : layout.validate (planes.map Plane.data).flatten.length = .ok () →
    ∀ c : Coefficients, c.Configured → ∀ (decoder : Converter target) (out : List UInt8),
      out.length = config.width.toNat * config.height.toNat * 3 → out.length < usizeLimit →
      Returns (decodeFrame config planes first c) (decoder, out) ()
        (decoder, requestedImage layout (planes.map Plane.data).flatten c config.width.toNat
          config.height.toNat)
  refuses : layout.validate (planes.map Plane.data).flatten.length ≠ .ok () →
    ∀ (c : Coefficients) (decoder : Converter target) (out : List UInt8),
      ∃ e, Refuses (decodeFrame config planes first c) (decoder, out) e

theorem deliverRgb_converts {opened : Converter target} (negotiated : Negotiated format config)
    (dequeued : Dequeued format planes) (found : planes.head? = some first)
    (length : out.length = config.width.toNat * config.height.toNat * 3)
    (addressable : out.length < usizeLimit) (known : openDecoder format config = .ok opened) :
    deliverRgb format config planes (decoder, out) =
      decodeFrame config planes first opened.coefficients (opened, out) := by
  refine (Returns.then_eq (.ofExcept known)).trans ?_
  have started := @convert_start target format config planes first opened out negotiated dequeued
    found length addressable
  unfold Fill.zoom
  rw [started]
  cases decodeFrame config planes first opened.coefficients (opened, out) with
  | none => rfl
  | some outcome => rfl

theorem Described.agree (described : Described config format planes first layout target)
    (used : converter.Used) (negotiated : Negotiated format config)
    (dequeued : Dequeued format planes) (found : planes.head? = some first)
    (small : (planes.map Plane.data).flatten.length < usizeLimit)
    (length : out.length = config.width.toNat * config.height.toNat * 3)
    (positive : 0 < out.length) (addressable : out.length < usizeLimit) :
    Agree format config planes decoder converter out := by
  have native := @deliverNative_converts target format config planes layout converter out
    described.made small described.whole
  have notMjpeg : layout.format ≠ .mjpeg := by
    intro format
    have raw := described.raw
    rw [format] at raw
    cases raw
  have sizes : (ConversionRequest.forLayout layout).outputLen = .ok out.length := by
    refine ConversionRequest.outputLen_ok.mpr ⟨?_, positive, addressable⟩
    rw [length, ← described.size.1, ← described.size.2]
    rfl
  have colors := @openDecoder_agrees target format config layout described.color described.yuv
  cases known : coefficientsFor layout (ConversionRequest.forLayout layout) with
  | error _ =>
      rw [known] at colors
      obtain ⟨e, unopened⟩ := colors
      obtain ⟨e', refused⟩ := @convertLayoutInto_refuses target layout
        (planes.map Plane.data).flatten (ConversionRequest.forLayout layout) converter out notMjpeg
        fun fine => by
          obtain ⟨c, coefficients⟩ := coefficientsFor_ok.mpr fine.2.2.2.2
          rw [known] at coefficients
          cases coefficients
      refine Or.inr ⟨e, decoder, e', ?_, native.trans refused⟩
      exact Refuses.here (.ofExcept unopened)
  | ok c =>
      rw [known] at colors
      obtain ⟨opened, isOpen, rfl⟩ := colors
      have rgb := @deliverRgb_converts target format config planes first decoder out opened
        negotiated dequeued found length addressable isOpen
      by_cases accepted : layout.validate (planes.map Plane.data).flatten.length = .ok ()
      · obtain ⟨next, converted⟩ := convertLayoutInto_returns used.fresh accepted described.raw
          small sizes known
        have written := described.accepts accepted opened.coefficients
          (coefficientsFor_configured known) opened out length addressable
        rw [← described.size.1, ← described.size.2] at written
        exact Or.inl ⟨_, opened, next, rgb.trans written, native.trans converted⟩
      · obtain ⟨e, refused⟩ := described.refuses accepted opened.coefficients opened out
        obtain ⟨e', unconverted⟩ := @convertLayoutInto_refuses target layout
          (planes.map Plane.data).flatten (ConversionRequest.forLayout layout) converter out
          notMjpeg fun fine => accepted fine.1
        exact Or.inr ⟨e, opened, e', rgb.trans refused, native.trans unconverted⟩

end Agreement

end CameraRs.V4l2

/-
The two deliveries of an uncompressed UVC frame. The callback converts it to RGB row by row,
the 4:2:2 formats with the 8-bit converter, or publishes it as it is; what it accepts is the
same, and so is the image wherever no colour transform is involved.
-/

import CameraRs.Conversion.Converter8Bit
import CameraRs.Conversion.Native
import CameraRs.MediaFoundation.Rows
import CameraRs.Uvc.Handoff
import CameraRs.V4l2.Formats

namespace CameraRs.Uvc

open Lib Lib.Fill
open MediaFoundation (chunks3 getSlice writeBgr)

/-! ### RGB delivery -/

def invalid (message : String) : CameraError := .invalidFrame message

/-- The loop over the rows of the RGB buffer; `convert` takes the source bytes of a row. -/
def convertRows (data : List UInt8) (width packed stride : Nat) (overflow : String)
    (convert : List UInt8 → RgbFill Unit) : RgbFill Unit := do
  assertThat (width * 3 ≠ 0)
  let rgb ← getState
  forRange 0 (rgb.length / (width * 3)) fun y => do
    let offset ← orFail (checkedMul y stride) (invalid overflow)
    let src ← orFail (getSlice data offset (min (offset + packed) (usizeLimit - 1)))
      (invalid "Truncated UVC row")
    within (y * (width * 3)) (y * (width * 3) + width * 3) (convert src)

def UvcFrame.rowStride (frame : UvcFrame) (packed : Nat) : Nat :=
  if frame.step = 0 then packed else frame.step

def convertPacked422 (converter : ColorConverter) (frame : UvcFrame) (uyvy : Bool) :
    RgbFill Unit := do
  let width := frame.width.toNat
  let packed ← orFail (checkedMul width 2) (invalid "UVC row size overflow")
  let stride := frame.rowStride packed
  failIf (stride < packed) (invalid "UVC row stride is too short")
  if stride = packed then
    converter.toRgbInto uyvy frame.data frame.width frame.height
  else
    convertRows frame.data width packed stride "UVC stride overflow" fun src =>
      converter.toRgbInto uyvy src frame.width 1

/-- The body of the row loop of the branch for RGB, BGR and gray. -/
def convertRow (format : UvcFrameFormat) (src : List UInt8) : RgbFill Unit :=
  if format = .gray8 then forChunks 3 src fun gray => fillWith gray
  else if format = .rgb then copyFromSlice src
  else forChunks 3 (chunks3 src) writeBgr

/-- The branch for RGB, BGR and gray. -/
def convertPlain (frame : UvcFrame) : RgbFill Unit := do
  let channels := if frame.frameFormat = .gray8 then 1 else 3
  let packed := frame.width.toNat * channels
  let stride := frame.rowStride packed
  failIf (stride < packed) (invalid "UVC stride too short")
  convertRows frame.data frame.width.toNat packed stride "UVC row overflow"
    (convertRow frame.frameFormat)

/-- The names that `{:?}` prints. -/
def UvcFrameFormat.name : UvcFrameFormat → String
  | .mjpeg => "Mjpeg"
  | .h264 => "H264"
  | .yuyv => "Yuyv"
  | .uyvy => "Uyvy"
  | .rgb => "Rgb"
  | .bgr => "Bgr"
  | .gray8 => "Gray8"
  | .other => "Unknown"

/-- The closure of `publish_rgb_metadata`; `mjpeg` is the decoder on an MJPEG frame. -/
def convertFrame (converter : ColorConverter) (mjpeg : RgbFill Unit) (frame : UvcFrame) :
    RgbFill Unit :=
  match frame.frameFormat with
  | .mjpeg => mjpeg
  | .yuyv => convertPacked422 converter frame false
  | .uyvy => convertPacked422 converter frame true
  | .rgb | .bgr | .gray8 => convertPlain frame
  | .h264 | .other => fail (.unsupportedFormat frame.frameFormat.name)

/-! ### Native delivery -/

def UvcFrame.layout (frame : UvcFrame) (format : PixelFormat) : FrameLayout :=
  .packed frame.width frame.height format (frame.stride format) frame.data.length

/-- The three bytes of a YUV sample in eight bits: full-range BT.601. -/
def eightBitRgb (y u v : UInt8) : List UInt8 :=
  [clampByte ((y.toNat : Int) + (vToR * ((v.toNat : Int) - 128)) >>> (8 : Nat)),
    clampByte ((y.toNat : Int) -
      (uToG * ((u.toNat : Int) - 128) + vToG * ((v.toNat : Int) - 128)) >>> (8 : Nat)),
    clampByte ((y.toNat : Int) + (uToB * ((u.toNat : Int) - 128)) >>> (8 : Nat))]

def deliveredPixel (layout : FrameLayout) (data : List UInt8) (x r : Nat) : List UInt8 :=
  if layout.format.isYuv then
    let (y, u, v) := sourceYuv layout data x r
    eightBitRgb y u v
  else
    referencePixel layout data packed8BitCoefficients x r

def deliveredImage (layout : FrameLayout) (data : List UInt8) : List UInt8 :=
  imageOf (fun r x => deliveredPixel layout data x r) layout.width.toNat layout.height.toNat

theorem isRgb_delivered {layout : FrameLayout} {data : List UInt8} :
    IsRgbImage fun r x => deliveredPixel layout data x r := by
  intro r x
  simp only [deliveredPixel]
  split
  · rfl
  · exact isRgb_reference

private theorem length_delivered {layout : FrameLayout} {data : List UInt8} :
    (deliveredImage layout data).length = layout.width.toNat * layout.height.toNat * 3 := by
  refine isRgb_delivered.length.trans ?_
  ring

/-! ### Loops over rows -/

section Rows

variable {data out : List UInt8} {width height packed stride : Nat} {overflow : String}
  {convert : List UInt8 → RgbFill Unit} {pixel : Nat → Nat → List UInt8}

def RowInside (data : List UInt8) (packed stride r : Nat) : Prop :=
  r * stride + packed ≤ data.length

instance (r : Nat) : Decidable (RowInside data packed stride r) :=
  inferInstanceAs (Decidable (_ ≤ _))

theorem convertRows_returns (rgb : IsRgbImage pixel) (wide : 0 < width)
    (small : data.length < usizeLimit) (length : out.length = width * height * 3)
    (inside : ∀ r, r < height → RowInside data packed stride r)
    (rows : ∀ r, r < height →
      Writes (convert (slice data (r * stride) (r * stride + packed))) (blocks (pixel r) width)) :
    Returns (convertRows data width packed stride overflow convert) out ()
      (imageOf pixel width height) := by
  have size : out.length = height * (width * 3) := by rw [length, Nat.mul_comm width, Nat.mul_assoc]
  refine .bind (.assertThat (by omega)) (.bind .getState ?_)
  rw [size, Nat.mul_div_cancel _ (by omega)]
  refine (fills_image rgb fun r old bound fits => ?_).writes out (size.trans rgb.length.symm)
  have room : r * stride + packed ≤ data.length := inside r bound
  refine .bind (.orFail (checkedMul_lt (by omega)))
    (.bind (.orFail (MediaFoundation.getSlice_some room small)) ?_)
  exact writes_image_row rgb rfl bound fits (rows r bound)

theorem convertRows_fails {good : Nat → Prop} [DecidablePred good] (wide : 0 < width)
    (small : data.length < usizeLimit - 1) (length : out.length = width * height * 3)
    (bad : ∃ r, r < height ∧ ¬(RowInside data packed stride r ∧ good r))
    (rows : ∀ r, r < height → RowInside data packed stride r → good r →
      ∃ image : List UInt8, image.length = width * 3 ∧
        Writes (convert (slice data (r * stride) (r * stride + packed))) image)
    (fails : ∀ r, r < height → RowInside data packed stride r → ¬good r → ∀ line,
      Fails (convert (slice data (r * stride) (r * stride + packed))) line) :
    Fails (convertRows data width packed stride overflow convert) out := by
  have size : out.length = height * (width * 3) := by rw [length, Nat.mul_comm width, Nat.mul_assoc]
  refine .later (.assertThat (by omega)) (.later .getState ?_)
  rw [size, Nat.mul_div_cancel _ (by omega)]
  obtain ⟨below, wrong⟩ := Nat.find_spec bad
  have room {r : Nat} (bound : r < height) :
      r * (width * 3) + width * 3 ≤ height * (width * 3) := by
    rw [← Nat.succ_mul]
    exact Nat.mul_le_mul_right _ bound
  refine Fails.forRange (k := Nat.find bad) (P := fun old => old.length = height * (width * 3))
    ⟨Nat.zero_le _, below⟩ size (fun r _ early old same => ?_) fun old same => ?_
  · have bound : r < height := by omega
    have fine : RowInside data packed stride r ∧ good r :=
      Classical.not_not.mp fun wrong => Nat.find_min bad early ⟨bound, wrong⟩
    obtain ⟨image, lineSize, writes⟩ := rows r bound fine.1 fine.2
    have enough := room bound
    have written := writes (slice old (r * (width * 3)) (r * (width * 3) + width * 3))
      (by rw [length_slice_add (by omega), lineSize])
    have inside : r * stride + packed ≤ data.length := fine.1
    refine ⟨_, .bind (.orFail (checkedMul_lt (by omega)))
      (.bind (.orFail (MediaFoundation.getSlice_some inside (by omega)))
        (.within (by omega) (by omega) written)), ?_⟩
    simp only [List.length_append, List.length_take, List.length_drop, lineSize]
    omega
  · refine .unlessNone fun offset known => ?_
    obtain ⟨_, rfl⟩ := checkedMul_eq_some.mp known
    by_cases inside : RowInside data packed stride (Nat.find bad)
    · have enough := room below
      refine .later (.orFail (MediaFoundation.getSlice_some inside (by omega)))
        (.within (by omega) (by omega) (fails _ below inside (fun fine => wrong ⟨inside, fine⟩) _))
    · exact .refused (.here (.orFail (MediaFoundation.getSlice_none
        (Nat.lt_of_not_le inside) small)))

end Rows

/-! ### One row -/

section Row

variable {frame : UvcFrame} {format : PixelFormat} {converter : ColorConverter} {uyvy : Bool}
  {r : Nat}

/-- Packed 4:2:2 in either order. -/
def Is422 (format : PixelFormat) (uyvy : Bool) : Prop :=
  format = .yuyv ∧ uyvy = false ∨ format = .uyvy ∧ uyvy = true

theorem eightBitRgb_shifted {y u v : UInt8} :
    shiftedRgb 8 0 255 packed8BitCoefficients y u v = eightBitRgb y u v :=
  shiftedRgb_floored

theorem delivered_422 {x : Nat} (order : Is422 format uyvy) :
    deliveredPixel (frame.layout format) frame.data x r =
      eightBitRgb
        (frame.data.getD (r * frame.stride format + if uyvy then x * 2 + 1 else x * 2) 0)
        (frame.data.getD (r * frame.stride format + if uyvy then x / 2 * 4 else x / 2 * 4 + 1) 0)
        (frame.data.getD
          (r * frame.stride format + if uyvy then x / 2 * 4 + 2 else x / 2 * 4 + 3) 0) := by
  have chroma : x / 2 * 2 * 2 = x / 2 * 4 := by omega
  rcases order with ⟨rfl, rfl⟩ | ⟨rfl, rfl⟩
  · change eightBitRgb _ _ _ = _
    simp [sourceByte, chroma, Nat.add_assoc]
  · change eightBitRgb _ _ _ = _
    simp [sourceByte, chroma, Nat.add_assoc]

theorem packed422Row_writes (order : Is422 format uyvy) (wide : frame.width ≠ 0)
    (even : frame.width.toNat % 2 = 0) (small : frame.data.length < usizeLimit)
    (inside : r * frame.stride format + frame.width.toNat * 2 ≤ frame.data.length) :
    Writes (converter.toRgbInto uyvy
        (slice frame.data (r * frame.stride format)
          (r * frame.stride format + frame.width.toNat * 2)) frame.width 1)
      (blocks (fun x => deliveredPixel (frame.layout format) frame.data x r)
        frame.width.toNat) := by
  have size := length_slice_add inside
  have line : packed8BitImage uyvy (slice frame.data (r * frame.stride format)
        (r * frame.stride format + frame.width.toNat * 2)) frame.width 1 =
      blocks (fun x => deliveredPixel (frame.layout format) frame.data x r)
        frame.width.toNat := by
    rw [packed8BitImage, show frame.width.toNat * UInt32.toNat 1 = frame.width.toNat from
      Nat.mul_one _]
    refine blocks_congr fun x bound => ?_
    have byte (k : Nat) (room : k < frame.width.toNat * 2) :
        (slice frame.data (r * frame.stride format)
          (r * frame.stride format + frame.width.toNat * 2)).getD k 0 =
        frame.data.getD (r * frame.stride format + k) 0 := getD_slice (by omega)
    rw [delivered_422 order, packed8BitPixel, packed422Shifted_eq rfl, eightBitRgb_shifted,
      byte _ (by split <;> omega), byte _ (by split <;> omega), byte _ (by split <;> omega)]
  have one : frame.width.toNat * UInt32.toNat 1 = frame.width.toNat := Nat.mul_one _
  have bound := frame.width.toNat_lt
  rw [← line]
  exact toRgbInto_writes (by omega) ⟨wide, by decide, even, by rw [one]; omega⟩
    (by unfold usizeLimit; omega)

private theorem packed422Whole_writes (order : Is422 format uyvy)
    (sized : frame.width ≠ 0 ∧ frame.height ≠ 0) (even : frame.width.toNat % 2 = 0)
    (small : frame.data.length < usizeLimit)
    (contiguous : frame.stride format = frame.width.toNat * 2)
    (covered : frame.width.toNat * frame.height.toNat * 2 ≤ frame.data.length)
    (addressable : frame.width.toNat * frame.height.toNat * 3 < usizeLimit) :
    Writes (converter.toRgbInto uyvy frame.data frame.width frame.height)
      (deliveredImage (frame.layout format) frame.data) := by
  have whole : packed8BitImage uyvy frame.data frame.width frame.height =
      deliveredImage (frame.layout format) frame.data := by
    rw [packed8BitImage, Nat.mul_comm frame.width.toNat, ← blocks_mul]
    refine blocks_congr fun r _ => blocks_congr fun x _ => ?_
    obtain ⟨half, known⟩ : ∃ half, frame.width.toNat = half * 2 :=
      ⟨frame.width.toNat / 2, by omega⟩
    refine Eq.trans ?_ (delivered_422 order).symm
    have pixels : r * (half * 2) = r * half * 2 := (Nat.mul_assoc _ _ _).symm
    have bytes : r * (half * 2 * 2) = r * half * 4 := by
      rw [← Nat.mul_assoc, pixels]
      omega
    rw [packed8BitPixel, packed422Shifted_eq rfl, eightBitRgb_shifted, contiguous, known, bytes,
      pixels]
    generalize r * half = pairs
    congr 2 <;> split <;> omega
  rw [← whole]
  exact toRgbInto_writes small ⟨sized.1, sized.2, even, covered⟩ addressable

theorem bgrRow_writes {data : List UInt8} {start width : Nat}
    (inside : start + width * 3 ≤ data.length) :
    Writes (forChunks 3 (chunks3 (slice data start (start + width * 3))) writeBgr)
      (blocks (fun x => [data.getD (start + x * 3 + 2) 0, data.getD (start + x * 3 + 1) 0,
        data.getD (start + x * 3) 0]) width) := by
  have size := length_slice_add inside
  have count : (chunks3 (slice data start (start + width * 3))).length = width := by
    rw [MediaFoundation.chunks3_length, size, Nat.mul_div_cancel _ (by omega)]
  have chunks := @Fills.chunks UInt8 (UInt8 × UInt8 × UInt8) CameraError
    (fun x => [data.getD (start + x * 3 + 2) 0, data.getD (start + x * 3 + 1) 0,
      data.getD (start + x * 3) 0]) 3 (chunks3 (slice data start (start + width * 3))) writeBgr
    (fun _ => rfl) (by omega) fun x column old same => by
      rw [MediaFoundation.chunks3_getElem _ column]
      rw [count] at column
      rw [writeBgr, getD_slice (by omega), getD_slice (by omega), getD_slice (by omega),
        ← Nat.add_assoc, ← Nat.add_assoc]
      exact .copyFromSlice same.symm
  rw [count] at chunks
  exact chunks.writes

theorem grayRow_writes {data : List UInt8} {start width : Nat}
    (inside : start + width ≤ data.length) :
    Writes (forChunks 3 (slice data start (start + width)) fun gray => fillWith gray :
        RgbFill Unit)
      (blocks (fun x => [data.getD (start + x) 0, data.getD (start + x) 0,
        data.getD (start + x) 0]) width) := by
  have size := length_slice_add inside
  have chunks := @Fills.chunks UInt8 UInt8 CameraError
    (fun x => [data.getD (start + x) 0, data.getD (start + x) 0, data.getD (start + x) 0]) 3
    (slice data start (start + width)) (fun gray => fillWith gray) (fun _ => rfl) (by omega)
    fun x column old same => by
      rw [size] at column
      have value := @getD_slice _ data start (start + width) x 0 (by omega)
      rw [List.getD_eq_getElem?_getD, List.getElem?_eq_getElem (by omega), Option.getD_some]
        at value
      rw [value]
      refine .fillWith ?_
      rw [same]
      rfl
  rw [size] at chunks
  exact chunks.writes

inductive Plain : UvcFrameFormat → PixelFormat → Nat → Prop
  | rgb : Plain .rgb .rgb8 3
  | bgr : Plain .bgr .bgr8 3
  | gray : Plain .gray8 .gray8 1

theorem Plain.channels {uvc : UvcFrameFormat} {bytes : Nat} (plain : Plain uvc format bytes) :
    (if uvc = .gray8 then 1 else 3) = bytes := by
  cases plain <;> rfl

theorem plainRow_writes {bytes : Nat} (plain : Plain frame.frameFormat format bytes)
    (inside : r * frame.stride format + frame.width.toNat * bytes ≤ frame.data.length) :
    Writes (convertRow frame.frameFormat (slice frame.data (r * frame.stride format)
        (r * frame.stride format + frame.width.toNat * bytes)))
      (blocks (fun x => deliveredPixel (frame.layout format) frame.data x r)
        frame.width.toNat) := by
  generalize video : frame.frameFormat = uvc at plain
  cases plain with
  | rgb =>
      have copied : Writes (copyFromSlice (slice frame.data (r * frame.stride .rgb8)
          (r * frame.stride .rgb8 + frame.width.toNat * 3)) : RgbFill Unit) _ :=
        .copyFromSlice
      rw [rgbRow_slice inside] at copied
      rw [convertRow, if_neg (by decide), if_pos rfl, rgbRow_slice inside]
      refine cast (congrArg _ (blocks_congr fun x _ => ?_)) copied
      simp [deliveredPixel, PixelFormat.isYuv, referencePixel, sourceByte, UvcFrame.layout,
        FrameLayout.packed]
  | bgr =>
      rw [convertRow, if_neg (by decide), if_neg (by decide)]
      refine cast (congrArg _ (blocks_congr fun x _ => ?_)) (bgrRow_writes inside)
      simp [deliveredPixel, PixelFormat.isYuv, referencePixel, sourceByte, UvcFrame.layout,
        FrameLayout.packed]
  | gray =>
      rw [Nat.mul_one] at inside ⊢
      rw [convertRow, if_pos rfl]
      refine cast (congrArg _ (blocks_congr fun x _ => ?_)) (grayRow_writes inside)
      simp [deliveredPixel, PixelFormat.isYuv, referencePixel, sourceByte, UvcFrame.layout,
        FrameLayout.packed]

end Row

/-! ### What is accepted -/

section Accepted

variable {frame : UvcFrame} {format : PixelFormat} {uyvy : Bool} {bytes : Nat}

structure UvcFrame.Holds (frame : UvcFrame) (format : PixelFormat) (bytes : Nat) : Prop where
  row : frame.width.toNat * bytes ≤ frame.stride format
  extent : (frame.height.toNat - 1) * frame.stride format + frame.width.toNat * bytes ≤
    frame.data.length

theorem UvcFrame.Holds.inside (holds : frame.Holds format bytes) {r : Nat}
    (bound : r < frame.height.toNat) :
    RowInside frame.data (frame.width.toNat * bytes) (frame.stride format) r := by
  have earlier : r * frame.stride format ≤ (frame.height.toNat - 1) * frame.stride format :=
    Nat.mul_le_mul_right _ (by omega)
  have extent := holds.extent
  unfold RowInside
  omega

theorem upright : (0 : UInt16) ∈ ([0, 90, 180, 270] : List UInt16) := by decide

private theorem plain_accepts (plain : Plain frame.frameFormat format bytes)
    (sized : frame.width ≠ 0 ∧ frame.height ≠ 0) (small : frame.data.length < usizeLimit) :
    (frame.layout format).validate frame.data.length = .ok () ↔ frame.Holds format bytes := by
  have checked : (frame.layout format).validate frame.data.length = .ok () ↔
      frame.width.toNat * bytes ≤ frame.stride format ∧
        (frame.height.toNat - 1) * frame.stride format + frame.width.toNat * bytes ≤
          frame.data.length := by
    generalize frame.frameFormat = uvc at plain
    cases plain with
    | rgb | bgr | gray =>
        exact FrameLayout.validate_packed ⟨sized.1, sized.2, upright⟩ rfl small (by omega) rfl rfl
          fun packed => absurd packed Bool.false_ne_true
  exact checked.trans ⟨fun ⟨row, extent⟩ => ⟨row, extent⟩, fun holds => ⟨holds.row, holds.extent⟩⟩

private theorem packed422_accepts (order : Is422 format uyvy)
    (sized : frame.width ≠ 0 ∧ frame.height ≠ 0) (small : frame.data.length < usizeLimit) :
    (frame.layout format).validate frame.data.length = .ok () ↔
      frame.width.toNat % 2 = 0 ∧ frame.Holds format 2 := by
  have specs : (frame.layout format).planeSpecs =
      if frame.width.toNat % 2 ≠ 0 then none
      else some [⟨frame.width.toNat, frame.height.toNat, 2⟩] := by
    rcases order with ⟨rfl, -⟩ | ⟨rfl, -⟩ <;> rfl
  by_cases even : frame.width.toNat % 2 = 0
  · rw [if_neg (not_not.mpr even)] at specs
    have raw : (frame.layout format).format.isCompressed = false := by
      rcases order with ⟨rfl, -⟩ | ⟨rfl, -⟩ <;> rfl
    have plane : (frame.layout format).planes =
        [⟨0, frame.data.length, frame.stride format, 2⟩] := by
      rcases order with ⟨rfl, -⟩ | ⟨rfl, -⟩ <;> rfl
    rw [FrameLayout.validate_packed ⟨sized.1, sized.2, upright⟩ raw small (by omega) specs plane
      fun _ => rfl]
    exact ⟨fun ⟨row, extent⟩ => ⟨even, row, extent⟩, fun fine => ⟨fine.2.row, fine.2.extent⟩⟩
  · rw [if_pos even] at specs
    constructor
    · intro accepted
      obtain ⟨_, _, _, found, _⟩ := FrameLayout.validate_ok accepted
      rw [specs] at found
      cases found
    · exact fun fine => absurd fine.1 even

end Accepted

/-! ### The frame -/

section Frame

variable {frame : UvcFrame} {format : PixelFormat} {converter : ColorConverter} {uyvy : Bool}
  {bytes : Nat} {out : List UInt8} {mjpeg : RgbFill Unit}

theorem rowStride_422 (order : Is422 format uyvy) :
    frame.rowStride (frame.width.toNat * 2) = frame.stride format := by
  unfold UvcFrame.rowStride UvcFrame.stride
  rcases order with ⟨rfl, -⟩ | ⟨rfl, -⟩
  all_goals
    by_cases given : frame.step = 0
    · rw [if_pos given, if_neg (by omega)]
    · rw [if_neg given, if_pos (by omega)]

theorem rowStride_plain (plain : Plain frame.frameFormat format bytes) :
    frame.rowStride (frame.width.toNat * bytes) = frame.stride format := by
  unfold UvcFrame.rowStride UvcFrame.stride
  generalize frame.frameFormat = uvc at plain
  cases plain with
  | rgb | bgr | gray =>
      by_cases given : frame.step = 0
      · rw [if_pos given, if_neg (by omega)]
      · rw [if_neg given, if_pos (by omega)]

theorem packed_fits {n : Nat} (few : n ≤ 4) : frame.width.toNat * n < usizeLimit :=
  V4l2.row_addressable few

theorem wholeRows {height : Nat} (tall : 0 < height) (width : Nat) :
    (height - 1) * (width * 2) + width * 2 = width * height * 2 := by
  rw [← Nat.succ_mul, show (height - 1).succ = height by omega]
  ring

private theorem convertPacked422_returns (order : Is422 format uyvy)
    (sized : frame.width ≠ 0 ∧ frame.height ≠ 0) (small : frame.data.length < usizeLimit)
    (length : out.length = frame.width.toNat * frame.height.toNat * 3)
    (addressable : out.length < usizeLimit) (even : frame.width.toNat % 2 = 0)
    (holds : frame.Holds format 2) :
    Returns (convertPacked422 converter frame uyvy) out ()
      (deliveredImage (frame.layout format) frame.data) := by
  have wide := toNat_pos sized.1
  have row := holds.row
  refine .bind (.orFail (checkedMul_lt (packed_fits (by decide)))) ?_
  rw [rowStride_422 order]
  refine .bind (.failIf (by omega)) ?_
  split
  · rename_i contiguous
    have extent := holds.extent
    rw [contiguous, wholeRows (toNat_pos sized.2)] at extent
    have writes := @packed422Whole_writes frame format converter uyvy order sized even small
      contiguous extent (by omega)
    exact writes out (length.trans (@length_delivered (frame.layout format) frame.data).symm)
  · exact convertRows_returns isRgb_delivered wide small length (fun r bound => holds.inside bound)
      fun r bound => packed422Row_writes order sized.1 even small (holds.inside bound)

private theorem toRgbInto_odd {data line : List UInt8} {height : UInt32}
    (odd : ¬frame.width.toNat % 2 = 0) (small : data.length < usizeLimit) :
    Fails (converter.toRgbInto uyvy data frame.width height) line :=
  toRgbInto_fails small fun accepted => odd accepted.1.even

theorem UvcFrame.Holds.lastRow (tall : 0 < frame.height.toNat)
    (row : frame.width.toNat * bytes ≤ frame.stride format) (short : ¬frame.Holds format bytes) :
    ∃ r, r < frame.height.toNat ∧
      ¬RowInside frame.data (frame.width.toNat * bytes) (frame.stride format) r :=
  ⟨frame.height.toNat - 1, by omega, fun inside => short ⟨row, inside⟩⟩

private theorem convertPacked422_fails (order : Is422 format uyvy)
    (sized : frame.width ≠ 0 ∧ frame.height ≠ 0) (small : frame.data.length < usizeLimit - 1)
    (length : out.length = frame.width.toNat * frame.height.toNat * 3)
    (rejected : ¬(frame.width.toNat % 2 = 0 ∧ frame.Holds format 2)) :
    Fails (convertPacked422 converter frame uyvy) out := by
  have wide := toNat_pos sized.1
  have tall := toNat_pos sized.2
  refine .later (.orFail (checkedMul_lt (packed_fits (by decide)))) ?_
  rw [rowStride_422 order]
  refine .unlessIf fun row => ?_
  have row : frame.width.toNat * 2 ≤ frame.stride format := Nat.le_of_not_lt row
  split
  · rename_i contiguous
    refine toRgbInto_fails (by omega) fun ⟨packed, _⟩ => rejected ⟨packed.even, row, ?_⟩
    have rows := wholeRows tall frame.width.toNat
    rw [contiguous, rows]
    exact packed.covered
  · have lines (r : Nat) : RowInside frame.data (frame.width.toNat * 2) (frame.stride format) r →
        frame.width.toNat % 2 = 0 → ∃ image : List UInt8, image.length = frame.width.toNat * 3 ∧
          Writes (converter.toRgbInto uyvy (slice frame.data (r * frame.stride format)
            (r * frame.stride format + frame.width.toNat * 2)) frame.width 1) image :=
      fun inside even => ⟨_, isRgb_delivered.rows r,
        packed422Row_writes order sized.1 even (by omega) inside⟩
    refine convertRows_fails wide small length ?_ (fun r _ => lines r) fun r _ inside odd line => ?_
    swap
    · have size := length_slice_add (show _ ≤ frame.data.length from inside)
      have fits : frame.width.toNat * 2 < usizeLimit := packed_fits (by decide)
      exact toRgbInto_odd odd (by omega)
    by_cases even : frame.width.toNat % 2 = 0
    · obtain ⟨r, bound, outside⟩ := UvcFrame.Holds.lastRow tall row
        fun holds => rejected ⟨even, holds⟩
      exact ⟨r, bound, fun fine => outside fine.1⟩
    · exact ⟨0, tall, fun fine => even fine.2⟩

private theorem convertPlain_returns (plain : Plain frame.frameFormat format bytes)
    (sized : frame.width ≠ 0 ∧ frame.height ≠ 0) (small : frame.data.length < usizeLimit)
    (length : out.length = frame.width.toNat * frame.height.toNat * 3)
    (holds : frame.Holds format bytes) :
    Returns (convertPlain frame) out () (deliveredImage (frame.layout format) frame.data) := by
  have row := holds.row
  unfold convertPlain
  dsimp only
  rw [plain.channels, rowStride_plain plain]
  exact .bind (.failIf (by omega)) (convertRows_returns isRgb_delivered (toNat_pos sized.1) small
    length (fun r bound => holds.inside bound) fun r bound =>
      plainRow_writes plain (holds.inside bound))

private theorem convertPlain_fails (plain : Plain frame.frameFormat format bytes)
    (sized : frame.width ≠ 0 ∧ frame.height ≠ 0) (small : frame.data.length < usizeLimit - 1)
    (length : out.length = frame.width.toNat * frame.height.toNat * 3)
    (rejected : ¬frame.Holds format bytes) : Fails (convertPlain frame) out := by
  unfold convertPlain
  dsimp only
  rw [plain.channels, rowStride_plain plain]
  refine .unlessIf fun row => ?_
  have lines (r : Nat) : RowInside frame.data (frame.width.toNat * bytes) (frame.stride format) r →
      True → ∃ image : List UInt8, image.length = frame.width.toNat * 3 ∧
        Writes (convertRow frame.frameFormat (slice frame.data (r * frame.stride format)
          (r * frame.stride format + frame.width.toNat * bytes))) image :=
    fun inside _ => ⟨_, isRgb_delivered.rows r, plainRow_writes plain inside⟩
  obtain ⟨r, bound, outside⟩ := UvcFrame.Holds.lastRow (toNat_pos sized.2)
    (Nat.le_of_not_lt row) rejected
  exact convertRows_fails (toNat_pos sized.1) small length
    ⟨r, bound, fun fine => outside fine.1⟩ (fun r _ => lines r) fun r _ _ bad => absurd trivial bad

private theorem convertFrame_exact (native : frame.frameFormat.native = some format)
    (raw : format.isCompressed = false) (sized : frame.width ≠ 0 ∧ frame.height ≠ 0)
    (small : frame.data.length < usizeLimit - 1)
    (length : out.length = frame.width.toNat * frame.height.toNat * 3)
    (addressable : out.length < usizeLimit) :
    ((frame.layout format).validate frame.data.length = .ok () →
      Returns (convertFrame converter mjpeg frame) out ()
        (deliveredImage (frame.layout format) frame.data)) ∧
    ((frame.layout format).validate frame.data.length ≠ .ok () →
      Fails (convertFrame converter mjpeg frame) out) := by
  have word : usizeLimit ≠ 0 := by decide
  have packed {uyvy : Bool} (order : Is422 format uyvy)
      (branch : convertFrame converter mjpeg frame = convertPacked422 converter frame uyvy) :
      ((frame.layout format).validate frame.data.length = .ok () →
        Returns (convertFrame converter mjpeg frame) out ()
          (deliveredImage (frame.layout format) frame.data)) ∧
      ((frame.layout format).validate frame.data.length ≠ .ok () →
        Fails (convertFrame converter mjpeg frame) out) := by
    rw [branch, ne_eq, packed422_accepts order sized (by omega)]
    exact ⟨fun fine => convertPacked422_returns order sized (by omega) length addressable fine.1
      fine.2, convertPacked422_fails order sized small length⟩
  have plainly {bytes : Nat} (plain : Plain frame.frameFormat format bytes)
      (branch : convertFrame converter mjpeg frame = convertPlain frame) :
      ((frame.layout format).validate frame.data.length = .ok () →
        Returns (convertFrame converter mjpeg frame) out ()
          (deliveredImage (frame.layout format) frame.data)) ∧
      ((frame.layout format).validate frame.data.length ≠ .ok () →
        Fails (convertFrame converter mjpeg frame) out) := by
    rw [branch, ne_eq, plain_accepts plain sized (by omega)]
    exact ⟨convertPlain_returns plain sized (by omega) length,
      convertPlain_fails plain sized small length⟩
  cases video : frame.frameFormat with
  | mjpeg | h264 =>
      rw [video] at native
      cases native
      cases raw
  | other =>
      rw [video] at native
      cases native
  | yuyv =>
      rw [video] at native
      cases native
      exact packed (Or.inl ⟨rfl, rfl⟩) (by rw [convertFrame, video])
  | uyvy =>
      rw [video] at native
      cases native
      exact packed (Or.inr ⟨rfl, rfl⟩) (by rw [convertFrame, video])
  | rgb =>
      rw [video] at native
      cases native
      exact plainly (by rw [video]; exact .rgb) (by rw [convertFrame, video])
  | bgr =>
      rw [video] at native
      cases native
      exact plainly (by rw [video]; exact .bgr) (by rw [convertFrame, video])
  | gray8 =>
      rw [video] at native
      cases native
      exact plainly (by rw [video]; exact .gray) (by rw [convertFrame, video])

theorem deliveredImage_plain {c : Coefficients} (native : frame.frameFormat.native = some format)
    (raw : format.isCompressed = false) (plain : format.isYuv = false)
    (sized : frame.width ≠ 0 ∧ frame.height ≠ 0) :
    requestedImage (frame.layout format) frame.data c (frame.layout format).width.toNat
      (frame.layout format).height.toNat = deliveredImage (frame.layout format) frame.data := by
  have wide : 0 < (frame.layout format).width.toNat := toNat_pos sized.1
  have tall : 0 < (frame.layout format).height.toNat := toNat_pos sized.2
  rw [requested_full wide tall]
  refine imageOf_congr fun r x _ _ => ?_
  rw [deliveredPixel, show (frame.layout format).format.isYuv = false from plain,
    if_neg Bool.false_ne_true]
  cases video : frame.frameFormat with
  | rgb | bgr | gray8 =>
      rw [video] at native
      cases native
      simp [referencePixel, UvcFrame.layout, FrameLayout.packed]
  | mjpeg | h264 =>
      rw [video] at native
      cases native
      cases raw
  | yuyv | uyvy =>
      rw [video] at native
      cases native
      cases plain
  | other =>
      rw [video] at native
      cases native

/-- A raw frame is converted to the image that its layout describes if the validator accepts the
layout, and fails otherwise; without a colour transform both deliveries agree. -/
theorem uvc_raw_frames_delivered {target : Target} (frame : UvcFrame) (format : PixelFormat)
    (converter : ColorConverter) (mjpeg : RgbFill Unit) (consumer : RgbConverter target)
    (out : List UInt8) (native : frame.frameFormat.native = some format)
    (raw : format.isCompressed = false) (sized : frame.width ≠ 0 ∧ frame.height ≠ 0)
    (small : frame.data.length < 2 ^ 63) (used : consumer.Used)
    (length : out.length = frame.width.toNat * frame.height.toNat * 3)
    (addressable : out.length < usizeLimit) :
    ((frame.layout format).validate frame.data.length = .ok () →
      Returns (convertFrame converter mjpeg frame) out ()
        (deliveredImage (frame.layout format) frame.data)) ∧
    ((frame.layout format).validate frame.data.length ≠ .ok () →
      Fails (convertFrame converter mjpeg frame) out) ∧
    (format.isYuv = false →
      SameDelivery
        ((onSnd (convertFrame converter mjpeg frame) : Conversion target Unit) (consumer, out))
        ((convertNative (.ok (frame.layout format, [frame.data])) : Conversion target Unit)
          (consumer, out))) := by
  have flat : [frame.data].flatten = frame.data := by simp
  obtain ⟨accepts, fails⟩ := @convertFrame_exact frame format converter out mjpeg native raw sized
    (by unfold usizeLimit; omega) length addressable
  refine ⟨accepts, fails, fun plain => ?_⟩
  have payload : CameraRs.Payload (frame.layout format) [frame.data] :=
    { raw := raw
      small := by rw [flat]; unfold usizeLimit; omega
      whole := by
        rw [flat]
        simp [UvcFrame.layout, FrameLayout.packed]
      known := fun yuv => by
        rw [show (frame.layout format).format.isYuv = false from plain] at yuv
        cases yuv }
  refine payload.same used length addressable (fun accepted c _ => ?_) fun rejected => ?_
  · rw [flat] at accepted ⊢
    rw [deliveredImage_plain native raw plain sized]
    exact ⟨consumer, .onSnd (accepts accepted)⟩
  · rw [flat] at rejected
    exact .onSnd (fails rejected)

/-- A padded row of one BGR pixel. -/
theorem uvc_raw_frames_delivered_bgr :
    Returns (convertFrame ⟨true, .neon⟩ (fail .streamStopped)
      ⟨.bgr, [1, 2, 3, 0], 1, 1, 0, 4⟩) [0, 0, 0] () [3, 2, 1] :=
  (uvc_raw_frames_delivered ⟨.bgr, [1, 2, 3, 0], 1, 1, 0, 4⟩ .bgr8 ⟨true, .neon⟩
    (fail .streamStopped) ({} : RgbConverter .withoutJpeg) [0, 0, 0] rfl rfl (by decide) (by decide)
    RgbConverter.used_new (by decide) (by decide)).1 (by decide)

end Frame

end CameraRs.Uvc

/-
The public 8-bit converter of packed 4:2:2 frames: the sizes it checks, and the build
and the options that choose the loop or kernel behind it.
-/

import CameraRs.Conversion.Blocked
import CameraRs.Conversion.Neon

namespace CameraRs

open Lib Fill

/-! ### Checked sizes -/

namespace ColorConvert

def checkedPixelCount (width height : UInt32) : CameraResult Nat :=
  if width = 0 ∨ height = 0 then
    .error (.invalidFrame ("Frame dimensions must be non-zero: " ++ toString width ++ "x" ++
      toString height))
  else if usizeLimit ≤ width.toNat then
    .error (.invalidFrame ("Frame width is too large: " ++ toString width))
  else if usizeLimit ≤ height.toNat then
    .error (.invalidFrame ("Frame height is too large: " ++ toString height))
  else
    match checkedMul width.toNat height.toNat with
    | some count => .ok count
    | none =>
        .error (.invalidFrame ("Frame dimensions are too large: " ++ toString width ++ "x" ++
          toString height))

def checkedPacked422PixelCount (width height : UInt32) (format : String) : CameraResult Nat :=
  if width.toNat % 2 ≠ 0 then
    .error (.invalidFrame (format ++ " frame width must be even for packed 4:2:2 data: " ++
      toString width))
  else
    checkedPixelCount width height

def checkedFrameSize (pixelCount bytesPerPixel : Nat) (format : String) : CameraResult Nat :=
  match checkedMul pixelCount bytesPerPixel with
  | some size => .ok size
  | none =>
      .error (.invalidFrame (format ++ " frame size is too large: " ++ toString pixelCount ++
        " pixels * " ++ toString bytesPerPixel ++ " bytes"))

end ColorConvert

open ColorConvert

/-! ### The converter -/

/-- What `yuyv_to_rgb_simd_into` and its sibling were built for, or find on the processor. -/
inductive Simd422
  | neon
  | avx2
  | generic

def packed422SimdInto (simd : Simd422) (uyvy : Bool) (source : List UInt8) : RgbFill Unit :=
  match simd with
  | .neon => packed422Neon uyvy source
  | .avx2 => packed422Avx2 uyvy 8 0 255 source packed8BitCoefficients
  | .generic => packed422SimdGeneric uyvy source

/-- `ColorConvertOptions`, with the route that its SIMD takes. -/
structure ColorConverter where
  useSimd : Bool := true
  simd : Simd422

namespace ColorConverter

variable (self : ColorConverter)

/-- The name of an order in the error texts. -/
def packedName (uyvy : Bool) : String := if uyvy then "UYVY" else "YUYV"

def expectedSizes (uyvy : Bool) (data : List UInt8) (width height : UInt32) :
    CameraResult (Nat × Nat) := do
  let pixelCount ← checkedPacked422PixelCount width height (packedName uyvy)
  let expectedSize ← checkedFrameSize pixelCount 2 (packedName uyvy)
  let expectedRgbSize ← checkedFrameSize pixelCount 3 "RGB"
  if data.length < expectedSize then
    .error (.invalidFrame (packedName uyvy ++ " data size mismatch: expected " ++
      toString expectedSize ++ ", got " ++ toString data.length))
  else
    pure (expectedSize, expectedRgbSize)

def packed422Into (uyvy : Bool) (source : List UInt8) : RgbFill Unit :=
  if self.useSimd then packed422SimdInto self.simd uyvy source
  else packed422ScalarInto uyvy source

def toRgbInto (uyvy : Bool) (data : List UInt8) (width height : UInt32) : RgbFill Unit := do
  let (expectedSize, expectedRgbSize) ← ofExcept (expectedSizes uyvy data width height)
  let rgb ← getState
  failIf (rgb.length < expectedRgbSize) (.invalidFrame ("RGB buffer too small: expected " ++
    toString expectedRgbSize ++ ", got " ++ toString rgb.length))
  let data ← view data 0 expectedSize
  within 0 expectedRgbSize (self.packed422Into uyvy data)

def yuyvToRgbInto : List UInt8 → UInt32 → UInt32 → RgbFill Unit := self.toRgbInto false

def uyvyToRgbInto : List UInt8 → UInt32 → UInt32 → RgbFill Unit := self.toRgbInto true

/-- `yuyv_to_rgb` and `uyvy_to_rgb`: the same into a buffer of their own. -/
def toRgb (uyvy : Bool) (data : List UInt8) (width height : UInt32) :
    Option (CameraResult (List UInt8)) :=
  match expectedSizes uyvy data width height with
  | .error e => some (.error e)
  | .ok (expectedSize, expectedRgbSize) =>
      (self.packed422Into uyvy (slice data 0 expectedSize)
        (List.replicate expectedRgbSize 0)).map fun (result, rgb) => result.map fun _ => rgb

def yuyvToRgb : List UInt8 → UInt32 → UInt32 → Option (CameraResult (List UInt8)) :=
  self.toRgb false

def uyvyToRgb : List UInt8 → UInt32 → UInt32 → Option (CameraResult (List UInt8)) :=
  self.toRgb true

end ColorConverter

/-! ### What is accepted -/

section Accepted

variable {uyvy : Bool} {data : List UInt8} {width height : UInt32}

/-- The frame has an even width and all its source bytes. -/
structure Packed8Bit (data : List UInt8) (width height : UInt32) : Prop where
  wide : width ≠ 0
  tall : height ≠ 0
  even : width.toNat % 2 = 0
  covered : width.toNat * height.toNat * 2 ≤ data.length

theorem checkedPacked422PixelCount_ok {format : String} {count : Nat} :
    checkedPacked422PixelCount width height format = .ok count ↔
      width ≠ 0 ∧ height ≠ 0 ∧ width.toNat % 2 = 0 ∧ width.toNat * height.toNat < usizeLimit ∧
        width.toNat * height.toNat = count := by
  have wide : width.toNat < usizeLimit := by
    have := width.toNat_lt
    unfold usizeLimit
    omega
  have tall : height.toNat < usizeLimit := by
    have := height.toNat_lt
    unfold usizeLimit
    omega
  unfold checkedPacked422PixelCount ColorConvert.checkedPixelCount
  rw [if_neg (Nat.not_le.mpr wide), if_neg (Nat.not_le.mpr tall)]
  by_cases even : width.toNat % 2 = 0
  · rw [if_neg (not_not.mpr even)]
    by_cases empty : width = 0 ∨ height = 0
    · rw [if_pos empty]
      constructor
      · intro impossible
        cases impossible
      · rintro ⟨wide, tall, -⟩
        exact absurd empty (not_or.mpr ⟨wide, tall⟩)
    · rw [if_neg empty]
      obtain ⟨wide, tall⟩ := not_or.mp empty
      cases known : checkedMul width.toNat height.toNat with
      | none =>
          constructor
          · intro impossible
            cases impossible
          · rintro ⟨-, -, -, fits, rfl⟩
            rw [checkedMul_lt fits] at known
            cases known
      | some product =>
          obtain ⟨fits, rfl⟩ := checkedMul_eq_some.mp known
          constructor
          · rintro ⟨⟩
            exact ⟨wide, tall, even, fits, rfl⟩
          · rintro ⟨-, -, -, -, rfl⟩
            rfl
  · rw [if_pos even]
    constructor
    · intro impossible
      cases impossible
    · rintro ⟨-, -, even', -⟩
      exact absurd even' even

theorem checkedFrameSize_ok {format : String} {pixels bytes size : Nat} :
    checkedFrameSize pixels bytes format = .ok size ↔
      pixels * bytes < usizeLimit ∧ pixels * bytes = size := by
  unfold checkedFrameSize
  rw [← checkedMul_eq_some]
  cases checkedMul pixels bytes with
  | none => simp
  | some product => simp

theorem expectedSizes_ok {sizes : Nat × Nat} (small : data.length < usizeLimit) :
    ColorConverter.expectedSizes uyvy data width height = .ok sizes ↔
      Packed8Bit data width height ∧ width.toNat * height.toNat * 3 < usizeLimit ∧
        sizes = (width.toNat * height.toNat * 2, width.toNat * height.toNat * 3) := by
  unfold ColorConverter.expectedSizes
  constructor
  · intro accepted
    cases counted : checkedPacked422PixelCount width height (ColorConverter.packedName uyvy) with
    | error e =>
        rw [counted] at accepted
        cases accepted
    | ok count =>
        obtain ⟨wide, tall, even, _, rfl⟩ := checkedPacked422PixelCount_ok.mp counted
        cases source : checkedFrameSize (width.toNat * height.toNat) 2
            (ColorConverter.packedName uyvy) with
        | error e =>
            rw [counted] at accepted
            simp only [Except.bind, bind, source] at accepted
            cases accepted
        | ok expected =>
            obtain ⟨_, rfl⟩ := checkedFrameSize_ok.mp source
            cases rgb : checkedFrameSize (width.toNat * height.toNat) 3 "RGB" with
            | error e =>
                rw [counted] at accepted
                simp only [Except.bind, bind, source, rgb] at accepted
                cases accepted
            | ok size =>
                obtain ⟨fits, rfl⟩ := checkedFrameSize_ok.mp rgb
                rw [counted] at accepted
                simp only [Except.bind, bind, source, rgb] at accepted
                split at accepted
                · cases accepted
                · cases accepted
                  exact ⟨⟨wide, tall, even, by omega⟩, fits, rfl⟩
  · rintro ⟨packed, fits, rfl⟩
    have counted := (@checkedPacked422PixelCount_ok width height (ColorConverter.packedName uyvy)
      _).mpr ⟨packed.wide, packed.tall, packed.even, by omega, rfl⟩
    have source := (@checkedFrameSize_ok (ColorConverter.packedName uyvy)
      (width.toNat * height.toNat) 2 _).mpr ⟨by have := packed.covered; omega, rfl⟩
    have rgb := (@checkedFrameSize_ok "RGB" (width.toNat * height.toNat) 3 _).mpr ⟨fits, rfl⟩
    simp only [counted, source, rgb, Except.bind, bind]
    exact if_neg (by have := packed.covered; omega)

theorem expectedSizes_error (small : data.length < usizeLimit)
    (rejected : ¬(Packed8Bit data width height ∧ width.toNat * height.toNat * 3 < usizeLimit)) :
    ∃ e, ColorConverter.expectedSizes uyvy data width height = .error e := by
  cases known : ColorConverter.expectedSizes uyvy data width height with
  | error e => exact ⟨e, rfl⟩
  | ok sizes =>
      obtain ⟨packed, fits, -⟩ := (expectedSizes_ok small).mp known
      exact absurd ⟨packed, fits⟩ rejected

end Accepted

/-! ### What is written -/

section Written

variable {self : ColorConverter} {uyvy : Bool} {data source old : List UInt8}
  {width height : UInt32}

private theorem packed422Into_returns :
    Returns (self.packed422Into uyvy source) old ()
      (pairsUpTo (packed8BitPixel uyvy source) (min (source.length / 4) (old.length / 6)) old
        (min (source.length / 4) (old.length / 6))) := by
  unfold ColorConverter.packed422Into
  split
  · unfold packed422SimdInto
    split
    · exact packed422Neon_returns
    · exact packed422Avx2_returns packed8Bit_moderate
    · exact packed422SimdGeneric_returns
  · exact packed422ScalarInto_returns

theorem packed422Into_writes {pairs : Nat} (bytes : source.length = pairs * 4) :
    Writes (self.packed422Into uyvy source)
      (blocks (packed8BitPixel uyvy source) (pairs * 2)) := by
  have rgb : IsRgb (packed8BitPixel uyvy source) := isRgb_packed422Shifted
  intro old same
  rw [rgb.row] at same
  have ran := @packed422Into_returns self uyvy source old
  rw [show min (source.length / 4) (old.length / 6) = pairs by omega, pairsUpTo,
    rowUpTo_width rgb same] at ran
  exact ran

/-- The pixels of a frame, one row after the other without a gap. -/
def packed8BitImage (uyvy : Bool) (data : List UInt8) (width height : UInt32) : List UInt8 :=
  blocks (packed8BitPixel uyvy data) (width.toNat * height.toNat)

theorem length_packed8BitImage :
    (packed8BitImage uyvy data width height).length = width.toNat * height.toNat * 3 := by
  have rgb : IsRgb (packed8BitPixel uyvy data) := isRgb_packed422Shifted
  exact rgb.row

theorem packed8BitImage_slice {pairs : Nat} (whole : width.toNat * height.toNat = pairs * 2) :
    packed8BitImage uyvy (slice data 0 (pairs * 4)) width height =
      packed8BitImage uyvy data width height := by
  refine blocks_congr fun x bound => ?_
  rw [packed8BitPixel, packed8BitPixel, packed422Shifted_eq rfl, packed422Shifted_eq rfl]
  have byte (k : Nat) (inside : k < pairs * 4) :
      (slice data 0 (pairs * 4)).getD k 0 = data.getD k 0 := by
    rw [getD_slice (by omega), Nat.zero_add]
  rw [byte _ (by split <;> omega), byte _ (by split <;> omega), byte _ (by split <;> omega)]

theorem Packed8Bit.pairs (packed : Packed8Bit data width height) :
    ∃ pairs, width.toNat * height.toNat = pairs * 2 ∧ pairs * 4 ≤ data.length := by
  have covered := packed.covered
  refine ⟨width.toNat / 2 * height.toNat, ?_, ?_⟩
  · rw [Nat.mul_right_comm, Nat.div_mul_cancel (Nat.dvd_of_mod_eq_zero packed.even)]
  · rw [show width.toNat / 2 * height.toNat * 4 =
      width.toNat / 2 * 2 * height.toNat * 2 by rw [Nat.mul_right_comm _ 2]; omega,
      Nat.div_mul_cancel (Nat.dvd_of_mod_eq_zero packed.even)]
    exact covered

theorem toRgbInto_returns (small : data.length < usizeLimit)
    (addressable : old.length < usizeLimit) (packed : Packed8Bit data width height)
    (room : width.toNat * height.toNat * 3 ≤ old.length) :
    Returns (self.toRgbInto uyvy data width height) old ()
      (packed8BitImage uyvy data width height ++
        old.drop (packed8BitImage uyvy data width height).length) := by
  obtain ⟨pairs, whole, covered⟩ := packed.pairs
  have sizes := (@expectedSizes_ok uyvy data width height _ small).mpr
    ⟨packed, Nat.lt_of_le_of_lt room addressable, rfl⟩
  have size := @length_packed8BitImage uyvy data width height
  have cut : width.toNat * height.toNat * 2 = pairs * 4 := by omega
  have writes := @packed422Into_writes self uyvy (slice data 0 (pairs * 4)) pairs
    (length_slice covered)
  rw [← whole] at writes
  have image := @packed8BitImage_slice uyvy data width height pairs whole
  have advanced : Returns
      (within 0 (packed8BitImage uyvy data width height).length
        (self.packed422Into uyvy (slice data 0 (pairs * 4))))
      (overlay (packed8BitImage uyvy data width height) 0 old) ()
      (overlay (packed8BitImage uyvy data width height)
        (packed8BitImage uyvy data width height).length old) := by
    refine Writes.advance (Nat.zero_le _) (Nat.le_refl _) (by omega) ?_
    rw [slice_all, ← image]
    exact writes
  rw [overlay_zero, overlay_length, size, ← cut] at advanced
  rw [size]
  exact .bind (.ofExcept sizes) (.bind .getState (.bind (.failIf (Nat.not_lt.mpr room))
    (.bind (.view (Nat.zero_le _) packed.covered) advanced)))

theorem toRgbInto_writes (small : data.length < usizeLimit)
    (packed : Packed8Bit data width height)
    (fits : width.toNat * height.toNat * 3 < usizeLimit) :
    Writes (self.toRgbInto uyvy data width height) (packed8BitImage uyvy data width height) := by
  intro old same
  have size := @length_packed8BitImage uyvy data width height
  have ran := @toRgbInto_returns self uyvy data old width height small (by omega) packed (by omega)
  rwa [List.drop_eq_nil_of_le (by omega), List.append_nil] at ran

theorem toRgbInto_fails (small : data.length < usizeLimit)
    (rejected : ¬(Packed8Bit data width height ∧
      width.toNat * height.toNat * 3 ≤ old.length)) :
    Fails (self.toRgbInto uyvy data width height) old := by
  by_cases accepted : Packed8Bit data width height ∧ width.toNat * height.toNat * 3 < usizeLimit
  · have sizes := (@expectedSizes_ok uyvy data width height _ small).mpr
      ⟨accepted.1, accepted.2, rfl⟩
    have short : old.length < width.toNat * height.toNat * 3 :=
      Nat.lt_of_not_le fun room => rejected ⟨accepted.1, room⟩
    exact .later (.ofExcept sizes) (.later .getState (.here (.failIf short)))
  · obtain ⟨e, refused⟩ := @expectedSizes_error uyvy data width height small accepted
    exact .refused (.here (.ofExcept refused))

theorem toRgb_returns (small : data.length < usizeLimit) (packed : Packed8Bit data width height)
    (fits : width.toNat * height.toNat * 3 < usizeLimit) :
    self.toRgb uyvy data width height = some (.ok (packed8BitImage uyvy data width height)) := by
  obtain ⟨pairs, whole, covered⟩ := packed.pairs
  have sizes := (@expectedSizes_ok uyvy data width height _ small).mpr ⟨packed, fits, rfl⟩
  have image := @packed8BitImage_slice uyvy data width height pairs whole
  have writes := @packed422Into_writes self uyvy (slice data 0 (pairs * 4)) pairs
    (length_slice covered)
  rw [← whole] at writes
  have ran : self.packed422Into uyvy (slice data 0 (width.toNat * height.toNat * 2))
      (List.replicate (width.toNat * height.toNat * 3) 0) =
        some (.ok (), packed8BitImage uyvy data width height) := by
    rw [show width.toNat * height.toNat * 2 = pairs * 4 by omega, ← image]
    refine writes _ ?_
    rw [List.length_replicate]
    exact (@length_packed8BitImage uyvy (slice data 0 (pairs * 4)) width height).symm
  rw [ColorConverter.toRgb, sizes]
  simp only [ran, Option.map_some]
  rfl

/-- For every build, option, order, size, source and destination: the converter into a
buffer writes the whole frame to its front and nothing behind it exactly when the width is
even and both slices are long enough, and reports an error otherwise; the allocating
converter returns the same bytes. Neither panics. -/
theorem packed_8bit_converters_exact (self : ColorConverter) (uyvy : Bool) (data old : List UInt8)
    (width height : UInt32) (small : data.length < usizeLimit)
    (addressable : old.length < usizeLimit) :
    WritesWhen (Packed8Bit data width height ∧ width.toNat * height.toNat * 3 ≤ old.length)
      (self.toRgbInto uyvy data width height) (packed8BitImage uyvy data width height) old ∧
    (Packed8Bit data width height ∧ width.toNat * height.toNat * 3 < usizeLimit →
      self.toRgb uyvy data width height = some (.ok (packed8BitImage uyvy data width height))) ∧
    (¬(Packed8Bit data width height ∧ width.toNat * height.toNat * 3 < usizeLimit) →
      ∃ e, self.toRgb uyvy data width height = some (.error e)) := by
  refine ⟨⟨fun accepted => toRgbInto_returns small addressable accepted.1 accepted.2,
    toRgbInto_fails small⟩, fun accepted => toRgb_returns small accepted.1 accepted.2,
    fun rejected => ?_⟩
  obtain ⟨e, refused⟩ := @expectedSizes_error uyvy data width height small rejected
  exact ⟨e, by rw [ColorConverter.toRgb, refused]⟩

/-- A frame of two white pixels. -/
theorem packed_8bit_converters_exact_white :
    (ColorConverter.mk true .neon).toRgb false [255, 128, 255, 128] 2 1 =
      some (.ok (packed8BitImage false [255, 128, 255, 128] 2 1)) :=
  (packed_8bit_converters_exact ⟨true, .neon⟩ false [255, 128, 255, 128] [] 2 1 (by decide)
    (by decide)).2.1 ⟨⟨by decide, by decide, by decide, by decide⟩, by decide⟩

end Written

end CameraRs

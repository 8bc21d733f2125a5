/-
The row kernels of an x86 processor. A kernel converts groups of whole vectors and
returns how many pixels they were, so that the column loop takes over inside the row.
-/

import CameraRs.Conversion.Avx2

namespace CameraRs

open Lib Fill Simd

/-! ### Groups of pixels -/

section Groups

variable {pixel first second : Nat → List UInt8} {width n groups : Nat}
  {old old0 old1 : List UInt8}

theorem groups_return {round : Nat → RgbFill Unit}
    (rounds : ∀ group, group < groups →
      Returns (round group) (rowUpTo pixel width old (group * n)) ()
        (rowUpTo pixel width old (group * n + n))) :
    Returns (do
      forRange 0 groups round
      pure (groups * n)) old (groups * n) (overlay (blocks pixel width) (groups * n * 3) old) := by
  have ran := @Returns.forRange _ _ 0 groups round (fun group => rowUpTo pixel width old (group * n))
    (Nat.zero_le _) fun group _ bound => by
      rw [Nat.succ_mul]
      exact rounds group bound
  rw [Nat.zero_mul, rowUpTo_zero] at ran
  exact .bind ran .pure

theorem pairGroups_return {round : Nat → Fill (List UInt8 × List UInt8) CameraError Unit}
    (rounds : ∀ group, group < groups →
      Returns (round group)
        (rowUpTo first width old0 (group * n), rowUpTo second width old1 (group * n)) ()
        (rowUpTo first width old0 (group * n + n), rowUpTo second width old1 (group * n + n))) :
    Returns (do
      forRange 0 groups round
      pure (groups * n)) (old0, old1) (groups * n)
      (overlay (blocks first width) (groups * n * 3) old0,
        overlay (blocks second width) (groups * n * 3) old1) := by
  have ran := @Returns.forRange _ _ 0 groups round
    (fun group =>
      (rowUpTo first width old0 (group * n), rowUpTo second width old1 (group * n)))
    (Nat.zero_le _) fun group _ bound => by
      rw [Nat.succ_mul]
      exact rounds group bound
  rw [Nat.zero_mul, rowUpTo_zero, rowUpTo_zero] at ran
  exact .bind ran .pure

end Groups

def convertTwoRows (shift : Nat) (rounding greenRounding : Int) (y0 y1 u v : M128)
    (c : Coefficients) (offset : Nat) : Fill (List UInt8 × List UInt8) CameraError Unit := do
  let low := prepareChroma rounding greenRounding u v c
  let high := prepareChroma rounding greenRounding (srliSi128Eight u) (srliSi128Eight v) c
  onFst (within offset (offset + 24) (convertEightWithChroma shift y0 low c))
  onSnd (within offset (offset + 24) (convertEightWithChroma shift y1 low c))
  onFst (within (offset + 24) (offset + 48)
    (convertEightWithChroma shift (srliSi128Eight y0) high c))
  onSnd (within (offset + 24) (offset + 48)
    (convertEightWithChroma shift (srliSi128Eight y1) high c))

theorem configured_moderate {c : Coefficients} (configured : c.Configured) :
    Moderate c 512 512 :=
  { small := configured.small
    rounding := by decide
    greenRounding := by decide }

section TwoRows

variable {c : Coefficients} {y0 y1 u v : M128} {ys0 ys1 us vs : Nat → UInt8}
  {first second : Nat → List UInt8} {width k offset : Nat} {old0 old1 : List UInt8}

theorem convertTwoRows_returns (configured : c.Configured) (lumas0 : Reads 16 y0 ys0)
    (lumas1 : Reads 16 y1 ys1) (blues : Reads 16 u us) (reds : Reads 16 v vs)
    (pixels0 : ∀ j, j < 16 → first (k + j) = rgbOf c (ys0 j) (us j) (vs j))
    (pixels1 : ∀ j, j < 16 → second (k + j) = rgbOf c (ys1 j) (us j) (vs j))
    (rgb0 : IsRgb first) (rgb1 : IsRgb second) (size0 : old0.length = width * 3)
    (size1 : old1.length = width * 3) (bound : k + 16 ≤ width) (at_offset : offset = k * 3) :
    Returns (convertTwoRows 10 512 512 y0 y1 u v c offset)
      (rowUpTo first width old0 k, rowUpTo second width old1 k) ()
      (rowUpTo first width old0 (k + 16), rowUpTo second width old1 (k + 16)) := by
  have moderate := configured_moderate configured
  have low := @prepareChroma_hold c 512 512 u v us vs (blues.mono (by decide))
    (reds.mono (by decide))
  have high := @prepareChroma_hold c 512 512 _ _ _ _ (blues.srli (Nat.le_refl 8))
    (reds.srli (Nat.le_refl 8))
  have eight {pixel : Nat → List UInt8} {y : M128} {ys : Nat → UInt8} (lumas : Reads 16 y ys)
      (pixels : ∀ j, j < 16 → pixel (k + j) = rgbOf c (ys j) (us j) (vs j)) :
      Writes (convertEightWithChroma 10 y (prepareChroma 512 512 u v c) c)
        (blocks (fun x => pixel (k + x)) 8) :=
    convertEightWithChroma_writes moderate low (lumas.mono (by decide)) fun j small => by
      rw [pixels j (by omega), shiftedRgb_nearest]
  have rest {pixel : Nat → List UInt8} {y : M128} {ys : Nat → UInt8} (lumas : Reads 16 y ys)
      (pixels : ∀ j, j < 16 → pixel (k + j) = rgbOf c (ys j) (us j) (vs j)) :
      Writes (convertEightWithChroma 10 (srliSi128Eight y)
        (prepareChroma 512 512 (srliSi128Eight u) (srliSi128Eight v) c) c)
        (blocks (fun x => pixel (k + 8 + x)) 8) :=
    convertEightWithChroma_writes moderate high (lumas.srli (Nat.le_refl 8)) fun j small => by
      rw [Nat.add_assoc, pixels (8 + j) (by omega), shiftedRgb_nearest]
  exact .bind (.onFst (writes_pixels rgb0 (by omega) (by omega) at_offset (by omega)
      (eight lumas0 pixels0)))
    (.bind (.onSnd (writes_pixels rgb1 (by omega) (by omega) at_offset (by omega)
      (eight lumas1 pixels1)))
    (.bind (.onFst (writes_pixels rgb0 (by omega) (by omega) (by omega) (by omega)
      (rest lumas0 pixels0)))
    (.onSnd (writes_pixels rgb1 (by omega) (by omega) (by omega) (by omega)
      (rest lumas1 pixels1)))))

end TwoRows

/-! ### Planar rows -/

def planarRowAvx2 (c : Coefficients) (y u v : List UInt8) : RgbFill Nat := do
  let rgb ← getState
  let groups := min (min (min (y.length / 16) (u.length / 8)) (v.length / 8)) (rgb.length / 48)
  forRange 0 groups fun group => do
    let y ← loadu 16 y (group * 16)
    let u ← loadlEpi64 u (group * 8)
    let v ← loadlEpi64 v (group * 8)
    let u := unpackloEpi8 u u
    let v := unpackloEpi8 v v
    within (group * 48) (group * 48 + 48) (convertSixteen 10 512 512 y u v c)
  pure (groups * 16)

/-- `x86::planar_half_row_avx2`: every other luma sample. -/
def planarHalfRowAvx2 (c : Coefficients) (y u v : List UInt8) : RgbFill Nat := do
  let rgb ← getState
  let groups := min (min (min (y.length / 16) (u.length / 8)) (v.length / 8)) (rgb.length / 24)
  let evenMask := setrEpi8 [0, 2, 4, 6, 8, 10, 12, 14, -1, -1, -1, -1, -1, -1, -1, -1]
  forRange 0 groups fun group => do
    let y ← loadu 16 y (group * 16)
    let u ← loadlEpi64 u (group * 8)
    let v ← loadlEpi64 v (group * 8)
    within (group * 24) (group * 24 + 24)
      (convertEight 10 512 512 (shuffleEpi8 y evenMask) u v c)
  pure (groups * 8)

def planarTwoRowsAvx2 (c : Coefficients) (y0 y1 u v : List UInt8) :
    Fill (List UInt8 × List UInt8) CameraError Nat := do
  let rgb ← getState
  let groups := min (min (min (min (min (y0.length / 16) (y1.length / 16)) (u.length / 8))
    (v.length / 8)) (rgb.1.length / 48)) (rgb.2.length / 48)
  forRange 0 groups fun group => do
    let y0 ← loadu 16 y0 (group * 16)
    let y1 ← loadu 16 y1 (group * 16)
    let u ← loadlEpi64 u (group * 8)
    let v ← loadlEpi64 v (group * 8)
    convertTwoRows 10 512 512 y0 y1 (unpackloEpi8 u u) (unpackloEpi8 v v) c (group * 48)
  pure (groups * 16)

section Planar

variable {c : Coefficients} {y y0 y1 u v : List UInt8} {width : Nat}

private theorem planarRowAvx2_fills (configured : c.Configured) (luma : y.length = width) :
    FillsPrefix 2 width (planarRowAvx2 c y u v) (planarPixel c y u v) := by
  intro old size
  refine ⟨_, ?_, Or.inl ?_, .bind .getState (groups_return fun group bound => ?_)⟩
  · omega
  · omega
  · have inside : group < y.length / 16 ∧ group < u.length / 8 ∧ group < v.length / 8 := by omega
    refine .bind (loadu_returns (by omega)) (.bind (loadlEpi64_returns (by omega))
      (.bind (loadlEpi64_returns (by omega)) ?_))
    refine writes_pixels isRgb_planar (by omega) (by omega) (by omega) (by omega) ?_
    refine convertSixteen_writes (configured_moderate configured) loadu_reads
      loadlEpi64_reads.unpackSelf loadlEpi64_reads.unpackSelf (fun k _ => ?_)
      fun k => isRgb_planar (group * 16 + k)
    rw [shiftedRgb_nearest, planarPixel, show (group * 16 + k) / 2 = group * 8 + k / 2 by omega]

private theorem planarHalfRowAvx2_fills (configured : c.Configured) (luma : y.length = width * 2) :
    FillsPrefix 1 width (planarHalfRowAvx2 c y u v) (fun x => planarPixel c y u v (x * 2)) := by
  intro old size
  refine ⟨_, ?_, Or.inl (Nat.mod_one _), .bind .getState (groups_return fun group bound => ?_)⟩
  · omega
  · have inside : group < y.length / 16 ∧ group < u.length / 8 ∧ group < v.length / 8 := by omega
    refine .bind (loadu_returns (by omega)) (.bind (loadlEpi64_returns (by omega))
      (.bind (loadlEpi64_returns (by omega)) ?_))
    refine writes_pixels (fun x => isRgb_planar (x * 2)) (by omega) (by omega) (by omega)
      (by omega) ?_
    refine convertEight_writes (configured_moderate configured)
      (@Reads.shuffle 8 _ _ _ (fun k => k * 2) loadu_reads (by decide)) loadlEpi64_reads
      loadlEpi64_reads fun k _ => ?_
    rw [shiftedRgb_nearest, planarPixel, Nat.mul_div_cancel _ (by decide),
      show (group * 8 + k) * 2 = group * 16 + k * 2 by omega]

private theorem planarTwoRowsAvx2_fills (configured : c.Configured) (luma0 : y0.length = width)
    (luma1 : y1.length = width) :
    FillsPairPrefix width (planarTwoRowsAvx2 c y0 y1 u v) (planarPixel c y0 u v)
      (planarPixel c y1 u v) := by
  intro old0 old1 size0 size1
  refine ⟨_, ?_, Or.inl ?_, .bind .getState (pairGroups_return fun group bound => ?_)⟩
  · omega
  · omega
  · have inside : group < y0.length / 16 ∧ group < y1.length / 16 ∧ group < u.length / 8 ∧
        group < v.length / 8 := by omega
    refine .bind (loadu_returns (by omega)) (.bind (loadu_returns (by omega))
      (.bind (loadlEpi64_returns (by omega)) (.bind (loadlEpi64_returns (by omega)) ?_)))
    have chroma {k : Nat} : (group * 16 + k) / 2 = group * 8 + k / 2 := by omega
    refine convertTwoRows_returns configured loadu_reads loadu_reads loadlEpi64_reads.unpackSelf
      loadlEpi64_reads.unpackSelf (fun k _ => ?_) (fun k _ => ?_) isRgb_planar isRgb_planar size0
      size1 (by omega) (by omega)
    · rw [planarPixel, chroma]
    · rw [planarPixel, chroma]

end Planar

/-! ### Semi-planar rows -/

/-- Masks that double the `u` and the `v` bytes of eight pairs. -/
def semiplanarMasks (vuOrder : Bool) : M128 × M128 :=
  if vuOrder then
    (setrEpi8 [1, 1, 3, 3, 5, 5, 7, 7, 9, 9, 11, 11, 13, 13, 15, 15],
      setrEpi8 [0, 0, 2, 2, 4, 4, 6, 6, 8, 8, 10, 10, 12, 12, 14, 14])
  else
    (setrEpi8 [0, 0, 2, 2, 4, 4, 6, 6, 8, 8, 10, 10, 12, 12, 14, 14],
      setrEpi8 [1, 1, 3, 3, 5, 5, 7, 7, 9, 9, 11, 11, 13, 13, 15, 15])

def semiplanarRowAvx2 (c : Coefficients) (vuOrder : Bool) (y uv : List UInt8) :
    RgbFill Nat := do
  let rgb ← getState
  let groups := min (min (y.length / 16) (uv.length / 16)) (rgb.length / 48)
  let masks := semiplanarMasks vuOrder
  forRange 0 groups fun group => do
    let y ← loadu 16 y (group * 16)
    let uv ← loadu 16 uv (group * 16)
    let u := shuffleEpi8 uv masks.1
    let v := shuffleEpi8 uv masks.2
    within (group * 48) (group * 48 + 48) (convertSixteen 10 512 512 y u v c)
  pure (groups * 16)

def semiplanarTwoRowsAvx2 (c : Coefficients) (vuOrder : Bool) (y0 y1 uv : List UInt8) :
    Fill (List UInt8 × List UInt8) CameraError Nat := do
  let rgb ← getState
  let groups := min (min (min (min (y0.length / 16) (y1.length / 16)) (uv.length / 16))
    (rgb.1.length / 48)) (rgb.2.length / 48)
  let masks := semiplanarMasks vuOrder
  forRange 0 groups fun group => do
    let y0 ← loadu 16 y0 (group * 16)
    let y1 ← loadu 16 y1 (group * 16)
    let uv ← loadu 16 uv (group * 16)
    convertTwoRows 10 512 512 y0 y1 (shuffleEpi8 uv masks.1) (shuffleEpi8 uv masks.2) c
      (group * 48)
  pure (groups * 16)

def semiplanarHalfRowAvx2 (c : Coefficients) (vuOrder : Bool) (y uv : List UInt8) :
    RgbFill Nat := do
  let rgb ← getState
  let groups := min (min (y.length / 32) (uv.length / 32)) (rgb.length / 48)
  let evenMask := setrEpi8 [0, 2, 4, 6, 8, 10, 12, 14, -1, -1, -1, -1, -1, -1, -1, -1]
  let oddMask := setrEpi8 [1, 3, 5, 7, 9, 11, 13, 15, -1, -1, -1, -1, -1, -1, -1, -1]
  forRange 0 groups fun group => do
    let y ← loadu 32 y (group * 32)
    let uv ← loadu 32 uv (group * 32)
    let y := combineShuffledHalves y evenMask
    let u := combineShuffledHalves uv (if vuOrder then oddMask else evenMask)
    let v := combineShuffledHalves uv (if vuOrder then evenMask else oddMask)
    within (group * 48) (group * 48 + 48) (convertSixteen 10 512 512 y u v c)
  pure (groups * 16)

section Semiplanar

variable {c : Coefficients} {vuOrder : Bool} {y y0 y1 uv : List UInt8} {width : Nat}

theorem semiplanarPixel_reads {x chroma : Nat} (at_chroma : x / 2 * 2 = chroma) :
    semiplanarPixel c vuOrder y uv x =
      rgbOf c (y.getD x 0) (uv.getD (if vuOrder then chroma + 1 else chroma) 0)
        (uv.getD (if vuOrder then chroma else chroma + 1) 0) := by
  subst at_chroma
  cases vuOrder <;> rfl

theorem semiplanarMasks_read {raw : M128} {f : Nat → UInt8} (reads : Reads 16 raw f) :
    Reads 16 (shuffleEpi8 raw (semiplanarMasks vuOrder).1)
      (fun k => f (if vuOrder then k / 2 * 2 + 1 else k / 2 * 2)) ∧
    Reads 16 (shuffleEpi8 raw (semiplanarMasks vuOrder).2)
      (fun k => f (if vuOrder then k / 2 * 2 else k / 2 * 2 + 1)) := by
  cases vuOrder with
  | true => exact ⟨reads.shuffle (by decide), reads.shuffle (by decide)⟩
  | false => exact ⟨reads.shuffle (by decide), reads.shuffle (by decide)⟩

theorem semiplanarPixel_group {group k : Nat} :
    semiplanarPixel c vuOrder y uv (group * 16 + k) =
      rgbOf c (y.getD (group * 16 + k) 0)
        (uv.getD (group * 16 + if vuOrder then k / 2 * 2 + 1 else k / 2 * 2) 0)
        (uv.getD (group * 16 + if vuOrder then k / 2 * 2 else k / 2 * 2 + 1) 0) := by
  rw [semiplanarPixel_reads (show (group * 16 + k) / 2 * 2 = group * 16 + k / 2 * 2 by omega)]
  cases vuOrder <;> rfl

private theorem semiplanarRowAvx2_fills (configured : c.Configured) (luma : y.length = width) :
    FillsPrefix 2 width (semiplanarRowAvx2 c vuOrder y uv) (semiplanarPixel c vuOrder y uv) := by
  intro old size
  refine ⟨_, ?_, Or.inl ?_, .bind .getState (groups_return fun group bound => ?_)⟩
  · omega
  · omega
  · have inside : group < y.length / 16 ∧ group < uv.length / 16 := by omega
    refine .bind (loadu_returns (by omega)) (.bind (loadu_returns (by omega)) ?_)
    refine writes_pixels isRgb_semiplanar (by omega) (by omega) (by omega) (by omega) ?_
    obtain ⟨blues, reds⟩ := @semiplanarMasks_read vuOrder _ _ (@loadu_reads uv (group * 16))
    refine convertSixteen_writes (configured_moderate configured) loadu_reads blues reds
      (fun k _ => ?_) fun k => isRgb_semiplanar (group * 16 + k)
    rw [shiftedRgb_nearest, semiplanarPixel_group]

private theorem semiplanarTwoRowsAvx2_fills (configured : c.Configured) (luma0 : y0.length = width)
    (luma1 : y1.length = width) :
    FillsPairPrefix width (semiplanarTwoRowsAvx2 c vuOrder y0 y1 uv)
      (semiplanarPixel c vuOrder y0 uv) (semiplanarPixel c vuOrder y1 uv) := by
  intro old0 old1 size0 size1
  refine ⟨_, ?_, Or.inl ?_, .bind .getState (pairGroups_return fun group bound => ?_)⟩
  · omega
  · omega
  · have inside : group < y0.length / 16 ∧ group < y1.length / 16 ∧ group < uv.length / 16 := by
      omega
    refine .bind (loadu_returns (by omega)) (.bind (loadu_returns (by omega))
      (.bind (loadu_returns (by omega)) ?_))
    obtain ⟨blues, reds⟩ := @semiplanarMasks_read vuOrder _ _ (@loadu_reads uv (group * 16))
    exact convertTwoRows_returns configured loadu_reads loadu_reads blues reds
      (fun k _ => semiplanarPixel_group) (fun k _ => semiplanarPixel_group) isRgb_semiplanar
      isRgb_semiplanar size0 size1 (by omega) (by omega)

theorem semiplanarHalfRowAvx2_fills (configured : c.Configured) (luma : y.length = width * 2) :
    FillsPrefix 1 width (semiplanarHalfRowAvx2 c vuOrder y uv)
      (fun x => semiplanarPixel c vuOrder y uv (x * 2)) := by
  intro old size
  refine ⟨_, ?_, Or.inl (Nat.mod_one _), .bind .getState (groups_return fun group bound => ?_)⟩
  · omega
  · have inside : group < y.length / 32 ∧ group < uv.length / 32 := by omega
    refine .bind (loadu_returns (by omega)) (.bind (loadu_returns (by omega)) ?_)
    refine writes_pixels (fun x => isRgb_semiplanar (x * 2)) (by omega) (by omega) (by omega)
      (by omega) ?_
    have even {xs : List UInt8} := @combineShuffledHalves_reads _
      (fun k => xs.getD (group * 32 + k) 0) [0, 2, 4, 6, 8, 10, 12, 14, -1, -1, -1, -1, -1, -1, -1, -1]
      (fun k => k * 2) (fun _ => rfl) (by decide) fun k => by omega
    have odd {xs : List UInt8} := @combineShuffledHalves_reads _
      (fun k => xs.getD (group * 32 + k) 0) [1, 3, 5, 7, 9, 11, 13, 15, -1, -1, -1, -1, -1, -1, -1, -1]
      (fun k => k * 2 + 1) (fun _ => rfl) (by decide) fun k => by omega
    have place {k : Nat} : (group * 16 + k) * 2 = group * 32 + k * 2 := by omega
    have pair {k : Nat} : (group * 32 + k * 2) / 2 * 2 = group * 32 + k * 2 := by omega
    cases vuOrder with
    | true =>
        refine convertSixteen_writes (configured_moderate configured) even odd even
          (fun k _ => ?_) fun k => isRgb_semiplanar ((group * 16 + k) * 2)
        rw [shiftedRgb_nearest, place, semiplanarPixel_reads pair]
        rfl
    | false =>
        refine convertSixteen_writes (configured_moderate configured) even even odd
          (fun k _ => ?_) fun k => isRgb_semiplanar ((group * 16 + k) * 2)
        rw [shiftedRgb_nearest, place, semiplanarPixel_reads pair]
        rfl

end Semiplanar

/-! ### Packed rows -/

/-- The AVX2 branch of `yuv422_to_rgb_with_coefficients_into`: the loop over the
columns starts at the width of the row. -/
def packed422RowAvx2 (c : Coefficients) (uyvy : Bool) (source : List UInt8) : RgbFill Nat := do
  packed422Avx2 uyvy 10 512 512 source c
  pure (source.length / 2)

/-- Masks that bring the bytes of every second pixel to the front. -/
def packed422HalfMasks (uyvy : Bool) : M128 × M128 × M128 :=
  if uyvy then
    (setrEpi8 [1, 5, 9, 13, -1, -1, -1, -1, -1, -1, -1, -1, -1, -1, -1, -1],
      setrEpi8 [0, 4, 8, 12, -1, -1, -1, -1, -1, -1, -1, -1, -1, -1, -1, -1],
      setrEpi8 [2, 6, 10, 14, -1, -1, -1, -1, -1, -1, -1, -1, -1, -1, -1, -1])
  else
    (setrEpi8 [0, 4, 8, 12, -1, -1, -1, -1, -1, -1, -1, -1, -1, -1, -1, -1],
      setrEpi8 [1, 5, 9, 13, -1, -1, -1, -1, -1, -1, -1, -1, -1, -1, -1, -1],
      setrEpi8 [3, 7, 11, 15, -1, -1, -1, -1, -1, -1, -1, -1, -1, -1, -1, -1])

def packed422HalfRowAvx2 (c : Coefficients) (uyvy : Bool) (source : List UInt8) :
    RgbFill Nat := do
  let rgb ← getState
  let groups := min (source.length / 32) (rgb.length / 24)
  let masks := packed422HalfMasks uyvy
  forRange 0 groups fun group => do
    let raw ← loadu 32 source (group * 32)
    let y := combineShuffledQuarters raw masks.1
    let u := combineShuffledQuarters raw masks.2.1
    let v := combineShuffledQuarters raw masks.2.2
    within (group * 24) (group * 24 + 24) (convertEight 10 512 512 y u v c)
  pure (groups * 8)

section Packed422

variable {c : Coefficients} {uyvy : Bool} {source : List UInt8} {width : Nat}

private theorem packed422RowAvx2_fills (configured : c.Configured) (even : width % 2 = 0)
    (bytes : source.length = width * 2) :
    FillsPrefix 2 width (packed422RowAvx2 c uyvy source) (packed422Pixel c uyvy source) := by
  intro old size
  refine ⟨width, Nat.le_refl _, Or.inr rfl, ?_⟩
  have pairs : min (source.length / 4) (old.length / 6) = width / 2 := by omega
  have written := @packed422Avx2_returns c 10 512 512 uyvy source old
    (configured_moderate configured)
  rw [pairs, pairsUpTo, rowUpTo, show width / 2 * 2 = width by omega,
    blocks_congr fun x _ => packed422Shifted_nearest] at written
  rw [show width = source.length / 2 by omega] at written ⊢
  exact .bind written .pure

private theorem packed422HalfMasks_read {raw : M256} {f : Nat → UInt8} (reads : ReadsWide raw f) :
    Reads 8 (combineShuffledQuarters raw (packed422HalfMasks uyvy).1)
      (fun k => f (if uyvy then k * 4 + 1 else k * 4)) ∧
    Reads 8 (combineShuffledQuarters raw (packed422HalfMasks uyvy).2.1)
      (fun k => f (if uyvy then k * 4 else k * 4 + 1)) ∧
    Reads 8 (combineShuffledQuarters raw (packed422HalfMasks uyvy).2.2)
      (fun k => f (if uyvy then k * 4 + 2 else k * 4 + 3)) := by
  cases uyvy with
  | true =>
      refine ⟨?_, ?_, ?_⟩
      · exact combineShuffledQuarters_reads reads (by decide) fun k => by
          simp only [if_true]
          omega
      · exact combineShuffledQuarters_reads reads (by decide) fun k => by
          simp only [if_true]
          omega
      · exact combineShuffledQuarters_reads reads (by decide) fun k => by
          simp only [if_true]
          omega
  | false =>
      refine ⟨?_, ?_, ?_⟩
      · exact combineShuffledQuarters_reads reads (by decide) fun k => by
          simp only [Bool.false_eq_true, if_false]
          omega
      · exact combineShuffledQuarters_reads reads (by decide) fun k => by
          simp only [Bool.false_eq_true, if_false]
          omega
      · exact combineShuffledQuarters_reads reads (by decide) fun k => by
          simp only [Bool.false_eq_true, if_false]
          omega

private theorem packed422HalfRowAvx2_fills (configured : c.Configured)
    (bytes : source.length = width * 4) :
    FillsPrefix 1 width (packed422HalfRowAvx2 c uyvy source)
      (fun x => packed422Pixel c uyvy source (x * 2)) := by
  intro old size
  refine ⟨_, ?_, Or.inl (Nat.mod_one _), .bind .getState (groups_return fun group bound => ?_)⟩
  · omega
  · have inside : group < source.length / 32 := by omega
    refine .bind (loadu_returns (by omega)) ?_
    refine writes_pixels (fun x => isRgb_packed422 (x * 2)) (by omega) (by omega) (by omega)
      (by omega) ?_
    obtain ⟨lumas, blues, reds⟩ := @packed422HalfMasks_read uyvy _
      (fun k => source.getD (group * 32 + k) 0) fun _ => rfl
    refine convertEight_writes (configured_moderate configured) lumas blues reds fun k _ => ?_
    rw [shiftedRgb_nearest, ← packed422Shifted_nearest, packed422Shifted_eq
      (show (group * 8 + k) * 2 / 2 * 4 = group * 32 + k * 4 by omega), shiftedRgb_nearest]
    congr 2 <;> split <;> omega

end Packed422

def storeTwelveBytes (start : Nat) (value : M128) : RgbFill Unit := do
  storelEpi64 start value
  storeLow32 (start + 8) (srliSi128Eight value)

/-- The control bytes that drop the fourth byte of four pixels. -/
def packed8888Controls (r g b : Nat) : List Int :=
  [r, g, b, 4 + r, 4 + g, 4 + b, 8 + r, 8 + g, 8 + b, 12 + r, 12 + g, 12 + b, -1, -1, -1, -1]

def packed8888RowSsse3 (r g b : Nat) (source : List UInt8) : RgbFill Nat := do
  let rgb ← getState
  let groups := min (source.length / 16) (rgb.length / 12)
  let mask := setrEpi8 (packed8888Controls r g b)
  forRange 0 groups fun group => do
    let raw ← loadu 16 source (group * 16)
    storeTwelveBytes (group * 12) (shuffleEpi8 raw mask)
  pure (groups * 4)

def packed8888RowAvx2 (r g b : Nat) (source : List UInt8) : RgbFill Nat := do
  let rgb ← getState
  let groups := min (source.length / 32) (rgb.length / 24)
  let mask := broadcast (setrEpi8 (packed8888Controls r g b))
  forRange 0 groups fun group => do
    let raw ← loadu 32 source (group * 32)
    let pixels := shuffleEpi8Wide raw mask
    storeTwelveBytes (group * 24) (low pixels)
    storeTwelveBytes (group * 24 + 12) (high pixels)
  pure (groups * 8)

section Packed8888

variable {r g b : Nat} {source : List UInt8} {width : Nat}

/-- The byte of the source that byte `k` of the output comes from. -/
def packed8888Pick (r g b k : Nat) : Nat :=
  k / 3 * 4 + if k % 3 = 0 then r else if k % 3 = 1 then g else b

theorem packed8888Controls_named (channels : r < 4 ∧ g < 4 ∧ b < 4) (k : Nat) (bound : k < 12) :
    (UInt8.ofInt ((packed8888Controls r g b).getD k 0)).toNat = packed8888Pick r g b k ∧
      packed8888Pick r g b k < 16 := by
  have named : ∀ r < 4, ∀ g < 4, ∀ b < 4, ∀ k < 12,
      (UInt8.ofInt ((packed8888Controls r g b).getD k 0)).toNat = packed8888Pick r g b k ∧
        packed8888Pick r g b k < 16 := by
    decide +kernel
  exact named r channels.1 g channels.2.1 b channels.2.2 k bound

theorem storeTwelveBytes_returns {value : M128} {f : Nat → UInt8} {pixel : Nat → List UInt8}
    {old : List UInt8} {k start : Nat} (reads : Reads 12 value f) (rgb : IsRgb pixel)
    (fits : width * 3 ≤ old.length) (bound : k + 4 ≤ width) (at_start : start = k * 3)
    (pixels : ∀ j, j < 4 → pixel (k + j) = [f (j * 3), f (j * 3 + 1), f (j * 3 + 2)]) :
    Returns (storeTwelveBytes start value) (rowUpTo pixel width old k) ()
      (rowUpTo pixel width old (k + 4)) := by
  subst at_start
  have size : (blocks pixel width).length = width * 3 := rgb.row
  have front := (reads.mono (show 8 ≤ 12 by decide)).ofFn (by decide)
  have back := (@Reads.srli 4 _ _ reads (by decide)).ofFn (by decide)
  have frontSize : ((List.ofFn value).take 8).length = 8 := by simp
  have backSize : ((List.ofFn (srliSi128Eight value)).take 4).length = 4 := by simp
  rw [rowUpTo, rowUpTo, show (k + 4) * 3 = k * 3 + 8 + 4 by omega]
  refine Writes.advanceTwo (by omega) (by omega) (by omega) (by omega) ?_ .copyFromSlice
    .copyFromSlice
  rw [show k * 3 + 8 + 4 = (k + 4) * 3 by omega, slice_blocks_run rgb bound, front, back,
    blocks_congr pixels]
  rfl

theorem packed8888Pixel_picks {first k : Nat} :
    packed8888Pixel r g b source (first + k) =
      [source.getD (first * 4 + packed8888Pick r g b (k * 3)) 0,
        source.getD (first * 4 + packed8888Pick r g b (k * 3 + 1)) 0,
        source.getD (first * 4 + packed8888Pick r g b (k * 3 + 2)) 0] := by
  have red : packed8888Pick r g b (k * 3) = k * 4 + r := by
    rw [packed8888Pick, if_pos (by omega)]
    omega
  have green : packed8888Pick r g b (k * 3 + 1) = k * 4 + g := by
    rw [packed8888Pick, if_neg (by omega), if_pos (by omega)]
    omega
  have blue : packed8888Pick r g b (k * 3 + 2) = k * 4 + b := by
    rw [packed8888Pick, if_neg (by omega), if_neg (by omega)]
    omega
  rw [packed8888Pixel, red, green, blue, Nat.add_mul, Nat.add_assoc, Nat.add_assoc, Nat.add_assoc]

private theorem packed8888RowSsse3_fills (channels : r < 4 ∧ g < 4 ∧ b < 4)
    (bytes : source.length = width * 4) :
    FillsPrefix 1 width (packed8888RowSsse3 r g b source) (packed8888Pixel r g b source) := by
  intro old size
  refine ⟨_, ?_, Or.inl (Nat.mod_one _), .bind .getState (groups_return fun group bound => ?_)⟩
  · omega
  · have inside : group < source.length / 16 := by omega
    have picked := (@loadu_reads source (group * 4 * 4)).shuffle (packed8888Controls_named channels)
    refine .bind (loadu_returns (by omega)) ?_
    rw [show group * 16 = group * 4 * 4 by omega]
    exact storeTwelveBytes_returns picked isRgb_packed8888 (by omega) (by omega) (by omega)
      fun j _ => packed8888Pixel_picks

private theorem packed8888RowAvx2_fills (channels : r < 4 ∧ g < 4 ∧ b < 4)
    (bytes : source.length = width * 4) :
    FillsPrefix 1 width (packed8888RowAvx2 r g b source) (packed8888Pixel r g b source) := by
  intro old size
  refine ⟨_, ?_, Or.inl (Nat.mod_one _), .bind .getState (groups_return fun group bound => ?_)⟩
  · omega
  · have inside : group < source.length / 32 := by omega
    have raw : ReadsWide (fun i => source.getD (group * 8 * 4 + i) 0)
        fun k => source.getD (group * 8 * 4 + k) 0 := fun _ => rfl
    have lower := raw.low.shuffle (packed8888Controls_named channels)
    have upper := raw.high.shuffle (packed8888Controls_named channels)
    refine .bind (loadu_returns (by omega)) ?_
    rw [show group * 32 = group * 8 * 4 by omega]
    simp only [low_shuffle, high_shuffle]
    refine .bind (storeTwelveBytes_returns lower isRgb_packed8888 (by omega) (by omega) (by omega)
      fun j _ => packed8888Pixel_picks) ?_
    refine storeTwelveBytes_returns upper isRgb_packed8888 (by omega)
      (show group * 8 + 4 + 4 ≤ width by omega) (by omega) fun j _ => ?_
    rw [packed8888Pixel_picks, show (group * 8 + 4) * 4 = group * 8 * 4 + 16 by omega,
      Nat.add_assoc, Nat.add_assoc, Nat.add_assoc]

end Packed8888

/-! ### The processors -/

/-- The YUV kernels that a processor with AVX2 runs. There is none for strided
chroma: the column loop takes the whole row. -/
def avx2Kernels : YuvKernels where
  planarTwoRows := planarTwoRowsAvx2
  planarRow := planarRowAvx2
  planarStridedRow := fun _ _ _ _ _ _ => pure 0
  planarHalfRow := planarHalfRowAvx2
  semiplanarTwoRows := semiplanarTwoRowsAvx2
  semiplanarRow := semiplanarRowAvx2
  semiplanarHalfRow := semiplanarHalfRowAvx2
  packed422Row := packed422RowAvx2
  packed422HalfRow := packed422HalfRowAvx2
  planarTwoRows_fills := fun _ _ _ _ _ _ configured luma0 luma1 _ _ =>
    planarTwoRowsAvx2_fills configured luma0 luma1
  planarRow_fills := fun _ _ _ _ _ configured luma _ _ => planarRowAvx2_fills configured luma
  planarStridedRow_fills := fun _ _ _ _ _ _ _ _ _ _ _ => fillsPrefix_none
  planarHalfRow_fills := fun _ _ _ _ _ configured luma _ _ =>
    planarHalfRowAvx2_fills configured luma
  semiplanarTwoRows_fills := fun _ _ _ _ _ _ configured luma0 luma1 _ =>
    semiplanarTwoRowsAvx2_fills configured luma0 luma1
  semiplanarRow_fills := fun _ _ _ _ _ configured luma _ =>
    semiplanarRowAvx2_fills configured luma
  semiplanarHalfRow_fills := fun _ _ _ _ _ configured luma _ =>
    semiplanarHalfRowAvx2_fills configured luma
  packed422Row_fills := fun _ _ _ _ configured even bytes =>
    packed422RowAvx2_fills configured even bytes
  packed422HalfRow_fills := fun _ _ _ _ configured bytes =>
    packed422HalfRowAvx2_fills configured bytes

def Cpu.avx2 : Cpu where
  yuv := some avx2Kernels
  packed8888 :=
    { row := packed8888RowAvx2
      row_fills := fun _ _ _ _ _ red green blue bytes =>
        packed8888RowAvx2_fills ⟨red, green, blue⟩ bytes }

def Cpu.ssse3 : Cpu where
  yuv := none
  packed8888 :=
    { row := packed8888RowSsse3
      row_fills := fun _ _ _ _ _ red green blue bytes =>
        packed8888RowSsse3_fills ⟨red, green, blue⟩ bytes }

end CameraRs

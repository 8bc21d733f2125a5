/-
The 8-bit converters of packed 4:2:2 rows. The scalar loop goes pair by pair; the
generic loop takes batches of four pairs while both slices have room for one and
leaves the rest to the same loop; the AVX2 kernel takes groups of eight pairs.
-/

import CameraRs.Conversion.Avx2

namespace CameraRs

open Lib Fill Simd

/-! ### The pair -/

def vToR : Int := 359

def uToG : Int := 88

def vToG : Int := 183

def uToB : Int := 454

/-- The body of the scalar loop, and the macro `process_pair` of the batches: one
pair from `sourceIdx` to `rgbIdx`. -/
def processPair (uyvy : Bool) (source : List UInt8) (sourceIdx rgbIdx : Nat) :
    RgbFill Unit := do
  let y0 ← read source (sourceIdx + (pairOffsets uyvy).1)
  let u ← read source (sourceIdx + (pairOffsets uyvy).2.1)
  let y1 ← read source (sourceIdx + (pairOffsets uyvy).2.2.1)
  let v ← read source (sourceIdx + (pairOffsets uyvy).2.2.2)
  let y0 : Int := y0.toNat
  let u := (u.toNat : Int) - 128
  let y1 : Int := y1.toNat
  let v := (v.toNat : Int) - 128
  let vR := (vToR * v) >>> (8 : Nat)
  let uvG := (uToG * u + vToG * v) >>> (8 : Nat)
  let uB := (uToB * u) >>> (8 : Nat)
  store rgbIdx (clampByte (y0 + vR))
  store (rgbIdx + 1) (clampByte (y0 - uvG))
  store (rgbIdx + 2) (clampByte (y0 + uB))
  store (rgbIdx + 3) (clampByte (y1 + vR))
  store (rgbIdx + 4) (clampByte (y1 - uvG))
  store (rgbIdx + 5) (clampByte (y1 + uB))

/-! ### The loops -/

/-- `while source_idx + 3 < source.len() && rgb_idx + 5 < rgb.len()`. -/
def pairLoop (uyvy : Bool) (source : List UInt8) (rgbLen sourceIdx rgbIdx : Nat) :
    RgbFill Unit :=
  if sourceIdx + 3 < source.length ∧ rgbIdx + 5 < rgbLen then do
    processPair uyvy source sourceIdx rgbIdx
    pairLoop uyvy source rgbLen (sourceIdx + 4) (rgbIdx + 6)
  else
    pure ()
termination_by source.length - sourceIdx
decreasing_by omega

/-- The scalar loop, from the front of both slices. -/
def packed422ScalarInto (uyvy : Bool) (source : List UInt8) : RgbFill Unit := do
  let rgb ← getState
  pairLoop uyvy source rgb.length 0 0

/-- The batched loop with `batches` rounds to go; it breaks when the output has no
room for another batch. -/
def batchLoop (uyvy : Bool) (source : List UInt8) (rgbLen : Nat) :
    (batches sourceIdx rgbIdx : Nat) → RgbFill (Nat × Nat)
  | 0, sourceIdx, rgbIdx => pure (sourceIdx, rgbIdx)
  | batches + 1, sourceIdx, rgbIdx =>
      if rgbLen < rgbIdx + 24 then
        pure (sourceIdx, rgbIdx)
      else do
        processPair uyvy source sourceIdx rgbIdx
        processPair uyvy source (sourceIdx + 4) (rgbIdx + 6)
        processPair uyvy source (sourceIdx + 8) (rgbIdx + 12)
        processPair uyvy source (sourceIdx + 12) (rgbIdx + 18)
        batchLoop uyvy source rgbLen batches (sourceIdx + 16) (rgbIdx + 24)

/-- Batches of eight pixels, then the remaining pairs. -/
def packed422SimdGeneric (uyvy : Bool) (source : List UInt8) : RgbFill Unit := do
  let rgb ← getState
  let reached ← batchLoop uyvy source rgb.length (source.length / 16) 0 0
  pairLoop uyvy source rgb.length reached.1 reached.2

def yuyvToRgbScalarInto : List UInt8 → RgbFill Unit := packed422ScalarInto false

def uyvyToRgbScalarInto : List UInt8 → RgbFill Unit := packed422ScalarInto true

def yuyvToRgbSimdGeneric : List UInt8 → RgbFill Unit := packed422SimdGeneric false

def uyvyToRgbSimdGeneric : List UInt8 → RgbFill Unit := packed422SimdGeneric true

/-- What the 8-bit converters pass to the AVX2 kernel. -/
def packed8BitCoefficients : Coefficients := ⟨256, 359, 88, 183, 454, 0⟩

/-- `x86::packed422_avx2::<false, 8, 0, 255>`. -/
def yuyvToRgbAvx2 (source : List UInt8) : RgbFill Unit :=
  packed422Avx2 false 8 0 255 source packed8BitCoefficients

/-- `x86::packed422_avx2::<true, 8, 0, 255>`. -/
def uyvyToRgbAvx2 (source : List UInt8) : RgbFill Unit :=
  packed422Avx2 true 8 0 255 source packed8BitCoefficients

/-! ### The same pixels -/

section Agreement

variable {uyvy : Bool} {source old : List UInt8}

/-- Adding `256 * y` before the shift is adding `y` after it; the green term, which
the loops subtract, needs the ceiling that `255` gives. -/
theorem shiftedRgb_floored {y u v : UInt8} :
    shiftedRgb 8 0 255 packed8BitCoefficients y u v =
      [clampByte ((y.toNat : Int) + (vToR * ((v.toNat : Int) - 128)) >>> (8 : Nat)),
        clampByte ((y.toNat : Int) -
          (uToG * ((u.toNat : Int) - 128) + vToG * ((v.toNat : Int) - 128)) >>> (8 : Nat)),
        clampByte ((y.toNat : Int) + (uToB * ((u.toNat : Int) - 128)) >>> (8 : Nat))] := by
  have above (y k : Int) : ((y - 0) * 256 + (k + 0)) >>> (8 : Nat) = y + k >>> (8 : Nat) := by
    simp only [Int.shiftRight_eq_div_pow]
    omega
  have below (y u v : Int) : ((y - 0) * 256 + (-88 * u - 183 * v + 255)) >>> (8 : Nat) =
      y - (88 * u + 183 * v) >>> (8 : Nat) := by
    simp only [Int.shiftRight_eq_div_pow]
    omega
  simp only [shiftedRgb, Coefficients.luma, Coefficients.redChroma, Coefficients.greenChroma,
    Coefficients.blueChroma, packed8BitCoefficients, vToR, uToG, vToG, uToB, above, below]

theorem packed8Bit_moderate : Moderate packed8BitCoefficients 0 255 :=
  { small := by decide
    rounding := by decide
    greenRounding := by decide }

/-- The pixel at `x` that all the converters give. -/
def packed8BitPixel (uyvy : Bool) (source : List UInt8) : Nat → List UInt8 :=
  packed422Shifted 8 0 255 packed8BitCoefficients uyvy source

theorem processPair_returns {pairs pair sourceIdx rgbIdx : Nat}
    (at_source : sourceIdx = pair * 4) (at_rgb : rgbIdx = pair * 6) (bound : pair < pairs)
    (room : pairs * 4 ≤ source.length) (fits : pairs * 6 ≤ old.length) :
    Returns (processPair uyvy source sourceIdx rgbIdx)
      (pairsUpTo (packed8BitPixel uyvy source) pairs old pair) ()
      (pairsUpTo (packed8BitPixel uyvy source) pairs old (pair + 1)) := by
  subst at_source at_rgb
  have inside : (pairOffsets uyvy).1 < 4 ∧ (pairOffsets uyvy).2.1 < 4 ∧
      (pairOffsets uyvy).2.2.1 < 4 ∧ (pairOffsets uyvy).2.2.2 < 4 := by
    cases uyvy <;> decide
  have rgb : IsRgb (packed8BitPixel uyvy source) := isRgb_packed422Shifted
  have total : (blocks (packed8BitPixel uyvy source) (pairs * 2)).length = pairs * 2 * 3 :=
    rgb.row
  obtain ⟨first, second⟩ := @packed422Shifted_pair packed8BitCoefficients 8 0 255 uyvy source pair
  rw [shiftedRgb_floored] at first second
  have even {j : Nat} (small : j < 3) :
      (blocks (packed8BitPixel uyvy source) (pairs * 2))[pair * 6 + j]? = _ :=
    (congrArg _ (by omega)).trans
      ((getElem?_blocks rgb (show pair * 2 < pairs * 2 by omega) small).trans
        (congrArg (·[j]?) first))
  have odd {j : Nat} (small : j < 3) :
      (blocks (packed8BitPixel uyvy source) (pairs * 2))[pair * 6 + 3 + j]? = _ :=
    (congrArg _ (by omega)).trans
      ((getElem?_blocks rgb (show pair * 2 + 1 < pairs * 2 by omega) small).trans
        (congrArg (·[j]?) second))
  rw [pairsUpTo, pairsUpTo, rowUpTo, rowUpTo, show pair * 2 * 3 = pair * 6 by omega,
    show (pair + 1) * 2 * 3 = pair * 6 + 6 by omega]
  refine .bind (.read (d := 0) (by omega)) (.bind (.read (d := 0) (by omega))
    (.bind (.read (d := 0) (by omega)) (.bind (.read (d := 0) (by omega)) ?_)))
  have longer : (blocks (packed8BitPixel uyvy source) (pairs * 2)).length ≤ old.length := by
    omega
  exact .bind (.storeNext rfl (even (j := 0) (by decide)) longer)
    (.bind (.storeNext rfl (even (j := 1) (by decide)) longer)
    (.bind (.storeNext rfl (even (j := 2) (by decide)) longer)
    (.bind (.storeNext rfl (odd (j := 0) (by decide)) longer)
    (.bind (.storeNext rfl (odd (j := 1) (by decide)) longer)
    (.storeNext rfl (odd (j := 2) (by decide)) longer)))))

theorem pairLoop_returns {pairs pair : Nat}
    (known : min (source.length / 4) (old.length / 6) = pairs) (reached : pair ≤ pairs) :
    Returns (pairLoop uyvy source old.length (pair * 4) (pair * 6))
      (pairsUpTo (packed8BitPixel uyvy source) pairs old pair) ()
      (pairsUpTo (packed8BitPixel uyvy source) pairs old pairs) := by
  obtain ⟨left, rfl⟩ := Nat.exists_eq_add_of_le reached
  induction left generalizing pair with
  | zero =>
      rw [pairLoop, if_neg (by omega)]
      exact .pure
  | succ left ih =>
      rw [pairLoop, if_pos (by omega)]
      refine .bind (processPair_returns rfl rfl (by omega) (by omega) (by omega)) ?_
      have rest := @ih (pair + 1) (by omega) (by omega)
      rw [show pair + 1 + left = pair + (left + 1) by omega, Nat.succ_mul, Nat.succ_mul] at rest
      exact rest

private theorem batchLoop_returns {pairs batches pair : Nat}
    (known : min (source.length / 4) (old.length / 6) = pairs)
    (room : pair * 4 + batches * 16 ≤ source.length) (reached : pair ≤ pairs) :
    ∃ last, last ≤ pairs ∧
      Returns (batchLoop uyvy source old.length batches (pair * 4) (pair * 6))
        (pairsUpTo (packed8BitPixel uyvy source) pairs old pair) (last * 4, last * 6)
        (pairsUpTo (packed8BitPixel uyvy source) pairs old last) := by
  induction batches generalizing pair with
  | zero => exact ⟨pair, reached, .pure⟩
  | succ batches ih =>
      rw [batchLoop]
      split
      · exact ⟨pair, reached, .pure⟩
      · obtain ⟨last, inside, rest⟩ := @ih (pair + 4) (by omega) (by omega)
        refine ⟨last, inside, ?_⟩
        rw [Nat.add_mul, Nat.add_mul] at rest
        have one (k : Nat) (bound : k < 4) {sourceIdx rgbIdx : Nat}
            (at_source : sourceIdx = (pair + k) * 4) (at_rgb : rgbIdx = (pair + k) * 6) :=
          @processPair_returns uyvy source old pairs (pair + k) _ _ at_source at_rgb (by omega)
            (by omega) (by omega)
        exact .bind (one 0 (by decide) (by omega) (by omega))
          (.bind (one 1 (by decide) (by omega) (by omega))
          (.bind (one 2 (by decide) (by omega) (by omega))
          (.bind (one 3 (by decide) (by omega) (by omega)) rest)))

theorem packed422ScalarInto_returns :
    Returns (packed422ScalarInto uyvy source) old ()
      (pairsUpTo (packed8BitPixel uyvy source) (min (source.length / 4) (old.length / 6)) old
        (min (source.length / 4) (old.length / 6))) := by
  refine .bind .getState ?_
  have ran := @pairLoop_returns uyvy source old _ 0 rfl (Nat.zero_le _)
  rw [pairsUpTo_zero] at ran
  exact ran

theorem packed422SimdGeneric_returns :
    Returns (packed422SimdGeneric uyvy source) old ()
      (pairsUpTo (packed8BitPixel uyvy source) (min (source.length / 4) (old.length / 6)) old
        (min (source.length / 4) (old.length / 6))) := by
  refine .bind .getState ?_
  obtain ⟨last, inside, ran⟩ := @batchLoop_returns uyvy source old _ (source.length / 16) 0 rfl
    (by omega) (Nat.zero_le _)
  rw [pairsUpTo_zero] at ran
  exact .bind ran (pairLoop_returns rfl inside)

/-- The scalar loop, the batched loop and the AVX2 kernel return and leave the same
output for either order. -/
theorem packed422_converters_agree (source old : List UInt8) :
    (∃ rgb, Returns (yuyvToRgbScalarInto source) old () rgb ∧
      Returns (yuyvToRgbSimdGeneric source) old () rgb ∧
      Returns (yuyvToRgbAvx2 source) old () rgb) ∧
    (∃ rgb, Returns (uyvyToRgbScalarInto source) old () rgb ∧
      Returns (uyvyToRgbSimdGeneric source) old () rgb ∧
      Returns (uyvyToRgbAvx2 source) old () rgb) :=
  ⟨⟨_, packed422ScalarInto_returns, packed422SimdGeneric_returns,
      packed422Avx2_returns packed8Bit_moderate⟩,
    ⟨_, packed422ScalarInto_returns, packed422SimdGeneric_returns,
      packed422Avx2_returns packed8Bit_moderate⟩⟩

end Agreement

end CameraRs

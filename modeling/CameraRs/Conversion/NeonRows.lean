/-
The row kernels of an Arm processor with NEON, and what such a processor offers.
Unlike the x86 ones they also gather chroma samples that lie apart.
-/

import CameraRs.Conversion.Avx2Rows
import CameraRs.Conversion.Blocked
import CameraRs.Conversion.Neon

namespace CameraRs

open Lib Fill Neon

/-! ### Planar rows -/

def fromLeBytes (a b c d : UInt8) : BitVec 32 :=
  BitVec.ofNat 32 (a.toNat + b.toNat * 256 + c.toNat * 256 ^ 2 + d.toNat * 256 ^ 3)

/-- Four samples `stride` bytes apart, from sample `offset` on, in a register. -/
def gatherFour (plane : List UInt8) (offset stride : Nat) : RgbFill U8x8 := do
  let a ← read plane ((offset + 0) * stride)
  let b ← read plane ((offset + 1) * stride)
  let c ← read plane ((offset + 2) * stride)
  let d ← read plane ((offset + 3) * stride)
  pure (vcreateU8 ((fromLeBytes a b c d).setWidth 64))

def planarRowNeon (c : Coefficients) (y u v : List UInt8) (uStride vStride : Nat) :
    RgbFill Nat := do
  let rgb ← getState
  let groups := min (y.length / 8) (rgb.length / 24)
  forRange 0 groups fun group => do
    let offset := group * 4
    let u ← gatherFour u offset uStride
    let v ← gatherFour v offset vStride
    let y ← vld1U8 y (group * 8)
    vst3 (group * 24) (rgb8WithCoefficients y (vzip1U8 u u) (vzip1U8 v v) c)
  pure (groups * 8)

def planarContiguousRowNeon (c : Coefficients) (y u v : List UInt8) : RgbFill Nat := do
  let rgb ← getState
  let groups := min (min (min (y.length / 16) (u.length / 8)) (v.length / 8)) (rgb.length / 48)
  forRange 0 groups fun group => do
    let u ← vld1U8 u (group * 8)
    let v ← vld1U8 v (group * 8)
    let low ← vld1U8 y (group * 16)
    vst3 (group * 48) (rgb8WithCoefficients low (vzip1U8 u u) (vzip1U8 v v) c)
    let high ← vld1U8 y (group * 16 + 8)
    vst3 (group * 48 + 24) (rgb8WithCoefficients high (vzip2U8 u u) (vzip2U8 v v) c)
  pure (groups * 16)

def storeTwoRows (group : Nat) (low high : Triple 8 × Triple 8) :
    Fill (List UInt8 × List UInt8) CameraError Unit := do
  onFst (vst3 (group * 48) low.1)
  onSnd (vst3 (group * 48) low.2)
  onFst (vst3 (group * 48 + 24) high.1)
  onSnd (vst3 (group * 48 + 24) high.2)

def planarContiguousTwoRowsNeon (c : Coefficients) (y0 y1 u v : List UInt8) :
    Fill (List UInt8 × List UInt8) CameraError Nat := do
  let rgb ← getState
  let groups := min (min (min (min (min (y0.length / 16) (y1.length / 16)) (u.length / 8))
    (v.length / 8)) (rgb.1.length / 48)) (rgb.2.length / 48)
  forRange 0 groups fun group => do
    let u ← vld1U8 u (group * 8)
    let v ← vld1U8 v (group * 8)
    let y0Low ← vld1U8 y0 (group * 16)
    let y1Low ← vld1U8 y1 (group * 16)
    let low := rgb8TwoLumaWithCoefficients y0Low y1Low (vzip1U8 u u) (vzip1U8 v v) c
    let y0High ← vld1U8 y0 (group * 16 + 8)
    let y1High ← vld1U8 y1 (group * 16 + 8)
    let high := rgb8TwoLumaWithCoefficients y0High y1High (vzip2U8 u u) (vzip2U8 v v) c
    storeTwoRows group low high
  pure (groups * 16)

def planarHalfRowNeon (c : Coefficients) (y u v : List UInt8) : RgbFill Nat := do
  let rgb ← getState
  let groups := min (min (min (y.length / 16) (u.length / 8)) (v.length / 8)) (rgb.length / 24)
  forRange 0 groups fun group => do
    let luma ← vldStructured 2 8 y (group * 16)
    let u ← vld1U8 u (group * 8)
    let v ← vld1U8 v (group * 8)
    vst3 (group * 24) (rgb8WithCoefficients (luma 0) u v c)
  pure (groups * 8)

section Planar

variable {c : Coefficients} {y y0 y1 u v : List UInt8} {width : Nat}

theorem vld1_shows {xs : List UInt8} {start : Nat} :
    Shows (fun i : Fin 8 => xs.getD (start + i) 0) fun k => xs.getD (start + k) 0 :=
  fun _ => rfl

theorem sixteen_return {pixel : Nat → List UInt8} {group : Nat} {old : List UInt8}
    {low high : Triple 8} (front : low.Shows fun k => pixel (group * 16 + k))
    (back : high.Shows fun k => pixel (group * 16 + (8 + k))) (rgb : IsRgb pixel)
    (fits : width * 3 ≤ old.length) (bound : group * 16 + 16 ≤ width) :
    Returns (vst3 (group * 48) low : RgbFill Unit) (rowUpTo pixel width old (group * 16)) ()
        (rowUpTo pixel width old (group * 16 + 8)) ∧
      Returns (vst3 (group * 48 + 24) high : RgbFill Unit)
        (rowUpTo pixel width old (group * 16 + 8)) ()
        (rowUpTo pixel width old (group * 16 + 16)) := by
  constructor
  · exact vst3_returns front rgb fits (by omega) (by omega) rfl
  · exact vst3_returns (fun i => (back i).trans (congrArg pixel (Nat.add_assoc _ _ _).symm)) rgb
      fits (by omega) (by omega) (by omega)

theorem planarContiguousRowNeon_fills (configured : c.Configured) (luma : y.length = width) :
    FillsPrefix 2 width (planarContiguousRowNeon c y u v) (planarPixel c y u v) := by
  intro old size
  refine ⟨_, ?_, Or.inl ?_, .bind .getState (groups_return fun group bound => ?_)⟩
  · omega
  · omega
  · have inside : group < y.length / 16 ∧ group < u.length / 8 ∧ group < v.length / 8 := by omega
    have blue := (@vld1_shows u (group * 8)).double
    have red := (@vld1_shows v (group * 8)).double
    have low := rgb8WithCoefficients_shows
      (p := fun k => planarPixel c y u v (group * 16 + k)) configured.small
      (@vld1_shows y (group * 16)) blue.1 red.1 fun k _ => by
        rw [planarPixel, show (group * 16 + k) / 2 = group * 8 + k / 2 by omega]
    have high := rgb8WithCoefficients_shows
      (p := fun k => planarPixel c y u v (group * 16 + (8 + k))) configured.small
      (@vld1_shows y (group * 16 + 8)) blue.2 red.2 fun k _ => by
        rw [planarPixel, Nat.add_assoc,
          show (group * 16 + (8 + k)) / 2 = group * 8 + (8 + k) / 2 by omega]
    obtain ⟨first, second⟩ := sixteen_return low high isRgb_planar
      (show width * 3 ≤ old.length by omega) (by omega)
    exact .bind (vld1U8_returns (by omega)) (.bind (vld1U8_returns (by omega))
      (.bind (vld1U8_returns (by omega)) (.bind first
      (.bind (vld1U8_returns (by omega)) second))))

private theorem vcreateU8_shows {a b c d : UInt8} :
    Shows (vcreateU8 ((fromLeBytes a b c d).setWidth 64)) fun k => [a, b, c, d].getD k 0 := by
  have ba := a.toNat_lt
  have bb := b.toNat_lt
  have bc := c.toNat_lt
  have bd := d.toNat_lt
  have value : ((fromLeBytes a b c d).setWidth 64).toNat =
      a.toNat + b.toNat * 256 + c.toNat * 65536 + d.toNat * 16777216 := by
    rw [fromLeBytes, BitVec.toNat_setWidth, BitVec.toNat_ofNat]
    omega
  intro i
  rw [vcreateU8, value]
  apply UInt8.toNat_inj.mp
  rw [UInt8.toNat_ofNat']
  match i with
  | 0 | 1 | 2 | 3 | 4 | 5 | 6 | 7 => simp; omega

theorem gatherFour_returns {plane : List UInt8} {offset stride : Nat} {s : List UInt8}
    (room : (offset + 3) * stride < plane.length) :
    ∃ a, Returns (gatherFour plane offset stride) s a s ∧
      Shows (vzip1U8 a a) fun k => plane.getD ((offset + k / 2) * stride) 0 := by
  have inside (j : Nat) (small : j ≤ 3) : (offset + j) * stride < plane.length :=
    Nat.lt_of_le_of_lt (Nat.mul_le_mul_right stride (by omega)) room
  refine ⟨_, .bind (.read (d := 0) (inside 0 (by decide))) (.bind (.read (d := 0)
    (inside 1 (by decide))) (.bind (.read (d := 0) (inside 2 (by decide))) (.bind (.read (d := 0)
    (inside 3 (by decide))) .pure))), ?_⟩
  refine vcreateU8_shows.double.1.congr fun k bound => ?_
  have half : k / 2 = 0 ∨ k / 2 = 1 ∨ k / 2 = 2 ∨ k / 2 = 3 := by omega
  rcases half with at_0 | at_1 | at_2 | at_3
  · rw [at_0]; rfl
  · rw [at_1]; rfl
  · rw [at_2]; rfl
  · rw [at_3]; rfl

private theorem planarRowNeon_fills {uStride vStride : Nat} (configured : c.Configured)
    (luma : y.length = width) (blue : (divCeil2 width - 1) * uStride < u.length)
    (red : (divCeil2 width - 1) * vStride < v.length) :
    FillsPrefix 2 width (planarRowNeon c y u v uStride vStride)
      (stridedPixel c y u v uStride vStride) := by
  intro old size
  refine ⟨_, ?_, Or.inl ?_, .bind .getState (groups_return fun group bound => ?_)⟩
  · omega
  · omega
  · have last : group * 4 + 3 ≤ divCeil2 width - 1 := by
      unfold divCeil2
      omega
    obtain ⟨us, gatheredU, blues⟩ := @gatherFour_returns u (group * 4) uStride _
      (Nat.lt_of_le_of_lt (Nat.mul_le_mul_right uStride last) blue)
    obtain ⟨vs, gatheredV, reds⟩ := @gatherFour_returns v (group * 4) vStride _
      (Nat.lt_of_le_of_lt (Nat.mul_le_mul_right vStride last) red)
    have eight := rgb8WithCoefficients_shows
      (p := fun k => stridedPixel c y u v uStride vStride (group * 8 + k)) configured.small
      (@vld1_shows y (group * 8)) blues reds fun k _ => by
        rw [stridedPixel, show (group * 8 + k) / 2 = group * 4 + k / 2 by omega]
    exact .bind gatheredU (.bind gatheredV (.bind (vld1U8_returns (by omega))
      (vst3_returns eight (fun _ => rfl) (by omega) (by omega) (by omega) rfl)))

theorem storeTwoRows_returns {first second : Nat → List UInt8} {group : Nat}
    {old0 old1 : List UInt8} {low high : Triple 8 × Triple 8}
    (front : low.1.Shows (fun k => first (group * 16 + k)) ∧
      low.2.Shows fun k => second (group * 16 + k))
    (back : high.1.Shows (fun k => first (group * 16 + (8 + k))) ∧
      high.2.Shows fun k => second (group * 16 + (8 + k)))
    (rgb0 : IsRgb first) (rgb1 : IsRgb second) (size0 : old0.length = width * 3)
    (size1 : old1.length = width * 3) (bound : group * 16 + 16 ≤ width) :
    Returns (storeTwoRows group low high)
      (rowUpTo first width old0 (group * 16), rowUpTo second width old1 (group * 16)) ()
      (rowUpTo first width old0 (group * 16 + 16),
        rowUpTo second width old1 (group * 16 + 16)) := by
  obtain ⟨lower0, upper0⟩ := sixteen_return front.1 back.1 rgb0 (Nat.le_of_eq size0.symm) bound
  obtain ⟨lower1, upper1⟩ := sixteen_return front.2 back.2 rgb1 (Nat.le_of_eq size1.symm) bound
  exact .bind (.onFst lower0) (.bind (.onSnd lower1) (.bind (.onFst upper0) (.onSnd upper1)))

theorem planarContiguousTwoRowsNeon_fills (configured : c.Configured) (luma0 : y0.length = width)
    (luma1 : y1.length = width) :
    FillsPairPrefix width (planarContiguousTwoRowsNeon c y0 y1 u v) (planarPixel c y0 u v)
      (planarPixel c y1 u v) := by
  intro old0 old1 size0 size1
  refine ⟨_, ?_, Or.inl ?_, .bind .getState (pairGroups_return fun group bound => ?_)⟩
  · omega
  · omega
  · have inside : group < y0.length / 16 ∧ group < y1.length / 16 ∧ group < u.length / 8 ∧
        group < v.length / 8 := by omega
    have blue := (@vld1_shows u (group * 8)).double
    have red := (@vld1_shows v (group * 8)).double
    have low (y : List UInt8) (k : Nat) : planarPixel c y u v (group * 16 + k) =
        rgbOf c (y.getD (group * 16 + k) 0) (u.getD (group * 8 + k / 2) 0)
          (v.getD (group * 8 + k / 2) 0) := by
      rw [planarPixel, show (group * 16 + k) / 2 = group * 8 + k / 2 by omega]
    have high (y : List UInt8) (k : Nat) : planarPixel c y u v (group * 16 + (8 + k)) =
        rgbOf c (y.getD (group * 16 + 8 + k) 0) (u.getD (group * 8 + (8 + k) / 2) 0)
          (v.getD (group * 8 + (8 + k) / 2) 0) := by
      rw [low, Nat.add_assoc]
    have front := rgb8TwoLuma_shows configured.small (@vld1_shows y0 (group * 16))
      (@vld1_shows y1 (group * 16)) blue.1 red.1 (fun k _ => low y0 k) fun k _ => low y1 k
    have back := rgb8TwoLuma_shows configured.small (@vld1_shows y0 (group * 16 + 8))
      (@vld1_shows y1 (group * 16 + 8)) blue.2 red.2 (fun k _ => high y0 k) fun k _ => high y1 k
    exact .bind (vld1U8_returns (by omega)) (.bind (vld1U8_returns (by omega))
      (.bind (vld1U8_returns (by omega)) (.bind (vld1U8_returns (by omega))
      (.bind (vld1U8_returns (by omega)) (.bind (vld1U8_returns (by omega))
      (storeTwoRows_returns front back isRgb_planar isRgb_planar size0 size1 (by omega)))))))

private theorem planarHalfRowNeon_fills (configured : c.Configured) (luma : y.length = width * 2) :
    FillsPrefix 1 width (planarHalfRowNeon c y u v) (fun x => planarPixel c y u v (x * 2)) := by
  intro old size
  refine ⟨_, ?_, Or.inl (Nat.mod_one _), .bind .getState (groups_return fun group bound => ?_)⟩
  · omega
  · have inside : group < y.length / 16 ∧ group < u.length / 8 ∧ group < v.length / 8 := by omega
    have even : Shows (fun i : Fin 8 => y.getD (group * 16 + 2 * i + 0) 0)
        fun k => y.getD (group * 16 + 2 * k + 0) 0 := fun _ => rfl
    have eight := rgb8WithCoefficients_shows
      (p := fun k => planarPixel c y u v ((group * 8 + k) * 2)) configured.small even
      (@vld1_shows u (group * 8)) (@vld1_shows v (group * 8)) fun k _ => by
        rw [planarPixel, Nat.mul_div_cancel _ (by decide),
          show (group * 8 + k) * 2 = group * 16 + 2 * k + 0 by omega]
    exact .bind (vldStructured_returns (by omega)) (.bind (vld1U8_returns (by omega))
      (.bind (vld1U8_returns (by omega))
      (vst3_returns eight (fun x => isRgb_planar (x * 2)) (by omega) (by omega) (by omega) rfl)))

end Planar

/-! ### Semi-planar rows -/

/-- The chroma registers of interleaved pairs: `(u, v)`. -/
def chromaRegisters (vuOrder : Bool) (chroma : Nat → U8x8) : U8x8 × U8x8 :=
  if vuOrder then (chroma 1, chroma 0) else (chroma 0, chroma 1)

def semiplanarRowNeon (c : Coefficients) (vuOrder : Bool) (y uv : List UInt8) : RgbFill Nat := do
  let rgb ← getState
  let groups := min (min (y.length / 16) (uv.length / 16)) (rgb.length / 48)
  forRange 0 groups fun group => do
    let chroma ← vldStructured 2 8 uv (group * 16)
    let (u, v) := chromaRegisters vuOrder chroma
    let low ← vld1U8 y (group * 16)
    vst3 (group * 48) (rgb8WithCoefficients low (vzip1U8 u u) (vzip1U8 v v) c)
    let high ← vld1U8 y (group * 16 + 8)
    vst3 (group * 48 + 24) (rgb8WithCoefficients high (vzip2U8 u u) (vzip2U8 v v) c)
  pure (groups * 16)

def semiplanarTwoRowsNeon (c : Coefficients) (vuOrder : Bool) (y0 y1 uv : List UInt8) :
    Fill (List UInt8 × List UInt8) CameraError Nat := do
  let rgb ← getState
  let groups := min (min (min (min (y0.length / 16) (y1.length / 16)) (uv.length / 16))
    (rgb.1.length / 48)) (rgb.2.length / 48)
  forRange 0 groups fun group => do
    let chroma ← vldStructured 2 8 uv (group * 16)
    let (u, v) := chromaRegisters vuOrder chroma
    let y0Low ← vld1U8 y0 (group * 16)
    let y1Low ← vld1U8 y1 (group * 16)
    let low := rgb8TwoLumaWithCoefficients y0Low y1Low (vzip1U8 u u) (vzip1U8 v v) c
    let y0High ← vld1U8 y0 (group * 16 + 8)
    let y1High ← vld1U8 y1 (group * 16 + 8)
    let high := rgb8TwoLumaWithCoefficients y0High y1High (vzip2U8 u u) (vzip2U8 v v) c
    storeTwoRows group low high
  pure (groups * 16)

def semiplanarHalfRowNeon (c : Coefficients) (vuOrder : Bool) (y uv : List UInt8) :
    RgbFill Nat := do
  let rgb ← getState
  let groups := min (min (y.length / 16) (uv.length / 16)) (rgb.length / 24)
  forRange 0 groups fun group => do
    let luma ← vldStructured 2 8 y (group * 16)
    let chroma ← vldStructured 2 8 uv (group * 16)
    let (u, v) := chromaRegisters vuOrder chroma
    vst3 (group * 24) (rgb8WithCoefficients (luma 0) u v c)
  pure (groups * 8)

section Semiplanar

variable {c : Coefficients} {vuOrder : Bool} {y y0 y1 uv : List UInt8} {width : Nat}

theorem chromaRegisters_show {chroma : Nat → U8x8} {f : Nat → UInt8}
    (loaded : ∀ j, Shows (chroma j) fun k => f (2 * k + j)) :
    Shows (chromaRegisters vuOrder chroma).1
        (fun k => f (if vuOrder then 2 * k + 1 else 2 * k)) ∧
      Shows (chromaRegisters vuOrder chroma).2
        fun k => f (if vuOrder then 2 * k else 2 * k + 1) := by
  cases vuOrder with
  | true => exact ⟨loaded 1, loaded 0⟩
  | false => exact ⟨loaded 0, loaded 1⟩

theorem vld2_shows {xs : List UInt8} {start : Nat} (j : Nat) :
    Shows (fun i : Fin 8 => xs.getD (start + 2 * i + j) 0)
      fun k => xs.getD (start + (2 * k + j)) 0 :=
  fun _ => congrArg (xs.getD · 0) (Nat.add_assoc _ _ _)

theorem semiplanarPixel_pairs {group k : Nat} :
    semiplanarPixel c vuOrder y uv (group * 16 + k) =
      rgbOf c (y.getD (group * 16 + k) 0)
        (uv.getD (group * 16 + if vuOrder then 2 * (k / 2) + 1 else 2 * (k / 2)) 0)
        (uv.getD (group * 16 + if vuOrder then 2 * (k / 2) else 2 * (k / 2) + 1) 0) := by
  rw [semiplanarPixel_group, Nat.mul_comm 2]

private theorem semiplanarRowNeon_fills (configured : c.Configured) (luma : y.length = width) :
    FillsPrefix 2 width (semiplanarRowNeon c vuOrder y uv) (semiplanarPixel c vuOrder y uv) := by
  intro old size
  refine ⟨_, ?_, Or.inl ?_, .bind .getState (groups_return fun group bound => ?_)⟩
  · omega
  · omega
  · have inside : group < y.length / 16 ∧ group < uv.length / 16 := by omega
    obtain ⟨blue, red⟩ := @chromaRegisters_show vuOrder
      (fun j i => uv.getD (group * 16 + 2 * i + j) 0) (fun k => uv.getD (group * 16 + k) 0)
      vld2_shows
    have low := rgb8WithCoefficients_shows
      (p := fun k => semiplanarPixel c vuOrder y uv (group * 16 + k)) configured.small
      (@vld1_shows y (group * 16)) blue.double.1 red.double.1 fun k _ => semiplanarPixel_pairs
    have high := rgb8WithCoefficients_shows
      (p := fun k => semiplanarPixel c vuOrder y uv (group * 16 + (8 + k))) configured.small
      (@vld1_shows y (group * 16 + 8)) blue.double.2 red.double.2 fun k _ => by
        rw [semiplanarPixel_pairs, Nat.add_assoc]
    obtain ⟨first, second⟩ := sixteen_return low high isRgb_semiplanar
      (show width * 3 ≤ old.length by omega) (by omega)
    exact .bind (vldStructured_returns (by omega)) (.bind (vld1U8_returns (by omega))
      (.bind first (.bind (vld1U8_returns (by omega)) second)))

private theorem semiplanarTwoRowsNeon_fills (configured : c.Configured) (luma0 : y0.length = width)
    (luma1 : y1.length = width) :
    FillsPairPrefix width (semiplanarTwoRowsNeon c vuOrder y0 y1 uv)
      (semiplanarPixel c vuOrder y0 uv) (semiplanarPixel c vuOrder y1 uv) := by
  intro old0 old1 size0 size1
  refine ⟨_, ?_, Or.inl ?_, .bind .getState (pairGroups_return fun group bound => ?_)⟩
  · omega
  · omega
  · have inside : group < y0.length / 16 ∧ group < y1.length / 16 ∧ group < uv.length / 16 := by
      omega
    obtain ⟨blue, red⟩ := @chromaRegisters_show vuOrder
      (fun j i => uv.getD (group * 16 + 2 * i + j) 0) (fun k => uv.getD (group * 16 + k) 0)
      vld2_shows
    have front := rgb8TwoLuma_shows configured.small (@vld1_shows y0 (group * 16))
      (@vld1_shows y1 (group * 16)) blue.double.1 red.double.1
      (fun k _ => @semiplanarPixel_pairs c vuOrder y0 uv group k)
      fun k _ => @semiplanarPixel_pairs c vuOrder y1 uv group k
    have high (y : List UInt8) (k : Nat) :=
      (@semiplanarPixel_pairs c vuOrder y uv group (8 + k)).trans <| by rw [← Nat.add_assoc]
    have back := rgb8TwoLuma_shows configured.small (@vld1_shows y0 (group * 16 + 8))
      (@vld1_shows y1 (group * 16 + 8)) blue.double.2 red.double.2 (fun k _ => high y0 k)
      fun k _ => high y1 k
    exact .bind (vldStructured_returns (by omega)) (.bind (vld1U8_returns (by omega))
      (.bind (vld1U8_returns (by omega)) (.bind (vld1U8_returns (by omega))
      (.bind (vld1U8_returns (by omega)) (storeTwoRows_returns front back isRgb_semiplanar
        isRgb_semiplanar size0 size1 (by omega))))))

theorem semiplanarHalfRowNeon_fills (configured : c.Configured) (luma : y.length = width * 2) :
    FillsPrefix 1 width (semiplanarHalfRowNeon c vuOrder y uv)
      (fun x => semiplanarPixel c vuOrder y uv (x * 2)) := by
  intro old size
  refine ⟨_, ?_, Or.inl (Nat.mod_one _), .bind .getState (groups_return fun group bound => ?_)⟩
  · omega
  · have inside : group < y.length / 16 ∧ group < uv.length / 16 := by omega
    obtain ⟨blue, red⟩ := @chromaRegisters_show vuOrder
      (fun j i => uv.getD (group * 16 + 2 * i + j) 0) (fun k => uv.getD (group * 16 + k) 0)
      vld2_shows
    have eight := rgb8WithCoefficients_shows
      (p := fun k => semiplanarPixel c vuOrder y uv ((group * 8 + k) * 2)) configured.small
      (@vld2_shows y (group * 16) 0) blue red fun k _ => by
        rw [show (group * 8 + k) * 2 = group * 16 + k * 2 by omega, semiplanarPixel_pairs,
          Nat.mul_div_cancel k (by decide), Nat.mul_comm k, Nat.add_zero (2 * k)]
    exact .bind (vldStructured_returns (by omega)) (.bind (vldStructured_returns (by omega))
      (vst3_returns eight (fun x => isRgb_semiplanar (x * 2)) (by omega) (by omega) (by omega)
        rfl))

end Semiplanar

/-! ### Packed rows -/

def packed422RowNeon (c : Coefficients) (uyvy : Bool) (source : List UInt8) : RgbFill Nat := do
  let rgb ← getState
  let groups := min (source.length / 32) (rgb.length / 48)
  forRange 0 groups fun group => do
    let pixels ← vldStructured 4 8 source (group * 32)
    let (y0, u, y1, v) := pairRegisters uyvy pixels
    vst3 (group * 48) (rgb8WithCoefficients (vzip1U8 y0 y1) (vzip1U8 u u) (vzip1U8 v v) c)
    vst3 (group * 48 + 24) (rgb8WithCoefficients (vzip2U8 y0 y1) (vzip2U8 u u) (vzip2U8 v v) c)
  pure (groups * 16)

def packed422HalfRowNeon (c : Coefficients) (uyvy : Bool) (source : List UInt8) :
    RgbFill Nat := do
  let rgb ← getState
  let groups := min (source.length / 32) (rgb.length / 24)
  forRange 0 groups fun group => do
    let pixels ← vldStructured 4 8 source (group * 32)
    let (y, u, v) :=
      if uyvy then (pixels 1, pixels 0, pixels 2) else (pixels 0, pixels 1, pixels 3)
    vst3 (group * 24) (rgb8WithCoefficients y u v c)
  pure (groups * 8)

def packed8888RowNeon (r g b : Nat) (source : List UInt8) : RgbFill Nat := do
  let rgb ← getState
  let groups := min (source.length / 64) (rgb.length / 48)
  forRange 0 groups fun group => do
    let channels ← vldStructured 4 16 source (group * 64)
    vst3 (group * 48) { first := channels r, second := channels g, third := channels b }
  pure (groups * 16)

section Packed

variable {c : Coefficients} {uyvy : Bool} {source : List UInt8} {width r g b : Nat}

theorem vld4_shows {start : Nat} (j : Nat) :
    Shows (fun i : Fin 8 => source.getD (start + 4 * i + j) 0)
      fun k => source.getD (start + (4 * k + j)) 0 :=
  fun _ => congrArg (source.getD · 0) (Nat.add_assoc _ _ _)

theorem packed422Pixel_group {group k : Nat} :
    packed422Pixel c uyvy source (group * 16 + k) =
      rgbOf c (source.getD (group * 32 + if uyvy then k * 2 + 1 else k * 2) 0)
        (source.getD (group * 32 + if uyvy then k / 2 * 4 else k / 2 * 4 + 1) 0)
        (source.getD (group * 32 + if uyvy then k / 2 * 4 + 2 else k / 2 * 4 + 3) 0) := by
  rw [← packed422Shifted_nearest, packed422Shifted_group, shiftedRgb_nearest]

theorem packed422RowNeon_fills (configured : c.Configured) (bytes : source.length = width * 2) :
    FillsPrefix 2 width (packed422RowNeon c uyvy source) (packed422Pixel c uyvy source) := by
  intro old size
  refine ⟨_, ?_, Or.inl ?_, .bind .getState (groups_return fun group bound => ?_)⟩
  · omega
  · omega
  · have inside : group < source.length / 32 := by omega
    obtain ⟨even, odd, blue, red⟩ := @pairRegisters_show uyvy
      (fun j i => source.getD (group * 32 + 4 * i + j) 0) (fun k => source.getD (group * 32 + k) 0)
      vld4_shows
    have luma := Shows.weave (h := fun k =>
      source.getD (group * 32 + if uyvy then k * 2 + 1 else k * 2) 0) even odd
    have low := rgb8WithCoefficients_shows
      (p := fun k => packed422Pixel c uyvy source (group * 16 + k)) configured.small luma.1
      blue.double.1 red.double.1 fun k _ => packed422Pixel_group
    have high := rgb8WithCoefficients_shows
      (p := fun k => packed422Pixel c uyvy source (group * 16 + (8 + k))) configured.small
      luma.2 blue.double.2 red.double.2 fun k _ => packed422Pixel_group
    obtain ⟨first, second⟩ := sixteen_return low high isRgb_packed422
      (show width * 3 ≤ old.length by omega) (by omega)
    exact .bind (vldStructured_returns (by omega)) (.bind first second)

private theorem packed422HalfRowNeon_fills (configured : c.Configured)
    (bytes : source.length = width * 4) :
    FillsPrefix 1 width (packed422HalfRowNeon c uyvy source)
      (fun x => packed422Pixel c uyvy source (x * 2)) := by
  intro old size
  refine ⟨_, ?_, Or.inl (Nat.mod_one _), .bind .getState (groups_return fun group bound => ?_)⟩
  · omega
  · have inside : group < source.length / 32 := by omega
    have register (j : Nat) {g : Nat → Nat} (place : ∀ k, 4 * k + j = g k) :
        Shows (fun i : Fin 8 => source.getD (group * 32 + 4 * i + j) 0)
          fun k => source.getD (group * 32 + g k) 0 :=
      (vld4_shows j).congr fun k _ => by rw [place]
    have pixels (k : Nat) : packed422Pixel c uyvy source ((group * 8 + k) * 2) =
        rgbOf c (source.getD (group * 32 + if uyvy then k * 4 + 1 else k * 4) 0)
          (source.getD (group * 32 + if uyvy then k * 4 else k * 4 + 1) 0)
          (source.getD (group * 32 + if uyvy then k * 4 + 2 else k * 4 + 3) 0) := by
      rw [show (group * 8 + k) * 2 = group * 16 + k * 2 by omega, packed422Pixel_group,
        Nat.mul_div_cancel k (by decide), Nat.mul_assoc k 2 2]
    have stores {y u v : U8x8} (eight : (rgb8WithCoefficients y u v c).Shows
        fun k => packed422Pixel c uyvy source ((group * 8 + k) * 2)) :=
      @vst3_returns _ width _ 8 _ _ old _ eight (fun x => isRgb_packed422 (x * 2)) (by omega)
        (show group * 8 + 8 ≤ width by omega) (show group * 24 = group * 8 * 3 by omega) rfl
    refine .bind (vldStructured_returns (by omega)) ?_
    cases uyvy with
    | true =>
        refine stores (rgb8WithCoefficients_shows configured.small (register 1 fun k => ?_)
          (register 0 fun k => ?_) (register 2 fun k => ?_) fun k _ => pixels k)
        all_goals
          simp only [if_true]
          omega
    | false =>
        refine stores (rgb8WithCoefficients_shows configured.small (register 0 fun k => ?_)
          (register 1 fun k => ?_) (register 3 fun k => ?_) fun k _ => pixels k)
        all_goals
          simp only [Bool.false_eq_true, if_false]
          omega

private theorem packed8888RowNeon_fills (bytes : source.length = width * 4) :
    FillsPrefix 1 width (packed8888RowNeon r g b source) (packed8888Pixel r g b source) := by
  intro old size
  refine ⟨_, ?_, Or.inl (Nat.mod_one _), .bind .getState (groups_return fun group bound => ?_)⟩
  · omega
  · have inside : group < source.length / 64 := by omega
    refine .bind (vldStructured_returns (by omega)) (vst3_returns (fun i => ?_) isRgb_packed8888
      (by omega) (by omega) (by omega) rfl)
    simp only [packed8888Pixel]
    rw [show (group * 16 + i.val) * 4 = group * 64 + 4 * i by omega]

end Packed

/-! ### The processor -/

def neonKernels : YuvKernels where
  planarTwoRows := planarContiguousTwoRowsNeon
  planarRow := planarContiguousRowNeon
  planarStridedRow := planarRowNeon
  planarHalfRow := planarHalfRowNeon
  semiplanarTwoRows := semiplanarTwoRowsNeon
  semiplanarRow := semiplanarRowNeon
  semiplanarHalfRow := semiplanarHalfRowNeon
  packed422Row := packed422RowNeon
  packed422HalfRow := packed422HalfRowNeon
  planarTwoRows_fills := fun _ _ _ _ _ _ configured luma0 luma1 _ _ =>
    planarContiguousTwoRowsNeon_fills configured luma0 luma1
  planarRow_fills := fun _ _ _ _ _ configured luma _ _ =>
    planarContiguousRowNeon_fills configured luma
  planarStridedRow_fills := fun _ _ _ _ _ _ _ configured luma blue red =>
    planarRowNeon_fills configured luma blue red
  planarHalfRow_fills := fun _ _ _ _ _ configured luma _ _ =>
    planarHalfRowNeon_fills configured luma
  semiplanarTwoRows_fills := fun _ _ _ _ _ _ configured luma0 luma1 _ =>
    semiplanarTwoRowsNeon_fills configured luma0 luma1
  semiplanarRow_fills := fun _ _ _ _ _ configured luma _ =>
    semiplanarRowNeon_fills configured luma
  semiplanarHalfRow_fills := fun _ _ _ _ _ configured luma _ =>
    semiplanarHalfRowNeon_fills configured luma
  packed422Row_fills := fun _ _ _ _ configured _ bytes => packed422RowNeon_fills configured bytes
  packed422HalfRow_fills := fun _ _ _ _ configured bytes =>
    packed422HalfRowNeon_fills configured bytes

def Cpu.neon : Cpu where
  yuv := some neonKernels
  packed8888 :=
    { row := packed8888RowNeon
      row_fills := fun _ _ _ _ _ _ _ _ bytes => packed8888RowNeon_fills bytes }

/-- The NEON route accepts what the reference accepts and writes the same image; that
is what `x86_kernels_write_reference` says of the other routes. -/
theorem neon_kernels_write_reference : WritesReference Cpu.neon :=
  cpu_writes_reference _

end CameraRs

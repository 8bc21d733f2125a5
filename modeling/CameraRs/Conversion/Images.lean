/-
What the kernels write. Each kernel whose planes cover the image passes its own
checks and fills the front of its destination with the image of the per-pixel
reference, whatever row kernels the processor has.
-/

import CameraRs.Conversion.Rows

namespace CameraRs

open Lib Fill

/-! ### Checked sizes -/

section Sizes

variable {a b c : Nat}

theorem checkedMul_lt (fits : a * b < usizeLimit) : checkedMul a b = some (a * b) :=
  checkedMul_eq_some.mpr ⟨fits, rfl⟩

theorem checkedAdd_lt (fits : a + b < usizeLimit) : checkedAdd a b = some (a + b) :=
  checkedAdd_eq_some.mpr ⟨fits, rfl⟩

theorem checkedMulAdd_lt (fits : a * b + c < usizeLimit) :
    (checkedMul a b).bind (checkedAdd · c) = some (a * b + c) := by
  rw [checkedMul_lt (by omega), Option.bind_some, checkedAdd_lt fits]

theorem checkedMulMul_lt (positive : 0 < c) (fits : a * b * c < usizeLimit) :
    (checkedMul a b).bind (checkedMul · c) = some (a * b * c) := by
  have smaller : a * b ≤ a * b * c := Nat.le_mul_of_pos_right _ positive
  rw [checkedMul_lt (by omega), Option.bind_some, checkedMul_lt fits]

end Sizes

/-! ### Images written row by row -/

section Images

variable {pixel : Nat → Nat → List UInt8} {width height row : Nat} {old : List UInt8}

def IsRgbImage (pixel : Nat → Nat → List UInt8) : Prop := ∀ row, IsRgb (pixel row)

theorem IsRgbImage.rows (rgb : IsRgbImage pixel) (row : Nat) :
    (blocks (pixel row) width).length = width * 3 :=
  (rgb row).row

theorem IsRgbImage.length (rgb : IsRgbImage pixel) :
    (imageOf pixel width height).length = height * (width * 3) :=
  length_blocks rgb.rows

def imageUpTo (pixel : Nat → Nat → List UInt8) (width height : Nat) (old : List UInt8)
    (row x : Nat) : List UInt8 :=
  overlay (imageOf pixel width height) ((row * width + x) * 3) old

theorem imageUpTo_row : imageUpTo pixel width height old row 0 =
    overlay (imageOf pixel width height) (row * (width * 3)) old := by
  rw [imageUpTo, Nat.add_zero, Nat.mul_assoc]

theorem imageUpTo_next : imageUpTo pixel width height old row width =
    imageUpTo pixel width height old (row + 1) 0 := by
  rw [imageUpTo, imageUpTo, Nat.succ_mul, Nat.add_zero]

theorem fills_image {round : Nat → RgbFill Unit} (rgb : IsRgbImage pixel)
    (rounds : ∀ row old, row < height → (imageOf pixel width height).length ≤ old.length →
      Returns (round row) (imageUpTo pixel width height old row 0) ()
        (imageUpTo pixel width height old row width)) :
    Fills (forRange 0 height round) (imageOf pixel width height) := by
  refine Fills.rounds rgb.rows fun row old bound fits => ?_
  have ran := rounds row old bound fits
  rwa [imageUpTo_next, imageUpTo_row, imageUpTo_row, Nat.succ_mul] at ran

theorem writes_image_row {m : RgbFill Unit} {start : Nat} (rgb : IsRgbImage pixel)
    (at_row : start = row * (width * 3)) (bound : row < height)
    (fits : (imageOf pixel width height).length ≤ old.length)
    (writes : Writes m (blocks (pixel row) width)) :
    Returns (within start (start + width * 3) m) (imageUpTo pixel width height old row 0) ()
      (imageUpTo pixel width height old row width) := by
  subst at_row
  rw [imageUpTo_next, imageUpTo_row, imageUpTo_row, Nat.succ_mul]
  exact Writes.block rgb.rows bound fits writes

theorem slice_imageOf {x : Nat} (rgb : IsRgbImage pixel) (bound : row < height)
    (inside : x < width) :
    slice (imageOf pixel width height) ((row * width + x) * 3) ((row * width + x) * 3 + 3) =
      pixel row x := by
  have place : (row * width + x) * 3 = row * (width * 3) + x * 3 := by
    rw [Nat.add_mul, Nat.mul_assoc]
  have line : slice (imageOf pixel width height) (row * (width * 3))
      (row * (width * 3) + width * 3) = blocks (pixel row) width :=
    slice_blocks rgb.rows bound
  rw [place, Nat.add_assoc,
    ← slice_slice (show x * 3 + 3 ≤ row * (width * 3) + width * 3 - row * (width * 3) by omega),
    line]
  exact slice_blocks (rgb row) inside

private theorem pixel_inside {x : Nat} (bound : row < height) (inside : x < width) :
    (row * width + x) * 3 + 3 ≤ height * (width * 3) := by
  have rows : row * width + width ≤ height * width := by
    rw [← Nat.succ_mul]
    exact Nat.mul_le_mul_right width bound
  rw [← Nat.mul_assoc]
  omega

theorem writes_image_pixel {m : RgbFill Unit} {start x : Nat} (rgb : IsRgbImage pixel)
    (at_pixel : start = (row * width + x) * 3) (bound : row < height) (inside : x < width)
    (fits : (imageOf pixel width height).length ≤ old.length)
    (writes : Writes m (pixel row x)) :
    Returns (within start (start + 3) m) (imageUpTo pixel width height old row x) ()
      (imageUpTo pixel width height old row (x + 1)) := by
  subst at_pixel
  rw [imageUpTo, imageUpTo, ← Nat.add_assoc, Nat.succ_mul]
  refine Writes.advance (Nat.le_add_right _ _) ?_ fits ?_
  · rw [rgb.length]
    exact pixel_inside bound inside
  · rwa [slice_imageOf rgb bound inside]

theorem prefix_image_row {step start : Nat} {kernel : RgbFill Nat} (rgb : IsRgbImage pixel)
    (at_row : start = row * (width * 3)) (bound : row < height)
    (fits : (imageOf pixel width height).length ≤ old.length)
    (first : FillsPrefix step width kernel (pixel row)) :
    ∃ stop, stop ≤ width ∧ (stop % step = 0 ∨ stop = width) ∧
      Returns (within start (start + width * 3) kernel)
        (imageUpTo pixel width height old row 0) stop
        (imageUpTo pixel width height old row stop) := by
  subst at_row
  have total : (imageOf pixel width height).length = height * (width * 3) := rgb.length
  have room : row * (width * 3) + width * 3 ≤ height * (width * 3) := by
    rw [← Nat.succ_mul]
    exact Nat.mul_le_mul_right _ bound
  obtain ⟨stop, inside, aligned, ran⟩ := first
    (slice old (row * (width * 3)) (row * (width * 3) + width * 3))
    (by rw [length_slice (by omega)]; omega)
  refine ⟨stop, inside, aligned, ?_⟩
  have line : slice (imageOf pixel width height) (row * (width * 3))
      (row * (width * 3) + width * 3) = blocks (pixel row) width :=
    slice_blocks rgb.rows bound
  have place : (row * width + stop) * 3 = row * (width * 3) + stop * 3 := by
    rw [Nat.add_mul, Nat.mul_assoc]
  rw [imageUpTo_row, imageUpTo, place]
  refine Returns.advancePart (by omega) (by omega) (by omega) fits ?_
  rwa [line]

end Images

/-! ### Planes -/

namespace YuvPlane

variable {plane : YuvPlane} {width height : Nat}

def sample (plane : YuvPlane) (row x : Nat) : UInt8 :=
  plane.data.getD (row * plane.rowStride + x * plane.pixelStride) 0

structure Covers (plane : YuvPlane) (width height : Nat) : Prop where
  step : 0 < plane.pixelStride
  row : (width - 1) * plane.pixelStride + 1 ≤ plane.rowStride
  extent : (height - 1) * plane.rowStride + ((width - 1) * plane.pixelStride + 1) ≤
    plane.data.length
  small : plane.data.length < usizeLimit

namespace Covers

theorem validate (covers : plane.Covers width height) (wide : 0 < width)
    (tall : 0 < height) : plane.validate width height = .ok () := by
  have step := covers.step
  have row := covers.row
  have extent := covers.extent
  have small := covers.small
  have rowBytes : ((checkedSub width 1).bind (checkedMul · plane.pixelStride)).bind
      (checkedAdd · 1) = some ((width - 1) * plane.pixelStride + 1) := by
    rw [checkedSub, if_pos (by omega), Option.bind_some, checkedMulAdd_lt (by omega)]
  have required : ((checkedSub height 1).bind (checkedMul · plane.rowStride)).bind (fun n =>
      (some ((width - 1) * plane.pixelStride + 1)).bind (checkedAdd n ·)) =
      some ((height - 1) * plane.rowStride + ((width - 1) * plane.pixelStride + 1)) := by
    rw [checkedSub, if_pos (by omega), Option.bind_some]
    exact checkedMulAdd_lt (by omega)
  simp only [YuvPlane.validate, rowBytes, required]
  rw [if_neg]
  simp only [Option.all_some, decide_eq_true_eq]
  omega

theorem rowEnd (covers : plane.Covers width height) {row : Nat} (bound : row < height) :
    row * plane.rowStride + ((width - 1) * plane.pixelStride + 1) ≤ plane.data.length := by
  have earlier : row * plane.rowStride ≤ (height - 1) * plane.rowStride :=
    Nat.mul_le_mul_right _ (by omega)
  have extent := covers.extent
  omega

theorem inside (covers : plane.Covers width height) {row x : Nat} (bound : row < height)
    (column : x < width) :
    row * plane.rowStride + x * plane.pixelStride < plane.data.length := by
  have earlier : x * plane.pixelStride ≤ (width - 1) * plane.pixelStride :=
    Nat.mul_le_mul_right _ (by omega)
  have whole := covers.rowEnd bound
  omega

theorem contiguous (covers : plane.Covers width height) (adjacent : plane.pixelStride = 1)
    (wide : 0 < width) {row : Nat} (bound : row < height) :
    row * plane.rowStride + width ≤ plane.data.length := by
  have whole := covers.rowEnd bound
  rw [adjacent, Nat.mul_one] at whole
  omega

end Covers

end YuvPlane

end CameraRs

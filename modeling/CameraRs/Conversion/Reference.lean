/-
The image a request asks for, pixel by pixel, and what an accepted layout says
about the planes that the kernels see.
-/

import CameraRs.Conversion.Converter
import CameraRs.Conversion.KernelImages

namespace CameraRs

open Lib Fill

def sourceByte (data : List UInt8) (p : PlaneLayout) (r x shift : Nat) : UInt8 :=
  data.getD (p.offset + r * p.rowStride + x * p.pixelStride + shift) 0

/-- The luma byte of source pixel `(x, r)` and its subsampled chroma bytes. -/
def sourceYuv (layout : FrameLayout) (data : List UInt8) (x r : Nat) :
    UInt8 × UInt8 × UInt8 :=
  match layout.format, layout.planes with
  | .yuyv, [p] =>
      (sourceByte data p r x 0, sourceByte data p r (x / 2 * 2) 1, sourceByte data p r (x / 2 * 2) 3)
  | .uyvy, [p] =>
      (sourceByte data p r x 1, sourceByte data p r (x / 2 * 2) 0, sourceByte data p r (x / 2 * 2) 2)
  | .nv12, [y, uv] =>
      (sourceByte data y r x 0, sourceByte data uv (r / 2) (x / 2) 0,
        sourceByte data uv (r / 2) (x / 2) 1)
  | .nv21, [y, uv] =>
      (sourceByte data y r x 0, sourceByte data uv (r / 2) (x / 2) 1,
        sourceByte data uv (r / 2) (x / 2) 0)
  | .yuv420p, [y, u, v] =>
      (sourceByte data y r x 0, sourceByte data u (r / 2) (x / 2) 0,
        sourceByte data v (r / 2) (x / 2) 0)
  | _, _ => (0, 0, 0)

/-- The RGB of source pixel `(x, r)`: the channels of a packed format, or the
pixel of its YUV bytes. -/
def referencePixel (layout : FrameLayout) (data : List UInt8) (c : Coefficients)
    (x r : Nat) : List UInt8 :=
  match layout.format, layout.planes with
  | .rgb8, [p] | .rgba8, [p] =>
      [sourceByte data p r x 0, sourceByte data p r x 1, sourceByte data p r x 2]
  | .bgr8, [p] | .bgra8, [p] =>
      [sourceByte data p r x 2, sourceByte data p r x 1, sourceByte data p r x 0]
  | .argb8, [p] =>
      [sourceByte data p r x 1, sourceByte data p r x 2, sourceByte data p r x 3]
  | .gray8, [p] =>
      [sourceByte data p r x 0, sourceByte data p r x 0, sourceByte data p r x 0]
  | _, _ =>
      let (y, u, v) := sourceYuv layout data x r
      rgbOf c y u v

theorem referencePixel_yuv {layout : FrameLayout} {data : List UInt8} {c : Coefficients}
    {x r : Nat} (yuv : layout.format.isYuv = true) :
    referencePixel layout data c x r = rgbOf c (sourceYuv layout data x r).1
      (sourceYuv layout data x r).2.1 (sourceYuv layout data x r).2.2 := by
  unfold referencePixel
  split <;> rename_i format _ <;>
    first
      | rfl
      | (rw [format] at yuv; cases yuv)

def sourceColumn (sourceWidth destinationWidth x : Nat) : Nat :=
  x * sourceWidth / destinationWidth

def sourceRow (sourceHeight destinationHeight : Nat) (bottomUp : Bool) (y : Nat) : Nat :=
  if bottomUp then sourceHeight - 1 - y * sourceHeight / destinationHeight
  else y * sourceHeight / destinationHeight

def requestedImage (layout : FrameLayout) (data : List UInt8) (c : Coefficients)
    (width height : Nat) : List UInt8 :=
  imageOf (fun y x => referencePixel layout data c
    (sourceColumn layout.width.toNat width x)
    (sourceRow layout.height.toNat height layout.bottomUp y)) width height

theorem isRgb_reference {layout : FrameLayout} {data : List UInt8} {c : Coefficients}
    {x r : Nat} : (referencePixel layout data c x r).length = 3 := by
  unfold referencePixel
  split <;> rfl

theorem sourceColumn_lt {source destination x : Nat} (inside : x < destination)
    (positive : 0 < source) : sourceColumn source destination x < source := by
  refine (Nat.div_lt_iff_lt_mul (by omega)).mpr ?_
  rw [Nat.mul_comm source]
  exact Nat.mul_lt_mul_of_pos_right inside positive

theorem sourceRow_lt {source destination y : Nat} {bottomUp : Bool} (inside : y < destination)
    (positive : 0 < source) : sourceRow source destination bottomUp y < source := by
  have straight : y * source / destination < source := sourceColumn_lt inside positive
  unfold sourceRow
  generalize y * source / destination = row at straight
  split <;> omega

theorem sourceColumn_same {size x : Nat} (positive : 0 < size) : sourceColumn size size x = x :=
  Nat.mul_div_cancel x positive

theorem sourceColumn_half {size x : Nat} (even : size % 2 = 0) (positive : 0 < size) :
    sourceColumn size (size / 2) x = x * 2 := by
  obtain ⟨half, rfl⟩ : ∃ half, size = 2 * half := ⟨size / 2, by omega⟩
  rw [sourceColumn, Nat.mul_div_cancel_left half (by omega), ← Nat.mul_assoc,
    Nat.mul_div_cancel _ (by omega)]

theorem imageOf_congr {pixel other : Nat → Nat → List UInt8} {width height : Nat}
    (same : ∀ row x, row < height → x < width → pixel row x = other row x) :
    imageOf pixel width height = imageOf other width height :=
  blocks_congr fun row bound => blocks_congr fun x inside => same row x bound inside

/-! ### Accepted raw layouts -/

namespace FrameLayout

variable {layout : FrameLayout} {length : Nat}

theorem validate_one {spec : PlaneSpec} (accepted : layout.validate length = .ok ())
    (raw : layout.format.isCompressed = false) (specs : layout.planeSpecs = some [spec]) :
    ∃ p, layout.planes = [p] ∧ Holds length p spec ∧
      (layout.format.isPacked422 → p.pixelStride = 2) := by
  obtain ⟨_, _, _, found, lengths, checks⟩ := validate_ok accepted
  rw [specs, Option.some.injEq] at found
  subst found
  obtain ⟨p, planes⟩ := List.length_eq_one_iff.mp lengths
  rw [planes] at checks
  exact ⟨p, planes, checkPlane_ok raw (checks p spec (by simp))⟩

theorem validate_two {first second : PlaneSpec} (accepted : layout.validate length = .ok ())
    (raw : layout.format.isCompressed = false)
    (specs : layout.planeSpecs = some [first, second]) :
    ∃ p q, layout.planes = [p, q] ∧ Holds length p first ∧ Holds length q second := by
  obtain ⟨_, _, _, found, lengths, checks⟩ := validate_ok accepted
  rw [specs, Option.some.injEq] at found
  subst found
  obtain ⟨p, q, planes⟩ := List.length_eq_two.mp lengths
  rw [planes] at checks
  exact ⟨p, q, planes, (checkPlane_ok raw (checks p first (by simp))).1,
    (checkPlane_ok raw (checks q second (by simp))).1⟩

theorem validate_three {first second third : PlaneSpec}
    (accepted : layout.validate length = .ok ()) (raw : layout.format.isCompressed = false)
    (specs : layout.planeSpecs = some [first, second, third]) :
    ∃ p q r, layout.planes = [p, q, r] ∧ Holds length p first ∧ Holds length q second ∧
      Holds length r third := by
  obtain ⟨_, _, _, found, lengths, checks⟩ := validate_ok accepted
  rw [specs, Option.some.injEq] at found
  subst found
  obtain ⟨p, q, r, planes⟩ := List.length_eq_three.mp lengths
  rw [planes] at checks
  exact ⟨p, q, r, planes, (checkPlane_ok raw (checks p first (by simp))).1,
    (checkPlane_ok raw (checks q second (by simp))).1,
    (checkPlane_ok raw (checks r third (by simp))).1⟩

theorem validate_first (accepted : layout.validate length = .ok ())
    (raw : layout.format.isCompressed = false) :
    ∃ p, layout.planes[0]? = some p ∧ p.offset + p.length ≤ length := by
  obtain ⟨_, _, specs, found, lengths, checks⟩ := validate_ok accepted
  have some_spec : specs ≠ [] := by
    rintro rfl
    unfold planeSpecs at found
    split at found <;> simp_all
  obtain ⟨spec, laterSpecs, rfl⟩ := List.exists_cons_of_ne_nil some_spec
  obtain ⟨p, later, planes⟩ := List.exists_cons_of_length_eq_add_one lengths
  rw [planes] at checks ⊢
  exact ⟨p, rfl, (checkPlane_ok raw (checks p spec (by simp))).1.inside⟩

end FrameLayout

/-! ### Planes of an accepted layout -/

def planeView (data : List UInt8) (p : PlaneLayout) (shift : Nat) : YuvPlane :=
  { data := slice data (p.offset + shift) (p.offset + p.length)
    rowStride := p.rowStride
    pixelStride := p.pixelStride }

section Planes

variable {data : List UInt8} {p : PlaneLayout} {spec : PlaneSpec} {shift : Nat}

theorem viewPlane_returns {σ : Type} {s : σ} {layout : FrameLayout} {index : Nat}
    (found : layout.planes[index]? = some p) (inside : p.offset + p.length ≤ data.length)
    (ordered : shift ≤ p.length) :
    Returns (viewPlane layout data index shift : Fill σ CameraError YuvPlane) s
      (planeView data p shift) s :=
  .bind (.readSome found) (.bind (.view (by omega) inside) .pure)

theorem length_planeView (inside : p.offset + p.length ≤ data.length) :
    (planeView data p shift).data.length = p.length - shift := by
  rw [planeView, length_slice inside]
  omega

theorem planeView_covers (holds : FrameLayout.Holds data.length p spec)
    (channel : shift < spec.channels) (small : data.length < usizeLimit) :
    (planeView data p shift).Covers spec.cols spec.rows := by
  have extent := holds.extent
  have row := holds.row
  have stride := holds.stride
  have inside := holds.inside
  have size := @length_planeView data p shift inside
  unfold FrameLayout.rowBytes at extent row
  exact
    { step := show 0 < p.pixelStride by omega
      row := show (spec.cols - 1) * p.pixelStride + 1 ≤ p.rowStride by omega
      extent := by
        rw [size]
        change (spec.rows - 1) * p.rowStride + ((spec.cols - 1) * p.pixelStride + 1) ≤ _
        omega
      small := by omega }

end Planes

end CameraRs

/-
Frame memory contracts: pixel formats, plane layouts and the validator every
frame passes before its bytes are read. `u32` fields are `UInt32`; `usize`
quantities are naturals, and the `checked_*` calls of the validator compare with
the largest 64-bit value.
-/

import CameraRs.Error
import Mathlib.Data.UInt
import Mathlib.Data.List.Basic

namespace CameraRs

/-- `usize::MAX + 1` on the 64-bit targets. -/
def usizeLimit : Nat := 2 ^ 64

def checkedMul (a b : Nat) : Option Nat :=
  if a * b < usizeLimit then some (a * b) else none

def checkedAdd (a b : Nat) : Option Nat :=
  if a + b < usizeLimit then some (a + b) else none

def divCeil2 (n : Nat) : Nat := (n + 1) / 2

theorem checkedMul_eq_some {a b n : Nat} :
    checkedMul a b = some n ↔ a * b < usizeLimit ∧ a * b = n := by
  unfold checkedMul
  split <;> simp_all

theorem checkedAdd_eq_some {a b n : Nat} :
    checkedAdd a b = some n ↔ a + b < usizeLimit ∧ a + b = n := by
  unfold checkedAdd
  split <;> simp_all

theorem divCeil2_pos {n : Nat} (positive : 0 < n) : 0 < divCeil2 n := by
  unfold divCeil2
  omega

theorem toNat_pos {n : UInt32} (nonzero : n ≠ 0) : 0 < n.toNat :=
  Nat.pos_of_ne_zero fun zero => nonzero (UInt32.toNat_inj.mp zero)

inductive PixelFormat
  | rgb8 | bgr8 | bgra8 | rgba8 | argb8
  | yuyv | uyvy | nv12 | nv21 | yuv420p
  | gray8 | mjpeg | h264
deriving DecidableEq, Repr

inductive ColorMatrix
  | unknown | bt601 | bt709 | bt2020 | smpte240M
deriving DecidableEq, Repr

inductive ColorRange
  | unknown | full | limited
deriving DecidableEq, Repr

inductive ColorPrimaries
  | unknown | bt709 | bt601_525 | bt601_625 | bt2020 | displayP3
deriving DecidableEq, Repr

inductive TransferFunction
  | unknown | linear | srgb | bt709 | pq | hlg
deriving DecidableEq, Repr

structure ColorInfo where
  matrix : ColorMatrix := .unknown
  range : ColorRange := .unknown
  primaries : ColorPrimaries := .unknown
  transfer : TransferFunction := .unknown
deriving DecidableEq, Repr

structure Orientation where
  rotationDegrees : UInt16 := 0
  mirrored : Bool := false
deriving DecidableEq, Repr

structure PlaneLayout where
  offset : Nat
  length : Nat
  rowStride : Nat
  pixelStride : Nat
deriving DecidableEq, Repr

structure FrameLayout where
  width : UInt32
  height : UInt32
  format : PixelFormat
  planes : List PlaneLayout
  color : ColorInfo := {}
  orientation : Orientation := {}
  bottomUp : Bool := false
deriving DecidableEq, Repr

namespace PixelFormat

/-- `Mjpeg | H264`: one opaque payload without rows. -/
def isCompressed : PixelFormat → Bool
  | .mjpeg | .h264 => true
  | _ => false

def isPacked422 : PixelFormat → Bool
  | .yuyv | .uyvy => true
  | _ => false

/-- The formats the converter decodes with colour coefficients. -/
def isYuv : PixelFormat → Bool
  | .yuyv | .uyvy | .nv12 | .nv21 | .yuv420p => true
  | _ => false

end PixelFormat

/-- Columns, rows and bytes per sample that a plane must hold. -/
structure PlaneSpec where
  cols : Nat
  rows : Nat
  channels : Nat
deriving DecidableEq, Repr

namespace FrameLayout

/-- `FrameLayout::rgb`: tightly packed RGB, zero lengths when the size overflows. -/
def rgb (w h : UInt32) : FrameLayout :=
  { width := w
    height := h
    format := .rgb8
    planes :=
      [{ offset := 0
         length := ((checkedMul w.toNat h.toNat).bind (checkedMul · 3)).getD 0
         rowStride := (checkedMul w.toNat 3).getD 0
         pixelStride := 3 }] }

/-- `FrameLayout::packed`: one packed or encoded plane. -/
def packed (w h : UInt32) (format : PixelFormat) (stride length : Nat) : FrameLayout :=
  { width := w
    height := h
    format := format
    planes :=
      [{ offset := 0
         length := length
         rowStride := stride
         pixelStride :=
           match format with
           | .rgb8 | .bgr8 => 3
           | .bgra8 | .rgba8 | .argb8 => 4
           | .yuyv | .uyvy => 2
           | _ => 1 }] }

def invalid : CameraError :=
  .invalidFrame "Invalid frame dimensions, planes, or strides"

/-- The `specs` table of `validate`; `none` is its odd-width rejection. -/
def planeSpecs (layout : FrameLayout) : Option (List PlaneSpec) :=
  let w := layout.width.toNat
  let h := layout.height.toNat
  match layout.format with
  | .mjpeg | .h264 => some [⟨1, 1, 1⟩]
  | .nv12 | .nv21 => some [⟨w, h, 1⟩, ⟨divCeil2 w, divCeil2 h, 2⟩]
  | .yuv420p =>
      some [⟨w, h, 1⟩, ⟨divCeil2 w, divCeil2 h, 1⟩, ⟨divCeil2 w, divCeil2 h, 1⟩]
  | .rgb8 | .bgr8 => some [⟨w, h, 3⟩]
  | .bgra8 | .rgba8 | .argb8 => some [⟨w, h, 4⟩]
  | .yuyv | .uyvy => if w % 2 ≠ 0 then none else some [⟨w, h, 2⟩]
  | .gray8 => some [⟨w, h, 1⟩]

/-- One round of the loop over the planes. -/
def checkPlane (layout : FrameLayout) (length : Nat) (p : PlaneLayout) (spec : PlaneSpec) :
    CameraResult Unit :=
  if p.length = 0 ∨ (checkedAdd p.offset p.length).all (fun n => decide (n > length)) then
    .error invalid
  else if layout.format.isCompressed then
    .ok ()
  else
    match (checkedMul (spec.cols - 1) p.pixelStride).bind (checkedAdd · spec.channels) with
    | none => .error invalid
    | some row =>
        match (checkedMul (spec.rows - 1) p.rowStride).bind (checkedAdd · row) with
        | none => .error invalid
        | some required =>
            if (layout.format.isPacked422 ∧ p.pixelStride ≠ 2) ∨
                p.pixelStride < spec.channels ∨ p.rowStride < row ∨ p.length < required then
              .error invalid
            else
              .ok ()

/-- `FrameLayout::validate` for a buffer of `length` bytes. -/
def validate (layout : FrameLayout) (length : Nat) : CameraResult Unit :=
  if layout.width = 0 ∨ layout.height = 0 ∨
      layout.orientation.rotationDegrees ∉ [0, 90, 180, 270] then
    .error invalid
  else
    match layout.planeSpecs with
    | none => .error invalid
    | some specs =>
        if layout.planes.length ≠ specs.length then
          .error invalid
        else
          (layout.planes.zip specs).forM fun (p, spec) => layout.checkPlane length p spec

/-! ### What an accepted layout guarantees -/

def rowBytes (p : PlaneLayout) (spec : PlaneSpec) : Nat :=
  (spec.cols - 1) * p.pixelStride + spec.channels

/-- The validator's demands on one raw plane, without machine arithmetic. -/
structure Holds (length : Nat) (p : PlaneLayout) (spec : PlaneSpec) : Prop where
  inside : p.offset + p.length ≤ length
  stride : spec.channels ≤ p.pixelStride
  row : rowBytes p spec ≤ p.rowStride
  extent : (spec.rows - 1) * p.rowStride + rowBytes p spec ≤ p.length

theorem checkPlane_ok {layout : FrameLayout} {length : Nat} {p : PlaneLayout}
    {spec : PlaneSpec} (raw : layout.format.isCompressed = false)
    (accepted : layout.checkPlane length p spec = .ok ()) :
    Holds length p spec ∧ (layout.format.isPacked422 → p.pixelStride = 2) := by
  unfold checkPlane at accepted
  split at accepted
  · cases accepted
  · rename_i within
    rw [raw] at accepted
    simp only [Bool.false_eq_true, if_false] at accepted
    split at accepted
    · cases accepted
    · rename_i row rowEq
      split at accepted
      · cases accepted
      · rename_i required requiredEq
        split at accepted
        · cases accepted
        · rename_i bounds
          simp only [Option.bind_eq_some_iff, checkedMul_eq_some, checkedAdd_eq_some]
            at rowEq requiredEq
          obtain ⟨_, ⟨_, rfl⟩, _, rfl⟩ := rowEq
          obtain ⟨_, ⟨_, rfl⟩, _, rfl⟩ := requiredEq
          push Not at within bounds
          have ends : p.offset + p.length ≤ length := by
            have some_end := within.2
            unfold checkedAdd at some_end
            split at some_end <;> simp_all
          exact ⟨⟨ends, bounds.2.1, bounds.2.2.1, bounds.2.2.2⟩, bounds.1⟩

private theorem forM_iff {α : Type} {f : α → CameraResult Unit} {items : List α} :
    items.forM f = .ok () ↔ ∀ item ∈ items, f item = .ok () := by
  induction items with
  | nil => simp [pure, Except.pure]
  | cons head tail ih =>
      change (f head >>= fun _ => tail.forM f) = .ok () ↔ _
      rw [List.forall_mem_cons, ← ih]
      cases f head with
      | error e => simp [bind, Except.bind]
      | ok value => simp [bind, Except.bind]

/-- The checks on the dimensions that come before the planes. -/
structure Sized (layout : FrameLayout) : Prop where
  wide : layout.width ≠ 0
  tall : layout.height ≠ 0
  upright : layout.orientation.rotationDegrees ∈ ([0, 90, 180, 270] : List UInt16)

theorem validate_iff {layout : FrameLayout} {length : Nat} :
    layout.validate length = .ok () ↔ layout.Sized ∧ ∃ specs, layout.planeSpecs = some specs ∧
      layout.planes.length = specs.length ∧ ∀ pair ∈ layout.planes.zip specs,
        layout.checkPlane length pair.1 pair.2 = .ok () := by
  unfold validate
  split
  · rename_i dims
    constructor
    · intro accepted
      cases accepted
    · rintro ⟨sized, -⟩
      rcases dims with wide | tall | upright
      · exact absurd wide sized.wide
      · exact absurd tall sized.tall
      · exact absurd sized.upright upright
  · rename_i dims
    push Not at dims
    have sized : layout.Sized := ⟨dims.1, dims.2.1, dims.2.2⟩
    cases layout.planeSpecs with
    | none => simp
    | some specs =>
        dsimp only
        by_cases lengths : layout.planes.length = specs.length
        · have loop := @forM_iff (PlaneLayout × PlaneSpec)
            (fun pair => layout.checkPlane length pair.1 pair.2) (layout.planes.zip specs)
          rw [if_neg (not_not.mpr lengths)]
          exact loop.trans ⟨fun checks => ⟨sized, specs, rfl, lengths, checks⟩,
            fun ⟨_, _, found, _, checks⟩ => Option.some.inj found ▸ checks⟩
        · simp [lengths]

theorem validate_ok {layout : FrameLayout} {length : Nat}
    (accepted : layout.validate length = .ok ()) :
    0 < layout.width.toNat ∧ 0 < layout.height.toNat ∧
      ∃ specs, layout.planeSpecs = some specs ∧ layout.planes.length = specs.length ∧
        ∀ p spec, (p, spec) ∈ layout.planes.zip specs →
          layout.checkPlane length p spec = .ok () := by
  obtain ⟨sized, specs, found, lengths, checks⟩ := validate_iff.mp accepted
  exact ⟨toNat_pos sized.wide, toNat_pos sized.tall, specs, found, lengths,
    fun p spec member => checks (p, spec) member⟩

/-! ### Layouts that are accepted -/

theorem checkPlane_pos {layout : FrameLayout} {length : Nat} {p : PlaneLayout}
    {spec : PlaneSpec} (accepted : layout.checkPlane length p spec = .ok ()) :
    0 < p.length := by
  unfold checkPlane at accepted
  split at accepted
  · cases accepted
  · rename_i bounds
    push Not at bounds
    exact Nat.pos_of_ne_zero bounds.1

theorem checkPlane_inside {layout : FrameLayout} {length : Nat} {p : PlaneLayout}
    {spec : PlaneSpec} (accepted : layout.checkPlane length p spec = .ok ()) :
    p.offset + p.length < usizeLimit ∧ p.offset + p.length ≤ length := by
  unfold checkPlane at accepted
  split at accepted
  · cases accepted
  · next bounds =>
      push Not at bounds
      have inside := bounds.2
      unfold checkedAdd at inside
      split at inside
      · next small => exact ⟨small, by simpa using inside⟩
      · simp at inside

theorem validate_inside {layout : FrameLayout} {length : Nat} {p : PlaneLayout}
    (accepted : layout.validate length = .ok ()) (described : p ∈ layout.planes) :
    p.offset + p.length < usizeLimit ∧ p.offset + p.length ≤ length := by
  obtain ⟨_, _, specs, _, lengths, checks⟩ := validate_ok accepted
  obtain ⟨k, inside, rfl⟩ := List.mem_iff_getElem.mp described
  have paired : (layout.planes[k], specs.get ⟨k, lengths ▸ inside⟩) ∈ layout.planes.zip specs := by
    rw [List.mem_iff_getElem]
    exact ⟨k, by rw [List.length_zip]; omega, by simp⟩
  exact checkPlane_inside (checks _ _ paired)

private theorem checkPlane_of_holds {layout : FrameLayout} {length : Nat} {p : PlaneLayout}
    {spec : PlaneSpec} (raw : layout.format.isCompressed = false)
    (small : length < usizeLimit) (positive : 0 < p.length) (holds : Holds length p spec)
    (packed : layout.format.isPacked422 → p.pixelStride = 2) :
    layout.checkPlane length p spec = .ok () := by
  have inside := holds.inside
  have stride := holds.stride
  have row := holds.row
  have extent := holds.extent
  unfold rowBytes at row extent
  have rowEq : (checkedMul (spec.cols - 1) p.pixelStride).bind (checkedAdd · spec.channels) =
      some ((spec.cols - 1) * p.pixelStride + spec.channels) := by
    rw [checkedMul_eq_some.mpr ⟨by omega, rfl⟩, Option.bind_some,
      checkedAdd_eq_some.mpr ⟨by omega, rfl⟩]
  have requiredEq : (checkedMul (spec.rows - 1) p.rowStride).bind
      (checkedAdd · ((spec.cols - 1) * p.pixelStride + spec.channels)) =
      some ((spec.rows - 1) * p.rowStride +
        ((spec.cols - 1) * p.pixelStride + spec.channels)) := by
    rw [checkedMul_eq_some.mpr ⟨by omega, rfl⟩, Option.bind_some,
      checkedAdd_eq_some.mpr ⟨by omega, rfl⟩]
  have within : checkedAdd p.offset p.length = some (p.offset + p.length) :=
    checkedAdd_eq_some.mpr ⟨by omega, rfl⟩
  unfold checkPlane
  rw [if_neg (by rw [within]; simp; omega), raw, if_neg (by simp), rowEq]
  simp only [requiredEq]
  rw [if_neg]
  rintro (⟨is_packed, wrong⟩ | wrong | wrong | wrong)
  · exact wrong (packed is_packed)
  · omega
  · omega
  · omega

theorem checkPlane_iff {layout : FrameLayout} {length : Nat} {p : PlaneLayout}
    {spec : PlaneSpec} (raw : layout.format.isCompressed = false) (small : length < usizeLimit) :
    layout.checkPlane length p spec = .ok () ↔
      0 < p.length ∧ Holds length p spec ∧ (layout.format.isPacked422 → p.pixelStride = 2) :=
  ⟨fun accepted => ⟨checkPlane_pos accepted, checkPlane_ok raw accepted⟩,
    fun ⟨positive, holds, packed⟩ => checkPlane_of_holds raw small positive holds packed⟩

section Counted

variable {layout : FrameLayout} {length : Nat} {p q r : PlaneLayout}
  {spec first second third : PlaneSpec}

theorem validate_one_iff (sized : layout.Sized) (raw : layout.format.isCompressed = false)
    (small : length < usizeLimit) (specs : layout.planeSpecs = some [spec])
    (planes : layout.planes = [p]) :
    layout.validate length = .ok () ↔
      0 < p.length ∧ Holds length p spec ∧
        (layout.format.isPacked422 → p.pixelStride = 2) := by
  rw [validate_iff, ← checkPlane_iff raw small]
  simp [sized, specs, planes]

theorem validate_two_iff (sized : layout.Sized) (raw : layout.format.isCompressed = false)
    (unpacked : layout.format.isPacked422 = false) (small : length < usizeLimit)
    (specs : layout.planeSpecs = some [first, second]) (planes : layout.planes = [p, q]) :
    layout.validate length = .ok () ↔
      (0 < p.length ∧ Holds length p first) ∧ 0 < q.length ∧ Holds length q second := by
  rw [validate_iff]
  simp [sized, specs, planes, checkPlane_iff raw small, unpacked, -Prod.forall]

theorem validate_three_iff (sized : layout.Sized) (raw : layout.format.isCompressed = false)
    (unpacked : layout.format.isPacked422 = false) (small : length < usizeLimit)
    (specs : layout.planeSpecs = some [first, second, third])
    (planes : layout.planes = [p, q, r]) :
    layout.validate length = .ok () ↔
      (0 < p.length ∧ Holds length p first) ∧ (0 < q.length ∧ Holds length q second) ∧
        0 < r.length ∧ Holds length r third := by
  rw [validate_iff]
  simp [sized, specs, planes, checkPlane_iff raw small, unpacked, -Prod.forall]

end Counted

theorem validate_packed {layout : FrameLayout} {length stride bytes : Nat}
    (sized : layout.Sized) (raw : layout.format.isCompressed = false)
    (small : length < usizeLimit) (positive : 0 < bytes)
    (specs : layout.planeSpecs = some [⟨layout.width.toNat, layout.height.toNat, bytes⟩])
    (plane : layout.planes = [⟨0, length, stride, bytes⟩])
    (packed : layout.format.isPacked422 = true → bytes = 2) :
    layout.validate length = .ok () ↔ layout.width.toNat * bytes ≤ stride ∧
      (layout.height.toNat - 1) * stride + layout.width.toNat * bytes ≤ length := by
  have wide := toNat_pos sized.wide
  have row : (layout.width.toNat - 1) * bytes + bytes = layout.width.toNat * bytes := by
    rw [← Nat.succ_mul]
    congr 1
    omega
  rw [validate_one_iff sized raw small specs plane]
  constructor
  · rintro ⟨_, holds, _⟩
    have rows : (layout.width.toNat - 1) * bytes + bytes ≤ stride := holds.row
    have extent : (layout.height.toNat - 1) * stride +
        ((layout.width.toNat - 1) * bytes + bytes) ≤ length := holds.extent
    rw [row] at rows extent
    exact ⟨rows, extent⟩
  · rintro ⟨rows, extent⟩
    have some_bytes : 0 < layout.width.toNat * bytes := Nat.mul_pos wide positive
    exact ⟨show 0 < length by omega,
      { inside := Nat.le_of_eq (Nat.zero_add _)
        stride := Nat.le_refl _
        row := show (layout.width.toNat - 1) * bytes + bytes ≤ stride by omega
        extent := show (layout.height.toNat - 1) * stride +
          ((layout.width.toNat - 1) * bytes + bytes) ≤ length by omega }, packed⟩

theorem validate_semiplanar {layout : FrameLayout} {luma chroma stride : Nat}
    (sized : layout.Sized) (raw : layout.format.isCompressed = false)
    (unpacked : layout.format.isPacked422 = false) (small : luma + chroma < usizeLimit)
    (specs : layout.planeSpecs = some [⟨layout.width.toNat, layout.height.toNat, 1⟩,
      ⟨divCeil2 layout.width.toNat, divCeil2 layout.height.toNat, 2⟩])
    (planes : layout.planes = [⟨0, luma, stride, 1⟩, ⟨luma, chroma, stride, 2⟩]) :
    layout.validate (luma + chroma) = .ok () ↔ divCeil2 layout.width.toNat * 2 ≤ stride ∧
      (layout.height.toNat - 1) * stride + layout.width.toNat ≤ luma ∧
      (divCeil2 layout.height.toNat - 1) * stride + divCeil2 layout.width.toNat * 2 ≤ chroma := by
  have wide := toNat_pos sized.wide
  have pairs := divCeil2_pos wide
  have half : layout.width.toNat ≤ divCeil2 layout.width.toNat * 2 := by
    unfold divCeil2
    omega
  have row : (layout.width.toNat - 1) * 1 + 1 = layout.width.toNat := by omega
  have chromaRow : (divCeil2 layout.width.toNat - 1) * 2 + 2 = divCeil2 layout.width.toNat * 2 := by
    omega
  rw [validate_two_iff sized raw unpacked small specs planes]
  constructor
  · rintro ⟨⟨_, rows⟩, _, chromaRows⟩
    have lumaExtent : (layout.height.toNat - 1) * stride +
        ((layout.width.toNat - 1) * 1 + 1) ≤ luma := rows.extent
    have chromaExtent : (divCeil2 layout.height.toNat - 1) * stride +
        ((divCeil2 layout.width.toNat - 1) * 2 + 2) ≤ chroma := chromaRows.extent
    have stride_enough : (divCeil2 layout.width.toNat - 1) * 2 + 2 ≤ stride := chromaRows.row
    rw [row] at lumaExtent
    rw [chromaRow] at chromaExtent stride_enough
    exact ⟨stride_enough, lumaExtent, chromaExtent⟩
  · rintro ⟨stride_enough, lumaExtent, chromaExtent⟩
    refine ⟨⟨show 0 < luma by omega, ?_⟩, show 0 < chroma by omega, ?_⟩
    · exact
        { inside := show 0 + luma ≤ luma + chroma by omega
          stride := Nat.le_refl _
          row := show (layout.width.toNat - 1) * 1 + 1 ≤ stride by omega
          extent := show (layout.height.toNat - 1) * stride +
            ((layout.width.toNat - 1) * 1 + 1) ≤ luma by omega }
    · exact
        { inside := Nat.le_refl _
          stride := Nat.le_refl _
          row := show (divCeil2 layout.width.toNat - 1) * 2 + 2 ≤ stride by omega
          extent := show (divCeil2 layout.height.toNat - 1) * stride +
            ((divCeil2 layout.width.toNat - 1) * 2 + 2) ≤ chroma by omega }

end FrameLayout

end CameraRs

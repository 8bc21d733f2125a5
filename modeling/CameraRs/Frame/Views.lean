/-
What consumers read of a captured frame: its planes and its rows of packed RGB.

Planes are cut out at sums that are not checked. A layout that was validated for the
bytes has no sum that wraps, and every plane and row it describes is inside.
-/

import CameraRs.Frame.Retained

namespace CameraRs.Frame

def slice (bytes : List UInt8) (start stop : Nat) : Option (List UInt8) :=
  if start ≤ stop ∧ stop ≤ bytes.length then some ((bytes.drop start).take (stop - start))
  else none

theorem slice_inside {bytes : List UInt8} {start stop : Nat} (ordered : start ≤ stop)
    (inside : stop ≤ bytes.length) :
    ∃ part, slice bytes start stop = some part ∧ part.length = stop - start := by
  refine ⟨_, if_pos ⟨ordered, inside⟩, ?_⟩
  rw [List.length_take, List.length_drop]
  omega

/-- `offset + length` as release builds add them. -/
def planeEnd (p : PlaneLayout) : Nat := (p.offset + p.length) % usizeLimit

structure RgbView where
  bytes : List UInt8
  width : Nat
  height : Nat
  rowStride : Nat
deriving DecidableEq, Repr

def RgbView.row (view : RgbView) (index : Nat) : Option (List UInt8) :=
  if index ≥ view.height then none
  else do
    let start ← checkedMul index view.rowStride
    let stop ← (checkedMul view.width 3).bind (checkedAdd start)
    slice view.bytes start stop

theorem RgbView.row_inside {view : RgbView} {index : Nat} (row : index < view.height)
    (small : view.bytes.length < usizeLimit)
    (holds : (view.height - 1) * view.rowStride + view.width * 3 ≤ view.bytes.length) :
    ∃ part, view.row index = some part ∧ part.length = view.width * 3 := by
  have rows : index * view.rowStride ≤ (view.height - 1) * view.rowStride :=
    Nat.mul_le_mul_right _ (by omega)
  have start : checkedMul index view.rowStride = some (index * view.rowStride) :=
    checkedMul_eq_some.mpr ⟨by omega, rfl⟩
  have stop : (checkedMul view.width 3).bind (checkedAdd (index * view.rowStride)) =
      some (index * view.rowStride + view.width * 3) := by
    rw [checkedMul_eq_some.mpr ⟨by omega, rfl⟩]
    exact checkedAdd_eq_some.mpr ⟨by omega, rfl⟩
  obtain ⟨part, read, length⟩ := @slice_inside view.bytes (index * view.rowStride)
    (index * view.rowStride + view.width * 3) (by omega) (by omega)
  refine ⟨part, ?_, by omega⟩
  rw [RgbView.row, if_neg (Nat.not_le.mpr row), start, Option.bind_eq_bind, Option.bind_some,
    stop, Option.bind_some, read]

private theorem RgbView.row_beyond {view : RgbView} {index : Nat} (beyond : view.height ≤ index) :
    view.row index = none := if_pos beyond

namespace CapturedFrame

variable {f : CapturedFrame} {heap : Heap}

def plane (f : CapturedFrame) (heap : Heap) (index : Nat) : Option (List UInt8) :=
  f.layout.planes[index]?.bind fun p => slice (f.bytes heap) p.offset (planeEnd p)

def rgbView (f : CapturedFrame) (heap : Heap) : CameraResult RgbView :=
  match f.layout.format, f.layout.planes with
  | .rgb8, [p] =>
      if p.pixelStride ≠ 3 then
        .error (.invalidFrame "RGB8 pixel stride must be three bytes")
      else
        match slice (f.bytes heap) p.offset (planeEnd p) with
        | some bytes =>
            .ok
              { bytes := bytes
                width := f.layout.width.toNat
                height := f.layout.height.toNat
                rowStride := p.rowStride }
        | none => .error (.invalidFrame "RGB plane is outside the frame")
  | _, _ => .error (.unsupportedFormat "Frame layout is not packed RGB8")

structure Rows (f : CapturedFrame) (view : RgbView) : Prop where
  inside : ∀ index < f.layout.height.toNat,
    ∃ row, view.row index = some row ∧ row.length = f.layout.width.toNat * 3
  beyond : ∀ index, f.layout.height.toNat ≤ index → view.row index = none

/-- The layout describes the bytes: it validates, no sum of a plane wraps, every plane
can be read, and every row of packed RGB. -/
structure WellFormed (f : CapturedFrame) (heap : Heap) : Prop where
  valid : f.layout.validate (f.bytes heap).length = .ok ()
  sums : ∀ p ∈ f.layout.planes, p.offset + p.length < usizeLimit
  planes : ∀ index p, f.layout.planes[index]? = some p →
    ∃ bytes, f.plane heap index = some bytes ∧ bytes.length = p.length
  rows : f.layout.format = .rgb8 → (∀ p ∈ f.layout.planes, p.pixelStride = 3) →
    ∃ view, f.rgbView heap = .ok view ∧ f.Rows view

theorem WellFormed.keeps {later : Heap} (wellFormed : f.WellFormed heap)
    (same : later.buffers f.storage.arc = heap.buffers f.storage.arc) : f.WellFormed later := by
  have bytes : f.bytes later = f.bytes heap := by rw [CapturedFrame.bytes, same, CapturedFrame.bytes]
  constructor
  · rw [bytes]
    exact wellFormed.valid
  · exact wellFormed.sums
  · intro index p found
    rw [plane, bytes]
    exact wellFormed.planes index p found
  · intro rgb strides
    rw [rgbView, bytes]
    exact wellFormed.rows rgb strides

theorem slice_plane (valid : f.layout.validate (f.bytes heap).length = .ok ())
    {p : PlaneLayout} (described : p ∈ f.layout.planes) :
    ∃ bytes, slice (f.bytes heap) p.offset (planeEnd p) = some bytes ∧
      bytes.length = p.length := by
  obtain ⟨small, inside⟩ := FrameLayout.validate_inside valid described
  have stop : planeEnd p = p.offset + p.length := Nat.mod_eq_of_lt small
  obtain ⟨bytes, read, length⟩ := @slice_inside (f.bytes heap) p.offset (planeEnd p)
    (by omega) (by omega)
  exact ⟨bytes, read, by omega⟩

private theorem rows_of_valid (valid : f.layout.validate (f.bytes heap).length = .ok ())
    (rgb : f.layout.format = .rgb8) (strides : ∀ p ∈ f.layout.planes, p.pixelStride = 3) :
    ∃ view, f.rgbView heap = .ok view ∧ f.Rows view := by
  obtain ⟨wide, _, specs, specified, lengths, checks⟩ := FrameLayout.validate_ok valid
  have one : specs = [⟨f.layout.width.toNat, f.layout.height.toNat, 3⟩] := by
    simp only [FrameLayout.planeSpecs, rgb, Option.some.injEq] at specified
    exact specified.symm
  rw [one] at lengths checks
  obtain ⟨p, planes⟩ := List.length_eq_one_iff.mp lengths
  have described : p ∈ f.layout.planes := by simp [planes]
  have raw : f.layout.format.isCompressed = false := by simp [rgb, PixelFormat.isCompressed]
  have checked := checks p ⟨f.layout.width.toNat, f.layout.height.toNat, 3⟩ (by simp [planes])
  have holds := (FrameLayout.checkPlane_ok raw checked).1
  obtain ⟨bytes, read, length⟩ := slice_plane valid described
  obtain ⟨small, _⟩ := FrameLayout.validate_inside valid described
  have stride : p.pixelStride = 3 := strides p described
  have extent := holds.extent
  simp only [FrameLayout.rowBytes, stride] at extent
  refine ⟨⟨bytes, f.layout.width.toNat, f.layout.height.toNat, p.rowStride⟩, ?_, ?_, ?_⟩
  · simp [rgbView, rgb, planes, stride, read]
  · intro index row
    refine RgbView.row_inside row ?_ ?_
    · dsimp only
      omega
    · dsimp only
      omega
  · intro index beyond
    exact RgbView.row_beyond beyond

theorem wellFormed_of_valid (valid : f.layout.validate (f.bytes heap).length = .ok ()) :
    f.WellFormed heap where
  valid := valid
  sums p described := (FrameLayout.validate_inside valid described).1
  planes index p found := by
    obtain ⟨bytes, read, length⟩ := slice_plane valid (List.mem_of_getElem? found)
    refine ⟨bytes, ?_, length⟩
    rw [plane, found, Option.bind_some, read]
  rows := rows_of_valid valid

end CapturedFrame

end CameraRs.Frame

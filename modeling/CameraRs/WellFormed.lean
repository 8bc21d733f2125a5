/-
What an accepted layout is, sample by sample: the planes that its format needs, and every byte of
every sample inside its plane.
-/

import CameraRs.Format

namespace CameraRs

namespace PixelFormat

def planeCount : PixelFormat → Nat
  | .nv12 | .nv21 => 2
  | .yuv420p => 3
  | _ => 1

/-- How many columns, and how many rows, share one sample of plane `k`. -/
def sharing : PixelFormat → Nat → Nat
  | .nv12, k | .nv21, k | .yuv420p, k => if k = 0 then 1 else 2
  | _, _ => 1

def sampleBytes : PixelFormat → Nat → Nat
  | .rgb8, _ | .bgr8, _ => 3
  | .bgra8, _ | .rgba8, _ | .argb8, _ => 4
  | .yuyv, _ | .uyvy, _ => 2
  | .nv12, k | .nv21, k => if k = 0 then 1 else 2
  | _, _ => 1

private theorem sampleBytes_pos (format : PixelFormat) (k : Nat) : 0 < format.sampleBytes k := by
  cases format with
  | nv12 | nv21 =>
      change 0 < if k = 0 then 1 else 2
      split
      · exact Nat.one_pos
      · exact Nat.two_pos
  | _ => exact Nat.succ_pos _

theorem sharing_cases (format : PixelFormat) (k : Nat) :
    format.sharing k = 1 ∨ format.sharing k = 2 := by
  cases format with
  | nv12 | nv21 | yuv420p =>
      change (if k = 0 then 1 else 2) = 1 ∨ (if k = 0 then 1 else 2) = 2
      split
      · exact Or.inl rfl
      · exact Or.inr rfl
  | _ => exact Or.inl rfl

end PixelFormat

namespace FrameLayout

def HasSample (layout : FrameLayout) (k y x : Nat) : Prop :=
  y * layout.format.sharing k < layout.height.toNat ∧
    x * layout.format.sharing k < layout.width.toNat

/-- A plane of a raw format: its strides keep samples and rows apart, and it holds all of them. -/
structure RawPlane (layout : FrameLayout) (k : Nat) (p : PlaneLayout) : Prop where
  pixel : layout.format.sampleBytes k ≤ p.pixelStride
  row : ∀ x byte, layout.HasSample k 0 x → byte < layout.format.sampleBytes k →
    x * p.pixelStride + byte < p.rowStride
  sample : ∀ y x byte, layout.HasSample k y x → byte < layout.format.sampleBytes k →
    y * p.rowStride + x * p.pixelStride + byte < p.length

structure WellFormed (layout : FrameLayout) (length : Nat) : Prop where
  dims : 0 < layout.width.toNat ∧ 0 < layout.height.toNat
  upright : layout.orientation.rotationDegrees.toNat % 90 = 0 ∧
    layout.orientation.rotationDegrees.toNat < 360
  count : layout.planes.length = layout.format.planeCount
  packed : layout.format.isPacked422 → layout.width.toNat % 2 = 0 ∧
    ∀ p ∈ layout.planes, p.pixelStride = 2
  inside : ∀ p ∈ layout.planes, 0 < p.length ∧ p.offset + p.length ≤ length
  raw : layout.format.isCompressed = false → ∀ k p, layout.planes[k]? = some p →
    layout.RawPlane k p

/-! ### Rotations -/

private theorem upright_iff {degrees : UInt16} :
    degrees ∈ ([0, 90, 180, 270] : List UInt16) ↔ degrees.toNat % 90 = 0 ∧ degrees.toNat < 360 := by
  simp only [List.mem_cons, List.not_mem_nil, or_false, ← UInt16.toNat_inj]
  change degrees.toNat = 0 ∨ degrees.toNat = 90 ∨ degrees.toNat = 180 ∨ degrees.toNat = 270 ↔ _
  omega

theorem positive_iff {n : UInt32} : n ≠ 0 ↔ 0 < n.toNat := by
  rw [Nat.pos_iff_ne_zero, not_iff_not, ← UInt32.toNat_inj]
  rfl

theorem sized_iff {layout : FrameLayout} : layout.Sized ↔
    (0 < layout.width.toNat ∧ 0 < layout.height.toNat) ∧
      layout.orientation.rotationDegrees.toNat % 90 = 0 ∧
        layout.orientation.rotationDegrees.toNat < 360 := by
  rw [← upright_iff, ← positive_iff, ← positive_iff]
  exact ⟨fun sized => ⟨⟨sized.wide, sized.tall⟩, sized.upright⟩,
    fun ⟨dims, upright⟩ => ⟨dims.1, dims.2, upright⟩⟩

/-! ### Samples of a plane -/

/-- Columns or rows that a plane needs for `n` of the image. -/
def shared (n sharing : Nat) : Nat := (n + sharing - 1) / sharing

theorem lt_shared {n sharing i : Nat} (known : sharing = 1 ∨ sharing = 2) :
    i < shared n sharing ↔ i * sharing < n := by
  unfold shared
  rcases known with rfl | rfl
  · omega
  · omega

def sampleGrid (layout : FrameLayout) (k : Nat) : PlaneSpec :=
  { cols := shared layout.width.toNat (layout.format.sharing k)
    rows := shared layout.height.toNat (layout.format.sharing k)
    channels := layout.format.sampleBytes k }

theorem planeSpecs_raw {layout : FrameLayout} (raw : layout.format.isCompressed = false) :
    layout.planeSpecs =
      if layout.format.isPacked422 = true ∧ layout.width.toNat % 2 ≠ 0 then none
      else some ((List.range layout.format.planeCount).map layout.sampleGrid) := by
  have whole (n : Nat) : shared n 1 = n := by simp [shared]
  have half (n : Nat) : shared n 2 = divCeil2 n := rfl
  unfold planeSpecs
  cases format : layout.format with
  | mjpeg | h264 =>
      rw [format] at raw
      cases raw
  | yuyv | uyvy =>
      simp [PixelFormat.isPacked422, PixelFormat.planeCount, sampleGrid, format,
        PixelFormat.sharing, PixelFormat.sampleBytes, whole]
  | rgb8 | bgr8 | bgra8 | rgba8 | argb8 | gray8 | nv12 | nv21 | yuv420p =>
      simp [PixelFormat.isPacked422, PixelFormat.planeCount, sampleGrid, format,
        PixelFormat.sharing, PixelFormat.sampleBytes, whole, half, List.range_succ]

theorem sampleGrid_pos {layout : FrameLayout} {k : Nat}
    (dims : 0 < layout.width.toNat ∧ 0 < layout.height.toNat) :
    0 < (layout.sampleGrid k).cols ∧ 0 < (layout.sampleGrid k).rows := by
  have known := layout.format.sharing_cases k
  have cols := @lt_shared layout.width.toNat (layout.format.sharing k) 0 known
  have rows := @lt_shared layout.height.toNat (layout.format.sharing k) 0 known
  rw [Nat.zero_mul] at cols rows
  exact ⟨cols.mpr dims.1, rows.mpr dims.2⟩

theorem rawPlane_iff {layout : FrameLayout} {length k : Nat} {p : PlaneLayout}
    (dims : 0 < layout.width.toNat ∧ 0 < layout.height.toNat)
    (inside : p.offset + p.length ≤ length) :
    Holds length p (layout.sampleGrid k) ↔ layout.RawPlane k p := by
  have known := layout.format.sharing_cases k
  have bytes := layout.format.sampleBytes_pos k
  obtain ⟨wide, tall⟩ := @sampleGrid_pos layout k dims
  have sampled {y x : Nat} : layout.HasSample k y x ↔
      y < (layout.sampleGrid k).rows ∧ x < (layout.sampleGrid k).cols := by
    rw [sampleGrid, lt_shared known, lt_shared known]
    rfl
  constructor
  · intro holds
    have row : ((layout.sampleGrid k).cols - 1) * p.pixelStride + layout.format.sampleBytes k ≤
        p.rowStride := holds.row
    have extent : ((layout.sampleGrid k).rows - 1) * p.rowStride +
        (((layout.sampleGrid k).cols - 1) * p.pixelStride + layout.format.sampleBytes k) ≤
          p.length := holds.extent
    have earlier {x : Nat} (column : x < (layout.sampleGrid k).cols) :
        x * p.pixelStride ≤ ((layout.sampleGrid k).cols - 1) * p.pixelStride :=
      Nat.mul_le_mul_right _ (by omega)
    refine ⟨holds.stride, fun x byte has bound => ?_, fun y x byte has bound => ?_⟩
    · have before := earlier (sampled.mp has).2
      omega
    · have before := earlier (sampled.mp has).2
      have above : y * p.rowStride ≤ ((layout.sampleGrid k).rows - 1) * p.rowStride :=
        Nat.mul_le_mul_right _ (by have := (sampled.mp has).1; omega)
      omega
  · intro raw
    have row := raw.row ((layout.sampleGrid k).cols - 1) (layout.format.sampleBytes k - 1)
      (sampled.mpr ⟨tall, by omega⟩) (by omega)
    have last := raw.sample ((layout.sampleGrid k).rows - 1) ((layout.sampleGrid k).cols - 1)
      (layout.format.sampleBytes k - 1) (sampled.mpr ⟨by omega, by omega⟩) (by omega)
    exact
      { inside := inside
        stride := raw.pixel
        row := show ((layout.sampleGrid k).cols - 1) * p.pixelStride +
          layout.format.sampleBytes k ≤ p.rowStride by omega
        extent := show ((layout.sampleGrid k).rows - 1) * p.rowStride +
          (((layout.sampleGrid k).cols - 1) * p.pixelStride + layout.format.sampleBytes k) ≤
            p.length by omega }

/-! ### Both directions -/

private theorem zip_range {α β : Type} {items : List α} {f : Nat → β} {n : Nat}
    (lengths : items.length = n) {P : α → β → Prop} :
    (∀ pair ∈ items.zip ((List.range n).map f), P pair.1 pair.2) ↔
      ∀ k item, items[k]? = some item → P item (f k) := by
  subst lengths
  constructor
  · intro pairs k item found
    obtain ⟨bound, rfl⟩ := List.getElem?_eq_some_iff.mp found
    refine pairs (items[k], f k) (List.mem_iff_getElem.mpr ⟨k, by simpa using bound, by simp⟩)
  · intro items_at pair member
    obtain ⟨k, bound, rfl⟩ := List.mem_iff_getElem.mp member
    rw [List.length_zip] at bound
    have here := items_at k items[k] (List.getElem?_eq_getElem (by omega))
    simpa using here

private theorem validate_raw_iff {layout : FrameLayout} {length : Nat}
    (raw : layout.format.isCompressed = false) (small : length < usizeLimit) :
    layout.validate length = .ok () ↔ layout.WellFormed length := by
  have checked (lengths : layout.planes.length = layout.format.planeCount) :
      (∀ pair ∈ layout.planes.zip ((List.range layout.format.planeCount).map layout.sampleGrid),
        layout.checkPlane length pair.1 pair.2 = .ok ()) ↔
      ∀ k p, layout.planes[k]? = some p → 0 < p.length ∧ Holds length p (layout.sampleGrid k) ∧
        (layout.format.isPacked422 → p.pixelStride = 2) := by
    rw [zip_range lengths (P := fun p spec => layout.checkPlane length p spec = .ok ())]
    simp only [checkPlane_iff raw small]
  rw [validate_iff, planeSpecs_raw raw, sized_iff]
  constructor
  · rintro ⟨⟨dims, upright⟩, specs, found, lengths, checks⟩
    split at found
    · cases found
    · rename_i even
      obtain rfl := Option.some.inj found
      rw [List.length_map, List.length_range] at lengths
      have planes := (checked lengths).mp checks
      exact
        { dims := dims
          upright := upright
          count := lengths
          packed := fun isPacked => ⟨by simpa [isPacked] using even, fun p member => by
            obtain ⟨k, found⟩ := List.mem_iff_getElem?.mp member
            exact (planes k p found).2.2 isPacked⟩
          inside := fun p member => by
            obtain ⟨k, found⟩ := List.mem_iff_getElem?.mp member
            exact ⟨(planes k p found).1, (planes k p found).2.1.inside⟩
          raw := fun _ k p found =>
            (rawPlane_iff dims (planes k p found).2.1.inside).mp (planes k p found).2.1 }
  · intro fine
    refine ⟨⟨fine.dims, fine.upright⟩, _, if_neg fun odd => odd.2 (fine.packed odd.1).1,
      by rw [fine.count, List.length_map, List.length_range], (checked fine.count).mpr ?_⟩
    intro k p found
    have member := List.mem_iff_getElem?.mpr ⟨k, found⟩
    have inside := fine.inside p member
    exact ⟨inside.1, (rawPlane_iff fine.dims inside.2).mpr (fine.raw raw k p found),
      fun isPacked => (fine.packed isPacked).2 p member⟩

private theorem validate_compressed_iff {layout : FrameLayout} {length : Nat}
    (compressed : layout.format.isCompressed = true) (small : length < usizeLimit) :
    layout.validate length = .ok () ↔ layout.WellFormed length := by
  have specs : layout.planeSpecs = some [⟨1, 1, 1⟩] ∧ layout.format.planeCount = 1 ∧
      layout.format.isPacked422 = false := by
    unfold planeSpecs
    cases format : layout.format with
    | mjpeg | h264 => exact ⟨rfl, rfl, rfl⟩
    | _ =>
        rw [format] at compressed
        cases compressed
  have checked (p : PlaneLayout) (spec : PlaneSpec) : layout.checkPlane length p spec = .ok () ↔
      0 < p.length ∧ p.offset + p.length ≤ length := by
    constructor
    · exact fun accepted => ⟨checkPlane_pos accepted, (checkPlane_inside accepted).2⟩
    · rintro ⟨positive, inside⟩
      unfold checkPlane
      rw [if_neg, if_pos compressed]
      rw [checkedAdd_eq_some.mpr ⟨by omega, rfl⟩, Option.all_some, decide_eq_true_eq]
      omega
  rw [validate_iff, specs.1, sized_iff]
  simp only [checked]
  constructor
  · rintro ⟨⟨dims, upright⟩, _, found, lengths, checks⟩
    obtain rfl := Option.some.inj found
    obtain ⟨p, one⟩ := List.length_eq_one_iff.mp lengths
    exact
      { dims := dims
        upright := upright
        count := lengths.trans specs.2.1.symm
        packed := fun isPacked => absurd (isPacked.symm.trans specs.2.2) (by decide)
        inside := by
          rw [one] at checks ⊢
          simpa using checks
        raw := fun raw => absurd (raw.symm.trans compressed) (by decide) }
  · intro fine
    refine ⟨⟨fine.dims, fine.upright⟩, _, rfl, fine.count.trans specs.2.1, fun pair member => ?_⟩
    exact fine.inside pair.1 (List.of_mem_zip member).1

theorem planeSpecs_pos {layout : FrameLayout} {specs : List PlaneSpec} (sized : layout.Sized)
    (found : layout.planeSpecs = some specs) : ∀ spec ∈ specs, 1 ≤ spec.cols ∧ 1 ≤ spec.rows := by
  cases raw : layout.format.isCompressed with
  | false =>
      rw [planeSpecs_raw raw] at found
      split at found
      · cases found
      · obtain rfl := Option.some.inj found
        intro spec member
        obtain ⟨k, -, rfl⟩ := List.mem_map.mp member
        exact sampleGrid_pos (sized_iff.mp sized).1
  | true =>
      have table : layout.planeSpecs = some [⟨1, 1, 1⟩] := by
        unfold planeSpecs
        cases format : layout.format with
        | mjpeg | h264 => rfl
        | _ =>
            rw [format] at raw
            cases raw
      obtain rfl := Option.some.inj (table.symm.trans found)
      simp

/-- The validator accepts a layout exactly when it is well formed, and its arithmetic does not
wrap. -/
theorem validate_exact (layout : FrameLayout) {length : Nat} (small : length < usizeLimit) :
    (layout.validate length = .ok () ↔ layout.WellFormed length) ∧
      (layout.Sized → ∀ specs, layout.planeSpecs = some specs →
        ∀ spec ∈ specs, 1 ≤ spec.cols ∧ 1 ≤ spec.rows) := by
  refine ⟨?_, fun sized specs found => planeSpecs_pos sized found⟩
  cases raw : layout.format.isCompressed with
  | false => exact validate_raw_iff raw small
  | true => exact validate_compressed_iff raw small

theorem validate_exact_rgb :
    ((FrameLayout.rgb 2 2).validate 12 = .ok () ↔ (FrameLayout.rgb 2 2).WellFormed 12) ∧
      ((FrameLayout.rgb 2 2).Sized → ∀ specs, (FrameLayout.rgb 2 2).planeSpecs = some specs →
        ∀ spec ∈ specs, 1 ≤ spec.cols ∧ 1 ≤ spec.rows) :=
  validate_exact (FrameLayout.rgb 2 2) (by decide)

end FrameLayout

end CameraRs

/-
How many bytes a raw frame takes.

`frame_size` and `FrameLayout::validate` count on their own. A plane that is accepted holds its
samples, however its rows are padded, so planes that do not share bytes are no smaller than the
size of the configuration, and the layout without padding is exactly that large.
-/

import CameraRs.Config

namespace CameraRs

/-- The pixel formats that hold a raw video format: RGB has three bytes in either order. -/
inductive VideoFormat.Stores : VideoFormat → PixelFormat → Prop
  | yuyv : Stores .yuyv .yuyv
  | uyvy : Stores .uyvy .uyvy
  | nv12 : Stores .nv12 .nv12
  | rgb : Stores .rgb .rgb8
  | bgr : Stores .rgb .bgr8
  | gray : Stores .gray .gray8

def PlaneLayout.Apart (p q : PlaneLayout) : Prop :=
  p.offset + p.length ≤ q.offset ∨ q.offset + q.length ≤ p.offset

namespace CameraConfig

/-- Rows without padding; NV12 has its chroma behind the luma. -/
def tightLayout (config : CameraConfig) (format : PixelFormat) : FrameLayout :=
  let w := config.width.toNat
  let h := config.height.toNat
  match config.format.bytesPerPixel with
  | some bytes => .packed config.width config.height format (w * bytes) (w * h * bytes)
  | none =>
      { FrameLayout.packed config.width config.height format w (w * h) with
        planes := [⟨0, w * h, w, 1⟩, ⟨w * h, w * h / 2, w, 2⟩] }

/-- A layout of the format and size of the configuration. -/
structure Describes (config : CameraConfig) (layout : FrameLayout) : Prop where
  format : config.format.Stores layout.format
  width : layout.width = config.width
  height : layout.height = config.height

/-- No buffer is smaller than `size`, and the tight layout fits one of that size. -/
structure Minimum (config : CameraConfig) (size : Nat) : Prop where
  tight : ∀ format, config.format.Stores format →
    config.Describes (config.tightLayout format) ∧
      (config.tightLayout format).planes.Pairwise PlaneLayout.Apart ∧
      (config.tightLayout format).validate size = .ok ()
  least : ∀ (layout : FrameLayout) (length : Nat), config.Describes layout →
    layout.planes.Pairwise PlaneLayout.Apart → layout.validate length = .ok () → size ≤ length

end CameraConfig

namespace FrameLayout

variable {layout : FrameLayout} {length : Nat} {p q : PlaneLayout} {spec first second : PlaneSpec}

theorem Holds.area_le (holds : Holds length p spec) (wide : 0 < spec.cols) (tall : 0 < spec.rows) :
    spec.rows * (spec.cols * spec.channels) ≤ p.length := by
  obtain ⟨cols, wide⟩ := Nat.exists_eq_succ_of_ne_zero wide.ne'
  obtain ⟨rows, tall⟩ := Nat.exists_eq_succ_of_ne_zero tall.ne'
  have row : spec.cols * spec.channels ≤ rowBytes p spec := by
    have samples : cols * spec.channels ≤ cols * p.pixelStride :=
      Nat.mul_le_mul_left cols holds.stride
    rw [rowBytes, wide, Nat.succ_sub_one, Nat.succ_mul]
    omega
  calc spec.rows * (spec.cols * spec.channels) ≤ spec.rows * rowBytes p spec :=
        Nat.mul_le_mul_left _ row
    _ = rows * rowBytes p spec + rowBytes p spec := by rw [tall, Nat.succ_mul]
    _ ≤ rows * p.rowStride + rowBytes p spec :=
        Nat.add_le_add_right (Nat.mul_le_mul_left rows holds.row) _
    _ ≤ p.length := by
        have extent := holds.extent
        rwa [tall, Nat.succ_sub_one] at extent

private theorem validate_one_area (raw : layout.format.isCompressed = false)
    (specs : layout.planeSpecs = some [spec]) (wide : 0 < spec.cols) (tall : 0 < spec.rows)
    (accepted : layout.validate length = .ok ()) :
    spec.rows * (spec.cols * spec.channels) ≤ length := by
  obtain ⟨_, _, found, same, lengths, checks⟩ := validate_ok accepted
  obtain rfl := Option.some.inj (specs.symm.trans same)
  obtain ⟨p, planes⟩ := List.length_eq_one_iff.mp lengths
  have holds := (checkPlane_ok raw (checks p spec (by simp [planes]))).1
  have inside := holds.inside
  exact (holds.area_le wide tall).trans (by omega)

private theorem validate_two_area (raw : layout.format.isCompressed = false)
    (specs : layout.planeSpecs = some [first, second])
    (wide : 0 < first.cols ∧ 0 < second.cols) (tall : 0 < first.rows ∧ 0 < second.rows)
    (apart : layout.planes.Pairwise PlaneLayout.Apart)
    (accepted : layout.validate length = .ok ()) :
    first.rows * (first.cols * first.channels) + second.rows * (second.cols * second.channels) ≤
      length := by
  obtain ⟨_, _, found, same, lengths, checks⟩ := validate_ok accepted
  obtain rfl := Option.some.inj (specs.symm.trans same)
  obtain ⟨p, q, planes⟩ := List.length_eq_two.mp lengths
  have luma := (checkPlane_ok raw (checks p first (by simp [planes]))).1
  have chroma := (checkPlane_ok raw (checks q second (by simp [planes]))).1
  have between : p.Apart q := by
    rw [planes] at apart
    simpa using apart
  have lumaArea := luma.area_le wide.1 tall.1
  have chromaArea := chroma.area_le wide.2 tall.2
  have lumaInside := luma.inside
  have chromaInside := chroma.inside
  unfold PlaneLayout.Apart at between
  omega

end FrameLayout

namespace CameraConfig

open FrameLayout

variable {config : CameraConfig} {layout : FrameLayout} {bytes size length : Nat}

theorem stores_raw {video : VideoFormat} {format : PixelFormat} (stores : video.Stores format) :
    format.isCompressed = false := by
  cases stores <;> rfl

private theorem frameSize_found (accepted : config.validate = .ok ())
    (raw : config.format.isCompressed = false) : ∃ size, config.frameSize = some size := by
  unfold validate at accepted
  split at accepted
  · contradiction
  · split at accepted
    · contradiction
    · split at accepted
      · contradiction
      · next sized => exact Option.ne_none_iff_exists'.mp fun none_there => sized ⟨raw, none_there⟩

theorem pixels_some {width height : UInt32} {n : Nat}
    (counted : checkedPixelCount width height = some n) :
    n = width.toNat * height.toNat ∧ n < usizeLimit := by
  unfold checkedPixelCount at counted
  split at counted
  · contradiction
  · obtain ⟨small, rfl⟩ := checkedMul_eq_some.mp counted
    exact ⟨rfl, small⟩

/-! ### Formats of one plane -/

section Packed

variable (pixel : config.format.bytesPerPixel = some bytes)

include pixel

theorem frameSize_packed (found : config.frameSize = some size) :
    size = config.width.toNat * config.height.toNat * bytes ∧ size < usizeLimit := by
  obtain ⟨pixels, counted, sized⟩ := Option.bind_eq_some_iff.mp found
  obtain ⟨rfl, small⟩ := pixels_some counted
  cases format : config.format with
  | yuyv | uyvy =>
      simp only [format] at sized
      rw [format] at pixel
      obtain rfl := Option.some.inj pixel
      split at sized
      · contradiction
      · obtain ⟨fits, rfl⟩ := checkedMul_eq_some.mp sized
        exact ⟨rfl, fits⟩
  | rgb =>
      simp only [format] at sized
      rw [format] at pixel
      obtain rfl := Option.some.inj pixel
      obtain ⟨fits, rfl⟩ := checkedMul_eq_some.mp sized
      exact ⟨rfl, fits⟩
  | gray =>
      simp only [format] at sized
      rw [format] at pixel
      obtain rfl := Option.some.inj pixel
      obtain rfl := Option.some.inj sized
      exact ⟨(Nat.mul_one _).symm, small⟩
  | mjpeg | nv12 | h264 =>
      rw [format] at pixel
      contradiction

theorem planeSpecs_packed (describes : config.Describes layout)
    (even : config.format = .yuyv ∨ config.format = .uyvy → config.width.toNat % 2 = 0) :
    layout.planeSpecs = some [⟨config.width.toNat, config.height.toNat, bytes⟩] := by
  have stores := describes.format
  unfold planeSpecs
  rw [describes.width, describes.height]
  cases format : config.format with
  | yuyv | uyvy =>
      rw [format] at pixel stores
      obtain rfl := Option.some.inj pixel
      have wide := even (by simp [format])
      cases stored : layout.format <;> rw [stored] at stores <;> cases stores
      simp [wide]
  | rgb | gray =>
      rw [format] at pixel stores
      obtain rfl := Option.some.inj pixel
      cases stored : layout.format <;> rw [stored] at stores <;> cases stores
  | mjpeg | nv12 | h264 =>
      rw [format] at pixel
      contradiction

private theorem bytes_pos : 0 < bytes := by
  cases format : config.format <;> rw [format] at pixel <;> cases pixel <;> decide

private theorem packed_planes {format : PixelFormat} (stores : config.format.Stores format)
    (stride length : Nat) :
    (packed config.width config.height format stride length).planes =
      [⟨0, length, stride, bytes⟩] := by
  cases video : config.format with
  | yuyv | uyvy | rgb | gray =>
      rw [video] at pixel stores
      obtain rfl := Option.some.inj pixel
      cases stores <;> rfl
  | mjpeg | nv12 | h264 =>
      rw [video] at pixel
      contradiction

private theorem packed_two {format : PixelFormat} (stores : config.format.Stores format)
    (isPacked : format.isPacked422 = true) : bytes = 2 := by
  cases video : config.format with
  | yuyv | uyvy =>
      rw [video] at pixel
      exact (Option.some.inj pixel).symm
  | rgb | gray =>
      rw [video] at stores
      cases stores <;> contradiction
  | mjpeg | nv12 | h264 =>
      rw [video] at pixel
      contradiction

theorem minimum_packed (dims : config.width ≠ 0 ∧ config.height ≠ 0)
    (even : config.format = .yuyv ∨ config.format = .uyvy → config.width.toNat % 2 = 0)
    (found : config.frameSize = some size) : config.Minimum size where
  tight format stores := by
    obtain ⟨rfl, small⟩ := frameSize_packed pixel found
    have tall : 0 < config.height.toNat := toNat_pos dims.2
    have some_bytes := bytes_pos pixel
    have made : config.tightLayout format = .packed config.width config.height format
        (config.width.toNat * bytes) (config.width.toNat * config.height.toNat * bytes) := by
      rw [tightLayout, pixel]
    have planes := packed_planes pixel stores (config.width.toNat * bytes)
      (config.width.toNat * config.height.toNat * bytes)
    have describes : config.Describes (config.tightLayout format) := by
      rw [made]
      exact ⟨stores, rfl, rfl⟩
    have rows : (config.height.toNat - 1) * (config.width.toNat * bytes) +
        config.width.toNat * bytes = config.width.toNat * config.height.toNat * bytes := by
      rw [← Nat.succ_mul, Nat.mul_right_comm, Nat.mul_comm]
      congr 1
      omega
    refine ⟨describes, ?_, ?_⟩
    · rw [made, planes]
      exact List.pairwise_singleton _ _
    · have upright : (0 : UInt16) ∈ ([0, 90, 180, 270] : List UInt16) := by decide
      have specs := planeSpecs_packed pixel describes even
      rw [made] at specs ⊢
      rw [validate_packed ⟨dims.1, dims.2, upright⟩ (stores_raw stores) small some_bytes specs
        planes (packed_two pixel stores)]
      exact ⟨Nat.le_refl _, Nat.le_of_eq rows⟩
  least layout length describes apart accepted := by
    obtain ⟨rfl, small⟩ := frameSize_packed pixel found
    have area := validate_one_area (stores_raw describes.format)
      (planeSpecs_packed pixel describes even) (toNat_pos dims.1) (toNat_pos dims.2)
      accepted
    calc config.width.toNat * config.height.toNat * bytes
        = config.height.toNat * (config.width.toNat * bytes) := by
          rw [Nat.mul_comm config.width.toNat, Nat.mul_assoc]
      _ ≤ length := area

end Packed

/-! ### NV12 -/

theorem frameSize_planar (planar : config.format = .nv12) (found : config.frameSize = some size) :
    size = config.width.toNat * config.height.toNat +
      config.width.toNat * config.height.toNat / 2 ∧ size < usizeLimit := by
  obtain ⟨pixels, counted, sized⟩ := Option.bind_eq_some_iff.mp found
  obtain ⟨rfl, _⟩ := pixels_some counted
  simp only [planar] at sized
  split at sized
  · contradiction
  · obtain ⟨fits, rfl⟩ := checkedAdd_eq_some.mp sized
    exact ⟨rfl, fits⟩

theorem planeSpecs_planar (planar : config.format = .nv12) (describes : config.Describes layout) :
    layout.planeSpecs = some [⟨config.width.toNat, config.height.toNat, 1⟩,
      ⟨divCeil2 config.width.toNat, divCeil2 config.height.toNat, 2⟩] := by
  have stores := describes.format
  rw [planar] at stores
  unfold planeSpecs
  rw [describes.width, describes.height]
  cases stored : layout.format <;> rw [stored] at stores <;> cases stores

theorem chroma_area {w h : Nat} (wide : w % 2 = 0) (tall : h % 2 = 0) :
    divCeil2 h * (divCeil2 w * 2) = w * h / 2 := by
  obtain ⟨a, rfl⟩ := Nat.dvd_of_mod_eq_zero wide
  obtain ⟨b, rfl⟩ := Nat.dvd_of_mod_eq_zero tall
  have half : divCeil2 (2 * a) = a := by
    unfold divCeil2
    omega
  have half' : divCeil2 (2 * b) = b := by
    unfold divCeil2
    omega
  rw [half, half', Nat.mul_assoc 2 a, Nat.mul_div_cancel_left _ Nat.two_pos, Nat.mul_left_comm,
    Nat.mul_comm b 2]

private theorem minimum_planar (dims : config.width ≠ 0 ∧ config.height ≠ 0)
    (planar : config.format = .nv12)
    (even : config.width.toNat % 2 = 0 ∧ config.height.toNat % 2 = 0)
    (found : config.frameSize = some size) : config.Minimum size where
  tight format stores := by
    obtain ⟨rfl, small⟩ := frameSize_planar planar found
    have wide : 0 < config.width.toNat := toNat_pos dims.1
    have tall : 0 < config.height.toNat := toNat_pos dims.2
    have made : config.tightLayout format =
        { packed config.width config.height format config.width.toNat
            (config.width.toNat * config.height.toNat) with
          planes := [⟨0, config.width.toNat * config.height.toNat, config.width.toNat, 1⟩,
            ⟨config.width.toNat * config.height.toNat,
              config.width.toNat * config.height.toNat / 2, config.width.toNat, 2⟩] } := by
      rw [tightLayout, planar]
      rfl
    have describes : config.Describes (config.tightLayout format) := by
      rw [made]
      exact ⟨stores, rfl, rfl⟩
    have unpacked : format.isPacked422 = false := by
      rw [planar] at stores
      cases stores
      rfl
    have lumaRows : (config.height.toNat - 1) * config.width.toNat + config.width.toNat =
        config.width.toNat * config.height.toNat := by
      rw [← Nat.succ_mul, Nat.mul_comm]
      congr 1
      omega
    have pairs : divCeil2 config.width.toNat * 2 = config.width.toNat := by
      unfold divCeil2
      omega
    have chromaRows : (divCeil2 config.height.toNat - 1) * config.width.toNat +
        config.width.toNat = config.width.toNat * config.height.toNat / 2 := by
      have some_rows := divCeil2_pos tall
      rw [← chroma_area even.1 even.2, pairs, ← Nat.succ_mul]
      congr 1
      omega
    refine ⟨describes, ?_, ?_⟩
    · rw [made]
      exact List.pairwise_pair.mpr (.inl (Nat.le_of_eq (Nat.zero_add _)))
    · have upright : (0 : UInt16) ∈ ([0, 90, 180, 270] : List UInt16) := by decide
      have specs := planeSpecs_planar planar describes
      rw [made] at specs ⊢
      rw [validate_semiplanar ⟨dims.1, dims.2, upright⟩ (stores_raw stores) unpacked small specs
        rfl]
      exact ⟨Nat.le_of_eq pairs, Nat.le_of_eq lumaRows,
        Nat.le_of_eq ((congrArg _ pairs).trans chromaRows)⟩
  least layout length describes apart accepted := by
    obtain ⟨rfl, small⟩ := frameSize_planar planar found
    have wide : 0 < config.width.toNat := toNat_pos dims.1
    have tall : 0 < config.height.toNat := toNat_pos dims.2
    have area := validate_two_area (stores_raw describes.format)
      (planeSpecs_planar planar describes) ⟨wide, divCeil2_pos wide⟩ ⟨tall, divCeil2_pos tall⟩
      apart accepted
    dsimp only at area
    rw [chroma_area even.1 even.2, Nat.mul_one, Nat.mul_comm config.height.toNat] at area
    exact area

/-- The frame size of a raw configuration that `validate` accepts is the smallest buffer that
its layouts fit. -/
theorem frameSize_minimum (accepted : config.validate = .ok ())
    (raw : config.format.isCompressed = false) :
    ∃ size, config.frameSize = some size ∧ config.Minimum size := by
  obtain ⟨size, found⟩ := frameSize_found accepted raw
  obtain ⟨wide, tall, packed, planar⟩ := validate_ok accepted raw
  refine ⟨size, found, ?_⟩
  cases format : config.format with
  | nv12 => exact minimum_planar ⟨wide, tall⟩ format (planar format) found
  | yuyv | uyvy =>
      exact minimum_packed (by rw [format]; rfl) ⟨wide, tall⟩ packed found
  | rgb | gray => exact minimum_packed (by rw [format]; rfl) ⟨wide, tall⟩ packed found
  | mjpeg | h264 =>
      rw [format] at raw
      contradiction

theorem frameSize_minimum_nv12 :
    ∃ size, (CameraConfig.mk .nv12 4 2 30 1).frameSize = some size ∧
      (CameraConfig.mk .nv12 4 2 30 1).Minimum size :=
  frameSize_minimum rfl rfl

end CameraConfig

end CameraRs

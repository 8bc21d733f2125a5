/-
The two-dimensional surfaces of Media Foundation: how many bytes of the locked surface are
read, and which of them are enough for the native frame.
-/

import CameraRs.MediaFoundation.Delivery

namespace CameraRs.MediaFoundation

inductive Packed : VideoFormat → PixelFormat → Nat → Prop
  | yuyv : Packed .yuyv .yuyv 2
  | uyvy : Packed .uyvy .uyvy 2
  | rgb : Packed .rgb .bgr8 3
  | gray : Packed .gray .gray8 1

def saturatingMul (a b : Nat) : Nat := min (a * b) (usizeLimit - 1)

/-- Rows of the surface, and the bytes of its last one. -/
def surfaceExtent (config : CameraConfig) : CameraResult (Nat × Nat) :=
  let width := config.width.toNat
  let height := config.height.toNat
  match config.format with
  | .nv12 => .ok (height + divCeil2 height, width)
  | .yuyv | .uyvy => .ok (height, saturatingMul width 2)
  | .rgb => .ok (height, saturatingMul width 3)
  | .gray => .ok (height, width)
  | _ => .error (.unsupportedFormat "MF 2D buffer format")

def twoDimensionalLength (config : CameraConfig) (pitch : Nat) : CameraResult Nat := do
  let (rows, finalRowBytes) ← surfaceExtent config
  if rows = 0 ∨ finalRowBytes = 0 ∨ pitch < finalRowBytes then
    .error (invalid "Invalid MF 2D pitch")
  else
    match (checkedMul (rows - 1) pitch).bind (checkedAdd · finalRowBytes) with
    | some bytes => .ok bytes
    | none => .error (invalid "MF 2D buffer size overflow")

/-! ### The native layout of a surface -/

def surfacePlane (config : CameraConfig) (format : PixelFormat) (pitch length : Nat)
    (bottomUp : Bool) (color : ColorInfo) : FrameLayout :=
  { FrameLayout.packed config.width config.height format pitch length with
    bottomUp := bottomUp
    color := color }

/-- The layout that `process_sample` makes of `length` bytes. -/
def surfaceLayout (config : CameraConfig) (pitch length : Nat) (bottomUp : Bool)
    (color : ColorInfo) : CameraResult FrameLayout := do
  let format ← pixelFormat config.format
  let layout := surfacePlane config format pitch length bottomUp color
  if format = .nv12 then
    match (checkedMul pitch config.height.toNat).filter fun n => decide (n < length) with
    | none => .error (invalid "Truncated MF NV12")
    | some yLen =>
        .ok { layout with
          planes := (layout.planes.modify 0 fun plane => { plane with length := yLen }) ++
            [{ offset := yLen
               length := length - yLen
               rowStride := pitch
               pixelStride := 2 }] }
  else .ok layout

/-- The signed strides of a buffer have the magnitude of a pitch. -/
theorem nativeLayout_surface (data : List UInt8) (config : CameraConfig) (stride : Int32)
    (color : ColorInfo) : nativeLayout data config stride color =
      surfaceLayout config (pitch stride) data.length (decide (stride.toInt < 0)) color := rfl

variable {video : VideoFormat} {config : CameraConfig} {pixels : PixelFormat}
  {bytes pitch length : Nat} {bottomUp : Bool} {color : ColorInfo}

theorem surfacePlane_accepts (packed : Packed video pixels bytes)
    (sized : config.width ≠ 0 ∧ config.height ≠ 0) (small : length < usizeLimit) :
    (surfacePlane config pixels pitch length bottomUp color).validate length = .ok () ↔
      (pixels.isPacked422 → config.width.toNat % 2 = 0) ∧ config.width.toNat * bytes ≤ pitch ∧
        (config.height.toNat - 1) * pitch + config.width.toNat * bytes ≤ length := by
  have upright : (0 : UInt16) ∈ ([0, 90, 180, 270] : List UInt16) := by decide
  by_cases even : pixels.isPacked422 → config.width.toNat % 2 = 0
  · have specs : (surfacePlane config pixels pitch length bottomUp color).planeSpecs =
        some [⟨config.width.toNat, config.height.toNat, bytes⟩] := by
      cases packed with
      | yuyv | uyvy =>
          simp [surfacePlane, FrameLayout.packed, FrameLayout.planeSpecs, even rfl]
      | rgb | gray => rfl
    have checked := @FrameLayout.validate_packed
      (surfacePlane config pixels pitch length bottomUp color) length pitch bytes
      ⟨sized.1, sized.2, upright⟩ (by cases packed <;> rfl) small (by cases packed <;> decide)
      specs (by cases packed <;> rfl)
      (by cases packed <;> simp [surfacePlane, FrameLayout.packed, PixelFormat.isPacked422])
    rw [checked]
    exact (and_iff_right even).symm
  · constructor
    · intro accepted
      obtain ⟨_, _, specs, found, _⟩ := FrameLayout.validate_ok accepted
      refine absurd (fun isPacked => ?_) even
      cases packed with
      | yuyv | uyvy =>
          by_contra odd
          simp [surfacePlane, FrameLayout.packed, FrameLayout.planeSpecs, odd] at found
      | rgb | gray => contradiction
    · exact fun fine => absurd fine.1 even

/-- The luma rows, and the chroma rows behind them. -/
def surfaceNv12 (config : CameraConfig) (pitch length : Nat) (bottomUp : Bool)
    (color : ColorInfo) : FrameLayout :=
  { surfacePlane config .nv12 pitch length bottomUp color with
    planes :=
      [⟨0, pitch * config.height.toNat, pitch, 1⟩,
        ⟨pitch * config.height.toNat, length - pitch * config.height.toNat, pitch, 2⟩] }

theorem surfaceNv12_accepts (sized : config.width ≠ 0 ∧ config.height ≠ 0)
    (small : length < usizeLimit) (room : pitch * config.height.toNat < length) :
    (surfaceNv12 config pitch length bottomUp color).validate length = .ok () ↔
      divCeil2 config.width.toNat * 2 ≤ pitch ∧
        pitch * config.height.toNat + ((divCeil2 config.height.toNat - 1) * pitch +
          divCeil2 config.width.toNat * 2) ≤ length := by
  have tall := toNat_pos sized.2
  have upright : (0 : UInt16) ∈ ([0, 90, 180, 270] : List UInt16) := by decide
  have rows : (config.height.toNat - 1) * pitch + pitch = pitch * config.height.toNat := by
    rw [← Nat.succ_mul, Nat.mul_comm]
    congr 1
    omega
  have half : config.width.toNat ≤ divCeil2 config.width.toNat * 2 := by
    unfold divCeil2
    omega
  have whole : pitch * config.height.toNat + (length - pitch * config.height.toNat) = length :=
    Nat.add_sub_cancel' (Nat.le_of_lt room)
  have checked := @FrameLayout.validate_semiplanar
    (surfaceNv12 config pitch length bottomUp color) (pitch * config.height.toNat)
    (length - pitch * config.height.toNat) pitch ⟨sized.1, sized.2, upright⟩ rfl rfl
    (whole.trans_lt small) rfl rfl
  rw [whole] at checked
  rw [checked]
  change _ ∧ (config.height.toNat - 1) * pitch + config.width.toNat ≤ _ ∧
    (divCeil2 config.height.toNat - 1) * pitch + divCeil2 config.width.toNat * 2 ≤ _ ↔ _
  constructor
  · rintro ⟨row, _, chroma⟩
    exact ⟨row, by omega⟩
  · rintro ⟨row, extent⟩
    exact ⟨row, by omega, by omega⟩

/-! ### Buffers that pass -/

/-- The native frame made of `length` bytes is accepted. -/
def Passes (config : CameraConfig) (pitch length : Nat) (bottomUp : Bool) (color : ColorInfo) :
    Prop :=
  ∃ layout, surfaceLayout config pitch length bottomUp color = .ok layout ∧
    layout.validate length = .ok ()

def rowBytes (config : CameraConfig) : Nat :=
  config.width.toNat * config.format.bytesPerPixel.getD 1

def surfaceRows (config : CameraConfig) : Nat :=
  match config.format with
  | .nv12 => config.height.toNat + divCeil2 config.height.toNat
  | _ => config.height.toNat

/-- All rows but the last with their padding. -/
def surfaceBytes (config : CameraConfig) (pitch : Nat) : Nat :=
  (surfaceRows config - 1) * pitch + rowBytes config

/-- The length that is computed is enough for the native frame and no shorter one is; there is
none only for a pitch shorter than a row or a surface larger than memory. -/
structure Sufficient (config : CameraConfig) (pitch : Nat) : Prop where
  passes : ∀ length, twoDimensionalLength config pitch = .ok length → ∀ bottomUp color,
    Passes config pitch length bottomUp color
  least : ∀ length, twoDimensionalLength config pitch = .ok length → ∀ bottomUp color shorter,
    shorter < length → ¬Passes config pitch shorter bottomUp color
  refused : ∀ error, twoDimensionalLength config pitch = .error error →
    pitch < rowBytes config ∨ usizeLimit ≤ surfaceBytes config pitch

/-- An NV12 surface of odd width for which a length is computed. Its chroma rows end one byte
behind the luma rows. -/
structure OddChroma (config : CameraConfig) (pitch : Nat) : Prop where
  planar : config.format = .nv12
  odd : config.width.toNat % 2 = 1
  row : config.width.toNat ≤ pitch
  fits : surfaceBytes config pitch < usizeLimit

private theorem saturatingMul_small {n : UInt32} {k : Nat} (few : k ≤ 3) :
    saturatingMul n.toNat k = n.toNat * k := by
  have below : n.toNat < 2 ^ 32 := n.toNat_lt
  have product : n.toNat * k ≤ n.toNat * 3 := Nat.mul_le_mul_left _ few
  unfold saturatingMul usizeLimit
  omega

private theorem surfaceExtent_raw (raw : config.format.isCompressed = false) :
    surfaceExtent config = .ok (surfaceRows config, rowBytes config) := by
  unfold surfaceExtent surfaceRows rowBytes
  cases format : config.format with
  | nv12 | gray => simp [VideoFormat.bytesPerPixel]
  | yuyv | uyvy | rgb => simp [VideoFormat.bytesPerPixel, saturatingMul_small]
  | mjpeg | h264 =>
      rw [format] at raw
      contradiction

private theorem rowBytes_pos (raw : config.format.isCompressed = false) (wide : config.width ≠ 0) :
    0 < rowBytes config := by
  refine Nat.mul_pos (toNat_pos wide) ?_
  cases format : config.format with
  | mjpeg | h264 =>
      rw [format] at raw
      contradiction
  | _ => decide

private theorem surfaceRows_pos (tall : config.height ≠ 0) : 0 < surfaceRows config := by
  have positive := toNat_pos tall
  unfold surfaceRows
  split
  · omega
  · exact positive

private theorem twoDimensionalLength_eq (raw : config.format.isCompressed = false)
    (sized : config.width ≠ 0 ∧ config.height ≠ 0) :
    twoDimensionalLength config pitch =
      if pitch < rowBytes config then .error (invalid "Invalid MF 2D pitch")
      else if surfaceBytes config pitch < usizeLimit then .ok (surfaceBytes config pitch)
      else .error (invalid "MF 2D buffer size overflow") := by
  have row_pos := rowBytes_pos raw sized.1
  have rows_pos := @surfaceRows_pos config sized.2
  unfold twoDimensionalLength
  rw [surfaceExtent_raw raw]
  change (if surfaceRows config = 0 ∨ rowBytes config = 0 ∨ pitch < rowBytes config then _
    else _) = _
  by_cases short : pitch < rowBytes config
  · rw [if_pos (.inr (.inr short)), if_pos short]
  · rw [if_neg (by omega), if_neg short]
    by_cases fits : surfaceBytes config pitch < usizeLimit
    · have product : (surfaceRows config - 1) * pitch < usizeLimit :=
        Nat.lt_of_le_of_lt (Nat.le_add_right _ _) fits
      rw [if_pos fits, checkedMul_eq_some.mpr ⟨product, rfl⟩, Option.bind_some,
        checkedAdd_eq_some.mpr ⟨fits, rfl⟩]
      rfl
    · have none_left : (checkedMul (surfaceRows config - 1) pitch).bind
          (checkedAdd · (rowBytes config)) = none := by
        rw [Option.eq_none_iff_forall_not_mem]
        intro bytes made
        obtain ⟨product, multiplied, added⟩ := Option.bind_eq_some_iff.mp made
        obtain ⟨_, rfl⟩ := checkedMul_eq_some.mp multiplied
        exact fits (checkedAdd_eq_some.mp added).1
      rw [if_neg fits, none_left]

/-- What the chroma rows of an odd width have more than the luma rows. -/
def chromaPad (config : CameraConfig) : Nat :=
  if config.format = .nv12 then config.width.toNat % 2 else 0

private theorem packed_found (raw : config.format.isCompressed = false)
    (unplanar : config.format ≠ .nv12) :
    ∃ pixels bytes, Packed config.format pixels bytes ∧
      config.format.bytesPerPixel = some bytes := by
  cases format : config.format with
  | yuyv => exact ⟨_, _, .yuyv, rfl⟩
  | uyvy => exact ⟨_, _, .uyvy, rfl⟩
  | rgb => exact ⟨_, _, .rgb, rfl⟩
  | gray => exact ⟨_, _, .gray, rfl⟩
  | nv12 => exact absurd format unplanar
  | mjpeg | h264 =>
      rw [format] at raw
      contradiction

private theorem passes_packed (packed : Packed config.format pixels bytes)
    (sized : config.width ≠ 0 ∧ config.height ≠ 0)
    (even : config.format = .yuyv ∨ config.format = .uyvy → config.width.toNat % 2 = 0)
    (small : length < usizeLimit) :
    Passes config pitch length bottomUp color ↔
      config.width.toNat * bytes ≤ pitch ∧
        (config.height.toNat - 1) * pitch + config.width.toNat * bytes ≤ length := by
  have made : surfaceLayout config pitch length bottomUp color =
      .ok (surfacePlane config pixels pitch length bottomUp color) := by
    unfold surfaceLayout
    cases format : config.format <;> rw [format] at packed <;> cases packed <;> rfl
  have wide : pixels.isPacked422 = true → config.width.toNat % 2 = 0 := by
    intro isPacked
    cases format : config.format with
    | yuyv | uyvy => exact even (by simp [format])
    | _ =>
        rw [format] at packed
        cases packed <;> contradiction
  have accepts := @surfacePlane_accepts _ config pixels bytes pitch length bottomUp color packed
    sized small
  rw [and_iff_right wide] at accepts
  rw [← accepts]
  constructor
  · rintro ⟨layout, built, accepted⟩
    obtain rfl := Except.ok.inj (made.symm.trans built)
    exact accepted
  · intro accepted
    exact ⟨_, made, accepted⟩

private theorem passes_nv12 (planar : config.format = .nv12)
    (sized : config.width ≠ 0 ∧ config.height ≠ 0) (small : length < usizeLimit) :
    Passes config pitch length bottomUp color ↔
      divCeil2 config.width.toNat * 2 ≤ pitch ∧
        pitch * config.height.toNat + ((divCeil2 config.height.toNat - 1) * pitch +
          divCeil2 config.width.toNat * 2) ≤ length := by
  have pairs := divCeil2_pos (toNat_pos sized.1)
  by_cases room : pitch * config.height.toNat < length
  · have cut : (checkedMul pitch config.height.toNat).filter (fun n => decide (n < length)) =
        some (pitch * config.height.toNat) := by
      rw [checkedMul_eq_some.mpr ⟨Nat.lt_trans room small, rfl⟩, Option.filter_some,
        if_pos (decide_eq_true room)]
    have made : surfaceLayout config pitch length bottomUp color =
        .ok (surfaceNv12 config pitch length bottomUp color) := by
      unfold surfaceLayout
      rw [planar]
      simp only [pixelFormat, bind, Except.bind, if_true, cut]
      rfl
    rw [← @surfaceNv12_accepts config pitch length bottomUp color sized small room]
    constructor
    · rintro ⟨layout, built, accepted⟩
      obtain rfl := Except.ok.inj (made.symm.trans built)
      exact accepted
    · intro accepted
      exact ⟨_, made, accepted⟩
  · have cut : (checkedMul pitch config.height.toNat).filter (fun n => decide (n < length)) =
        none := by
      unfold checkedMul
      split
      · rw [Option.filter_some, if_neg (by simpa using room)]
      · rfl
    have unmade : surfaceLayout config pitch length bottomUp color =
        .error (invalid "Truncated MF NV12") := by
      unfold surfaceLayout
      rw [planar]
      simp only [pixelFormat, bind, Except.bind, if_true, cut]
    constructor
    · rintro ⟨layout, built, _⟩
      rw [unmade] at built
      contradiction
    · rintro ⟨_, extent⟩
      omega

theorem passes_iff (raw : config.format.isCompressed = false)
    (sized : config.width ≠ 0 ∧ config.height ≠ 0)
    (even : config.format = .yuyv ∨ config.format = .uyvy → config.width.toNat % 2 = 0)
    (small : length < usizeLimit) :
    Passes config pitch length bottomUp color ↔
      rowBytes config + chromaPad config ≤ pitch ∧
        surfaceBytes config pitch + chromaPad config ≤ length := by
  cases format : config.format with
  | mjpeg | h264 =>
      rw [format] at raw
      contradiction
  | nv12 =>
      have tall := toNat_pos sized.2
      have pairs : divCeil2 config.width.toNat * 2 =
          config.width.toNat + config.width.toNat % 2 := by
        unfold divCeil2
        omega
      have rows : (config.height.toNat + divCeil2 config.height.toNat - 1) * pitch =
          pitch * config.height.toNat + (divCeil2 config.height.toNat - 1) * pitch := by
        rw [Nat.add_sub_assoc (divCeil2_pos tall), Nat.add_mul, Nat.mul_comm pitch]
      have row : rowBytes config = config.width.toNat := by
        rw [rowBytes, format]
        exact Nat.mul_one _
      have extent : surfaceBytes config pitch = pitch * config.height.toNat +
          (divCeil2 config.height.toNat - 1) * pitch + config.width.toNat := by
        rw [surfaceBytes, surfaceRows, format, row, ← rows]
      have pad : chromaPad config = config.width.toNat % 2 := by rw [chromaPad, if_pos format]
      rw [passes_nv12 format sized small, pairs, row, extent, pad]
      constructor
      · rintro ⟨wide, whole⟩
        exact ⟨wide, by omega⟩
      · rintro ⟨wide, whole⟩
        exact ⟨wide, by omega⟩
  | yuyv | uyvy | rgb | gray =>
      obtain ⟨pixels, bytes, packed, pixel⟩ := packed_found raw (by simp [format])
      have rows : surfaceRows config = config.height.toNat := by rw [surfaceRows, format]
      have pad : chromaPad config = 0 := by rw [chromaPad, format, if_neg (by decide)]
      rw [pad, Nat.add_zero, Nat.add_zero, surfaceBytes, rows, rowBytes, pixel]
      exact passes_packed packed sized even small

private theorem chromaPad_zero (regular : ¬OddChroma config pitch) (row : rowBytes config ≤ pitch)
    (fits : surfaceBytes config pitch < usizeLimit) : chromaPad config = 0 := by
  unfold chromaPad
  split
  · next planar =>
      by_contra padded
      have wide : rowBytes config = config.width.toNat := by
        rw [rowBytes, planar]
        exact Nat.mul_one _
      exact regular ⟨planar, by omega, wide.symm.trans_le row, fits⟩
  · rfl

/-- The length is right for every raw surface but those of NV12 with an odd width. -/
theorem surface_sufficient_iff (raw : config.format.isCompressed = false)
    (sized : config.width ≠ 0 ∧ config.height ≠ 0)
    (even : config.format = .yuyv ∨ config.format = .uyvy → config.width.toNat % 2 = 0) :
    Sufficient config pitch ↔ ¬OddChroma config pitch := by
  have computed := @twoDimensionalLength_eq config pitch raw sized
  constructor
  · intro sufficient odd
    have row : rowBytes config = config.width.toNat := by
      rw [rowBytes, odd.planar]
      exact Nat.mul_one _
    have wide := odd.row
    rw [if_neg (by omega), if_pos odd.fits] at computed
    have passes := sufficient.passes _ computed false {}
    rw [passes_iff raw sized even odd.fits, chromaPad, if_pos odd.planar] at passes
    have uneven := odd.odd
    omega
  · intro regular
    by_cases short : pitch < rowBytes config
    · rw [if_pos short] at computed
      exact
        { passes := fun length made => by simp [computed] at made
          least := fun length made => by simp [computed] at made
          refused := fun error _ => .inl short }
    · by_cases fits : surfaceBytes config pitch < usizeLimit
      · rw [if_neg short, if_pos fits] at computed
        have pad := chromaPad_zero regular (Nat.le_of_not_lt short) fits
        refine
          { passes := fun length made bottomUp color => ?_
            least := fun length made bottomUp color shorter less passes => ?_
            refused := fun error made => by simp [computed] at made }
        · obtain rfl := Except.ok.inj (computed.symm.trans made)
          rw [passes_iff raw sized even fits, pad]
          exact ⟨Nat.le_of_not_lt short, Nat.le_refl _⟩
        · obtain rfl := Except.ok.inj (computed.symm.trans made)
          rw [passes_iff raw sized even (Nat.lt_trans less fits), pad] at passes
          omega
      · rw [if_neg short, if_neg fits] at computed
        exact
          { passes := fun length made => by simp [computed] at made
            least := fun length made => by simp [computed] at made
            refused := fun error _ => .inr (Nat.le_of_not_lt fits) }

theorem surface_sufficient_rgb :
    Sufficient { format := .rgb, width := 4, height := 3, fps := 30 } 16 :=
  (surface_sufficient_iff rfl (by decide) (by decide)).mpr fun odd => by
    cases odd.planar

/-- Three pixels of NV12 have two pairs of chroma, of which the last byte is left out. -/
theorem not_always_sufficient : ¬∀ (config : CameraConfig) (pitch : Nat),
    config.format.isCompressed = false → config.width ≠ 0 ∧ config.height ≠ 0 →
    (config.format = .yuyv ∨ config.format = .uyvy → config.width.toNat % 2 = 0) →
    Sufficient config pitch := by
  intro always
  have sufficient := always { format := .nv12, width := 3, height := 2, fps := 30 } 4 rfl
    (by decide) (by decide)
  obtain ⟨layout, built, accepted⟩ := sufficient.passes 11 rfl false {}
  obtain rfl := Except.ok.inj built
  revert accepted
  decide

end CameraRs.MediaFoundation

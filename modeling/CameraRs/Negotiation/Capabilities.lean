/-
The capabilities that a backend publishes.

They are checked on configurations: each mode must be one, and no two may be equal. The list
that is published is the list of modes, from which the configurations are computed again.
-/

import CameraRs.Negotiation.Ranking

namespace CameraRs

namespace DeviceCapabilities

def configurationKey (config : CameraConfig) : List Nat :=
  [config.format.toByte, config.width.toNat, config.height.toNat, config.fps.toNat,
    config.fpsDenominator.toNat]

def fromModes (modes : List CaptureMode) : CameraResult DeviceCapabilities := do
  if modes.isEmpty then
    throw (.invalidConfig "Device capabilities require at least one capture mode")
  let configurations ← modes.mapM CaptureMode.toConfig
  if (dedup (sortByKey configurationKey configurations)).length ≠ modes.length then
    throw (.invalidConfig "Device capabilities contain duplicate capture modes")
  return fromModesUnchecked modes

structure Publishes (modes : List CaptureMode) (capabilities : DeviceCapabilities) : Prop where
  configurations : ∃ configs, capabilities.configurations = .ok configs ∧
    modes.mapM CaptureMode.toConfig = .ok configs ∧
    configs.mapM CaptureMode.fromConfig = .ok modes
  undone : ∀ mode ∈ modes, ∃ config, mode.toConfig = .ok config ∧
    config.validate = .ok () ∧ CaptureMode.fromConfig config = .ok mode
  formats : capabilities.nativeFormats.Nodup ∧
    ∀ format, format ∈ capabilities.nativeFormats ↔ ∃ mode ∈ modes, mode.format = format

end DeviceCapabilities

/-! ### Modes and configurations -/

namespace CaptureMode

/-- The configuration that `toConfig` checks. -/
def config (mode : CaptureMode) : CameraConfig where
  format := mode.format
  width := mode.width
  height := mode.height
  fps := mode.frameRate.numerator
  fpsDenominator := mode.frameRate.denominator

variable {mode other : CaptureMode} {modes : List CaptureMode}

private theorem config_inj (same : mode.config = other.config) : mode = other := by
  obtain ⟨format, width, height, numerator, denominator⟩ := mode
  obtain ⟨format', width', height', numerator', denominator'⟩ := other
  obtain ⟨rfl, rfl, rfl, rfl, rfl⟩ := CameraConfig.mk.inj same
  rfl

theorem toConfig_ok_iff {config : CameraConfig} :
    mode.toConfig = .ok config ↔ mode.config.validate = .ok () ∧ config = mode.config := by
  change (mode.config.validate.bind fun _ => .ok mode.config) = .ok config ↔ _
  cases mode.config.validate with
  | error e => simp [Except.bind]
  | ok checked => simp [Except.bind, eq_comm]

private theorem fromConfig_config {numerator denominator : UInt32}
    (made : FrameRate.new numerator denominator = .ok mode.frameRate) :
    fromConfig mode.config = .ok mode := by
  have again : mode.config.frameRate = .ok mode.frameRate := FrameRate.new_again made
  rw [fromConfig, again]
  rfl

end CaptureMode

section Lists

variable {α β : Type} {f : α → CameraResult β} {g : α → β} {p : α → Prop}

private theorem mapM_ok_iff (each : ∀ item value, f item = .ok value ↔ p item ∧ value = g item)
    {items : List α} {values : List β} :
    items.mapM f = .ok values ↔ (∀ item ∈ items, p item) ∧ values = items.map g := by
  induction items generalizing values with
  | nil => simp [pure, Except.pure, eq_comm]
  | cons item rest ih =>
      rw [List.mapM_cons, List.forall_mem_cons, List.map_cons]
      cases first : f item with
      | error e =>
          refine iff_of_false (by simp [bind, Except.bind]) ?_
          rintro ⟨⟨here, -⟩, -⟩
          rw [(each item (g item)).mpr ⟨here, rfl⟩] at first
          contradiction
      | ok value =>
          obtain ⟨here, rfl⟩ := (each item value).mp first
          cases others : rest.mapM f with
          | error e =>
              refine iff_of_false (by simp [bind, Except.bind]) ?_
              rintro ⟨⟨-, there⟩, -⟩
              rw [ih.mpr ⟨there, rfl⟩] at others
              contradiction
          | ok results =>
              obtain ⟨there, rfl⟩ := ih.mp others
              change Except.ok (g item :: rest.map g) = .ok values ↔ _
              rw [Except.ok.injEq, and_iff_right ⟨here, there⟩, eq_comm]

private theorem mapM_map_undone {back : β → CameraResult α} {items : List α}
    (undone : ∀ item ∈ items, back (g item) = .ok item) :
    (items.map g).mapM back = .ok items := by
  induction items with
  | nil => rfl
  | cons item rest ih =>
      obtain ⟨first, others⟩ := List.forall_mem_cons.mp undone
      rw [List.map_cons, List.mapM_cons, first, ih others]
      rfl

end Lists

namespace DeviceCapabilities

variable {modes : List CaptureMode} {capabilities : DeviceCapabilities}

private theorem configurationKey_inj (a b : CameraConfig)
    (same : configurationKey a = configurationKey b) : a = b := by
  obtain ⟨format, width, height, fps, denominator⟩ := a
  obtain ⟨format', width', height', fps', denominator'⟩ := b
  simp only [configurationKey, List.cons.injEq, UInt32.toNat_inj, and_true] at same
  obtain ⟨bytes, rfl, rfl, rfl, rfl⟩ := same
  obtain rfl := VideoFormat.toByte_inj bytes
  rfl

theorem mapM_toConfig_iff {configs : List CameraConfig} :
    modes.mapM CaptureMode.toConfig = .ok configs ↔
      (∀ mode ∈ modes, mode.config.validate = .ok ()) ∧ configs = modes.map CaptureMode.config :=
  mapM_ok_iff fun _ _ => CaptureMode.toConfig_ok_iff

theorem repeats_iff (modes : List CaptureMode) :
    (dedup (sortByKey configurationKey (modes.map CaptureMode.config))).length = modes.length ↔
      modes.Nodup := by
  have count : modes.length = (modes.map CaptureMode.config).length := (List.length_map _).symm
  rw [count, length_dedup_iff configurationKey_inj]
  exact List.nodup_map_iff fun _ _ => CaptureMode.config_inj

theorem fromModes_ok_iff : fromModes modes = .ok capabilities ↔
    (modes ≠ [] ∧ (∀ mode ∈ modes, mode.config.validate = .ok ()) ∧ modes.Nodup) ∧
      capabilities = fromModesUnchecked modes := by
  unfold fromModes
  by_cases empty : modes = []
  · rw [if_pos (List.isEmpty_iff.mpr empty)]
    exact iff_of_false (by simp [bind, Except.bind]) fun all => all.1.1 empty
  · rw [if_neg fun none => empty (List.isEmpty_iff.mp none)]
    cases converted : modes.mapM CaptureMode.toConfig with
    | error e =>
        refine iff_of_false (by simp [bind, Except.bind]) ?_
        rintro ⟨⟨-, valid, -⟩, -⟩
        rw [mapM_toConfig_iff.mpr ⟨valid, rfl⟩] at converted
        contradiction
    | ok configs =>
        obtain ⟨valid, rfl⟩ := mapM_toConfig_iff.mp converted
        simp only [bind, Except.bind, pure, Except.pure]
        split
        · next repeats =>
            refine iff_of_false (by simp) ?_
            rintro ⟨⟨-, -, distinct⟩, -⟩
            exact repeats ((repeats_iff modes).mpr distinct)
        · next distinct =>
            rw [Except.ok.injEq,
              and_iff_right ⟨empty, valid, (repeats_iff modes).mp (not_not.mp distinct)⟩, eq_comm]

private theorem nativeFormats_unchecked (modes : List CaptureMode) :
    (fromModesUnchecked modes).nativeFormats.Nodup ∧
      ∀ format, format ∈ (fromModesUnchecked modes).nativeFormats ↔
        ∃ mode ∈ modes, mode.format = format := by
  refine ⟨nodup_dedup_sortByKey VideoFormat.eq_of_byte _, ?_⟩
  intro format
  change format ∈ dedup (sortByKey _ _) ↔ _
  rw [mem_dedup, mem_sortByKey, List.mem_map]

private theorem publishes_unchecked (valid : ∀ mode ∈ modes, mode.config.validate = .ok ())
    (made : ∀ mode ∈ modes, ∃ numerator denominator,
      FrameRate.new numerator denominator = .ok mode.frameRate) :
    Publishes modes (fromModesUnchecked modes) := by
  have back : ∀ mode ∈ modes, CaptureMode.fromConfig mode.config = .ok mode := by
    intro mode there
    obtain ⟨numerator, denominator, rate⟩ := made mode there
    exact CaptureMode.fromConfig_config rate
  have converted : modes.mapM CaptureMode.toConfig = .ok (modes.map CaptureMode.config) :=
    mapM_toConfig_iff.mpr ⟨valid, rfl⟩
  constructor
  · exact ⟨modes.map CaptureMode.config, converted, converted, mapM_map_undone back⟩
  · intro mode there
    exact ⟨mode.config, CaptureMode.toConfig_ok_iff.mpr ⟨valid mode there, rfl⟩, valid mode there,
      back mode there⟩
  · exact nativeFormats_unchecked modes

/-- Modes are published exactly when there are some, all of them are valid and no two are
the same, and what is published is all of them. -/
theorem fromModes_faithful (made : ∀ mode ∈ modes, ∃ numerator denominator,
      FrameRate.new numerator denominator = .ok mode.frameRate) :
    ((∃ capabilities, fromModes modes = .ok capabilities) ↔
      modes ≠ [] ∧ (∀ mode ∈ modes, ∃ config, mode.toConfig = .ok config) ∧ modes.Nodup) ∧
    ∀ capabilities, fromModes modes = .ok capabilities → Publishes modes capabilities := by
  constructor
  · have converts (mode : CaptureMode) :
        (∃ config, mode.toConfig = .ok config) ↔ mode.config.validate = .ok () := by
      simp only [CaptureMode.toConfig_ok_iff, exists_and_left, exists_eq, and_true]
    simp only [fromModes_ok_iff, exists_and_left, exists_eq, and_true, converts]
  · intro capabilities published
    obtain ⟨⟨-, valid, -⟩, rfl⟩ := fromModes_ok_iff.mp published
    exact publishes_unchecked valid made

def webcamModes : List CaptureMode :=
  [{ format := .mjpeg, width := 1280, height := 720, frameRate := ⟨30, 1⟩ },
    { format := .yuyv, width := 640, height := 480, frameRate := ⟨30, 1⟩ }]

theorem fromModes_faithful_webcam :
    ∃ capabilities, fromModes webcamModes = .ok capabilities ∧
      Publishes webcamModes capabilities := by
  have made : ∀ mode ∈ webcamModes, ∃ numerator denominator,
      FrameRate.new numerator denominator = .ok mode.frameRate := by
    intro mode there
    rcases List.mem_pair.mp there with rfl | rfl
    · exact ⟨30, 1, by decide⟩
    · exact ⟨30, 1, by decide⟩
  have published : fromModes webcamModes = .ok (fromModesUnchecked webcamModes) :=
    fromModes_ok_iff.mpr ⟨by decide, rfl⟩
  exact ⟨_, published, (fromModes_faithful made).2 _ published⟩

end DeviceCapabilities

end CameraRs

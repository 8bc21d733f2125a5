/-
The plan for a capture, and the first configuration that a start tries.

Both rank a list that they put together on their own. For a device that is enumerated or
comes from a provider the lists agree. For the synthetic source the plan ranks a
configuration of the preferred format, while a start has one of RGB that is never ranked.
A start refuses options of another backend, which the plan does not look at.
-/

import CameraRs.Frame.Types
import CameraRs.Negotiation.Addressed
import CameraRs.Negotiation.Ranking

namespace CameraRs.Negotiation

def BackendType.id : BackendType → String
  | .uvc => "uvc"
  | .v4l2 => "v4l2"
  | .avFoundation => "avfoundation"
  | .camera2 => "camera2"
  | .mediaFoundation => "media-foundation"

inductive SelectedBackend
  | synthetic
  | registered (id : String)
  | enumerated (backend : BackendType)

def SelectedBackend.id : SelectedBackend → String
  | .synthetic => "synthetic"
  | .registered id => id
  | .enumerated backend => backend.id

/-- Without the adjustments, which are none, and the text of the reason. -/
structure CapturePlan where
  selected : CaptureMode
  alternatives : List CaptureMode
  estimatedPoolBytes : Nat

def planConfigurations (world : Arrangement) (backend : SelectedBackend) (id : String)
    (request : CaptureRequest) : CameraResult (List CameraConfig) :=
  match backend with
  | .synthetic => .ok [request.configFor (request.preferredFormats.headD .rgb)]
  | .registered _ => do
      let device ← world.select id
      let capabilities ← device.device.openedDeviceCapabilities
      capabilities.configurations
  | .enumerated backend => do
      let device ← world.select id
      let capabilities ← getDeviceCapabilities world backend device.info.index
      let configurations ← capabilities.configurations
      let requested ← requestedConfigs world backend device.info.index request configurations
      return configurations ++ requested

/-- `saturating_mul`, then `min`. -/
def estimatedPoolBytes (memory : MemoryBudget) (selected : CameraConfig) : Nat :=
  let perFrame := selected.frameSize.getD (max (selected.width.toNat * selected.height.toNat) 1)
  min (min (perFrame * memory.buffers) (usizeLimit - 1)) memory.bytes

/-- The end of `plan`, with the ranked configurations. -/
def planOf (memory : MemoryBudget) (selected : CameraConfig) (rest : List CameraConfig) :
    CameraResult CapturePlan := do
  let capture ← CaptureMode.fromConfig selected
  let alternatives ← rest.mapM CaptureMode.fromConfig
  return { selected := capture, alternatives := alternatives,
           estimatedPoolBytes := estimatedPoolBytes memory selected }

/-- `CameraSystem::plan`. Ranking never leaves an empty list, which would have no first. -/
def plan (rateDelta : FrameRate → FrameRate → Nat) (world : Arrangement)
    (backend : SelectedBackend) (id : String) (memory : MemoryBudget)
    (request : CaptureRequest) : CameraResult CapturePlan := do
  let configurations ← planConfigurations world backend id request
  match ← request.rankCaptureConfigurations rateDelta configurations with
  | [] => .error (.unsupportedFormat "")
  | selected :: rest => planOf memory selected rest

def checkOptions (backend : SelectedBackend) : List BackendType → CameraResult Unit
  | [] => .ok ()
  | option :: rest =>
      if option.id ≠ backend.id then .error (.backendOptionMismatch option.id backend.id)
      else checkOptions backend rest

/-- `start_until` up to its list of candidates. The request was checked when it was built. -/
def startCandidates (rateDelta : FrameRate → FrameRate → Nat) (options : List BackendType)
    (backend : SelectedBackend) (c : Camera) (request : CaptureRequest) :
    CameraResult (List CameraConfig) := do
  checkOptions backend options
  c.candidates rateDelta request

/-- A camera just opened, in the arrangement in which the plan is made. -/
inductive Opened (world : Arrangement) (id : String) : SelectedBackend → Camera → Prop
  | synthetic : Opened world id .synthetic (openSynthetic world)
  | registered {name : String} {c : Camera} (opened : openCustom world id = .ok c) :
      Opened world id (.registered name) c
  | enumerated {backend : BackendType} {c : Camera}
      (opened : openNative world backend id = .ok c) : Opened world id (.enumerated backend) c

/-- The mode planned is that of the first candidate, and there is one when there is the other. -/
def Predicts (planned : CameraResult CapturePlan) (candidates : CameraResult (List CameraConfig)) :
    Prop :=
  ∀ mode, (∃ plan, planned = .ok plan ∧ plan.selected = mode) ↔
    ∃ first rest, candidates = .ok (first :: rest) ∧ CaptureMode.fromConfig first = .ok mode

/-- The synthetic source is asked for an RGB mode that it may be planned with. Where the
system has an option of another backend there is nothing to plan. -/
structure Foreseen (world : Arrangement) (options : List BackendType)
    (backend : SelectedBackend) (id : String) (request : CaptureRequest) : Prop where
  own : (∀ option ∈ options, option.id = backend.id) → backend = .synthetic →
    request.preferredFormats.headD .rgb = .rgb ∧ request.Acceptable (request.configFor .rgb)
  foreign : (∃ option ∈ options, option.id ≠ backend.id) →
    ∀ configurations, planConfigurations world backend id request = .ok configurations →
      ∀ config ∈ configurations, ¬ request.Acceptable config

section Plans

variable {rateDelta : FrameRate → FrameRate → Nat} {world : Arrangement}
  {options : List BackendType} {backend : SelectedBackend} {id : String} {memory : MemoryBudget}
  {request : CaptureRequest} {c : Camera}

theorem fromConfig_ok {config : CameraConfig} (n : config.fps ≠ 0) (d : config.fpsDenominator ≠ 0) :
    ∃ mode, CaptureMode.fromConfig config = .ok mode ∧ mode.format = config.format := by
  obtain ⟨rate, made⟩ := FrameRate.new_ok n d
  have known : config.frameRate = .ok rate := made
  rw [CaptureMode.fromConfig, known]
  exact ⟨_, rfl, rfl⟩

private theorem mapM_ok {α β : Type} {f : α → CameraResult β} {items : List α}
    (each : ∀ item ∈ items, ∃ result, f item = .ok result) :
    ∃ results, items.mapM f = .ok results := by
  induction items with
  | nil => exact ⟨[], rfl⟩
  | cons item rest ih =>
      obtain ⟨result, first⟩ := each item List.mem_cons_self
      obtain ⟨results, others⟩ := ih fun later there => each later (List.mem_cons_of_mem item there)
      rw [List.mapM_cons, first, others]
      exact ⟨_, rfl⟩

theorem planOf_selected_iff {configurations rest : List CameraConfig} {selected : CameraConfig}
    (ranked : request.rankCaptureConfigurations rateDelta configurations = .ok (selected :: rest))
    (mode : CaptureMode) :
    (∃ plan, planOf memory selected rest = .ok plan ∧ plan.selected = mode) ↔
      CaptureMode.fromConfig selected = .ok mode := by
  have moded (config : CameraConfig) (there : config ∈ selected :: rest) :
      ∃ mode, CaptureMode.fromConfig config = .ok mode := by
    have accepted := CaptureRequest.accepts_iff.mp (CaptureRequest.ranked_listed ranked there).2
    obtain ⟨mode, made, -⟩ := fromConfig_ok accepted.rate.1 accepted.rate.2
    exact ⟨mode, made⟩
  obtain ⟨capture, first⟩ := moded selected List.mem_cons_self
  obtain ⟨alternatives, others⟩ :=
    mapM_ok fun config there => moded config (List.mem_cons_of_mem selected there)
  simp only [planOf, first, others, bind, Except.bind, pure, Except.pure, Except.ok.injEq,
    exists_eq_left']

theorem plan_selected_iff (mode : CaptureMode) :
    (∃ result, plan rateDelta world backend id memory request = .ok result ∧
        result.selected = mode) ↔
      ∃ first rest, (planConfigurations world backend id request >>=
          request.rankCaptureConfigurations rateDelta) = .ok (first :: rest) ∧
        CaptureMode.fromConfig first = .ok mode := by
  unfold plan
  cases listed : planConfigurations world backend id request with
  | error e => simp [bind, Except.bind]
  | ok configurations =>
      cases ranked : request.rankCaptureConfigurations rateDelta configurations with
      | error e => simp [ranked, bind, Except.bind]
      | ok result =>
          cases result with
          | nil => exact absurd rfl (CaptureRequest.rank_ok_iff.mp ranked).2
          | cons selected rest =>
              simp only [ranked, bind, Except.bind, planOf_selected_iff ranked, Except.ok.injEq,
                List.cons.injEq]
              constructor
              · exact fun made => ⟨selected, rest, ⟨rfl, rfl⟩, made⟩
              · rintro ⟨first, others, ⟨rfl, rfl⟩, made⟩
                exact made

theorem checkOptions_ok_iff :
    checkOptions backend options = .ok () ↔ ∀ option ∈ options, option.id = backend.id := by
  induction options with
  | nil => simp [checkOptions]
  | cons option rest ih =>
      rw [checkOptions, List.forall_mem_cons]
      split
      · next foreign => simp [foreign]
      · next own => rw [ih, not_not.mp own, eq_self_iff_true, true_and]

private theorem startCandidates_own (own : ∀ option ∈ options, option.id = backend.id) :
    startCandidates rateDelta options backend c request = c.candidates rateDelta request := by
  rw [startCandidates, checkOptions_ok_iff.mpr own]
  rfl

private theorem startCandidates_foreign (foreign : ∃ option ∈ options, option.id ≠ backend.id) :
    ∃ e, startCandidates rateDelta options backend c request = .error e := by
  cases checked : checkOptions backend options with
  | ok _ =>
      obtain ⟨option, there, other⟩ := foreign
      exact absurd (checkOptions_ok_iff.mp checked option there) other
  | error e =>
      rw [startCandidates, checked]
      exact ⟨e, rfl⟩

/-- What `open_native` returns. -/
def openedCamera (world : Arrangement) (id : String) (entry : Attached) (backend : BackendType)
    (camera : BackendCamera) : Camera where
  world := world
  native := id
  index := entry.info.index
  source := .native backend (some camera)

theorem candidates_queried {backend : BackendType} {entry : Attached} {camera : BackendCamera}
    (selected : world.select id = .ok entry)
    (unread : (openedCamera world id entry backend camera).externalCapabilities = .ok none) :
    (openedCamera world id entry backend camera).candidates rateDelta request =
      (planConfigurations world (.enumerated backend) id request >>=
        request.rankCaptureConfigurations rateDelta) := by
  simp only [openedCamera] at unread
  simp only [openedCamera, Camera.candidates, unread, planConfigurations, selected, bind,
    Except.bind, Bool.false_eq_true, if_false]
  cases getDeviceCapabilities world backend entry.info.index with
  | error e => rfl
  | ok capabilities =>
      cases listed : capabilities.configurations with
      | error e => simp [listed]
      | ok configurations =>
          cases probed : requestedConfigs world backend entry.info.index request configurations with
          | error e => simp [listed, probed]
          | ok requested => simp [listed, probed, pure, Except.pure]

private theorem candidates_read {entry : Attached} {camera : BackendCamera}
    (selected : world.select id = .ok entry)
    (created : createSelectedCamera world .mediaFoundation id = .ok camera) :
    (openedCamera world id entry .mediaFoundation camera).candidates rateDelta request =
      (planConfigurations world (.enumerated .mediaFoundation) id request >>=
        request.rankCaptureConfigurations rateDelta) := by
  have held := createSelectedCamera_handle created
  rw [if_pos rfl, named_of_select selected] at held
  have numbered := numbered_of_attached (select_attached selected)
  simp only [createSelectedCamera, selected, bind, Except.bind] at created
  split at created
  · next access configs ranges supports answers =>
    rw [answers] at held numbered
    cases access with
    | error e => contradiction
    | ok _ =>
        simp only [openedCamera, Camera.candidates, Camera.externalCapabilities, Camera.current, held,
          planConfigurations, getDeviceCapabilities, numbered, selected, bind, Except.bind,
          Bool.false_eq_true, if_false, Device.openedDeviceCapabilities, Except.map,
          requestedConfigs, reduceCtorEq, pure, Except.pure]
        cases (DeviceCapabilities.fromConfigurations configs).configurations with
        | error e => rfl
        | ok configurations => simp
  · contradiction

theorem candidates_eq (opened : Opened world id backend c) (real : backend ≠ .synthetic) :
    c.candidates rateDelta request = (planConfigurations world backend id request >>=
      request.rankCaptureConfigurations rateDelta) := by
  cases opened with
  | synthetic => exact absurd rfl real
  | registered opened =>
      unfold openCustom at opened
      cases selected : world.select id with
      | error e => simp [selected, bind, Except.bind] at opened
      | ok entry =>
          simp only [selected, bind, Except.bind, pure, Except.pure, Except.ok.injEq] at opened
          subst opened
          simp only [Camera.candidates, Camera.externalCapabilities, planConfigurations, selected,
            bind, Except.bind, Bool.false_eq_true, if_false]
          cases entry.device.openedDeviceCapabilities with
          | error e => rfl
          | ok capabilities => rfl
  | @enumerated backend c opened =>
      unfold openNative at opened
      cases selected : world.select id with
      | error e => simp [selected, bind, Except.bind] at opened
      | ok entry =>
          cases created : createSelectedCamera world backend id with
          | error e => simp [selected, created, bind, Except.bind] at opened
          | ok camera =>
              simp only [selected, created, bind, Except.bind, pure, Except.pure,
                Except.ok.injEq] at opened
              subst opened
              have held := createSelectedCamera_handle created
              cases backend with
              | mediaFoundation => exact candidates_read selected created
              | uvc =>
                  rw [if_neg (by simp)] at held
                  refine candidates_queried selected ?_
                  simp [openedCamera, Camera.externalCapabilities, Camera.current, held, bind,
                    Except.bind]
              | avFoundation => exact candidates_queried selected rfl
              | camera2 => exact candidates_queried selected rfl
              | v4l2 => exact candidates_queried selected rfl

private theorem plan_none_iff :
    (∀ mode, ¬ ∃ result, plan rateDelta world backend id memory request = .ok result ∧
        result.selected = mode) ↔
      ∀ configurations, planConfigurations world backend id request = .ok configurations →
        ∀ config ∈ configurations, ¬ request.Acceptable config := by
  simp only [plan_selected_iff]
  cases listed : planConfigurations world backend id request with
  | error e => simp [bind, Except.bind]
  | ok configurations =>
      have bound : (Except.ok configurations >>= request.rankCaptureConfigurations rateDelta) =
        request.rankCaptureConfigurations rateDelta configurations := rfl
      simp only [bound, Except.ok.injEq, forall_eq']
      rw [← @CaptureRequest.rank_none_iff rateDelta]
      constructor
      · intro unplanned
        cases ranked : request.rankCaptureConfigurations rateDelta configurations with
        | error e => exact ⟨e, rfl⟩
        | ok result =>
            cases result with
            | nil => exact absurd rfl (CaptureRequest.rank_ok_iff.mp ranked).2
            | cons first rest =>
                have accepted := CaptureRequest.accepts_iff.mp
                  (CaptureRequest.ranked_listed ranked List.mem_cons_self).2
                obtain ⟨mode, made, -⟩ := fromConfig_ok accepted.rate.1 accepted.rate.2
                exact absurd ⟨first, rest, ranked, made⟩ (unplanned mode)
      · rintro ⟨e, refused⟩ mode ⟨first, rest, ranked, -⟩
        rw [refused] at ranked
        cases ranked

theorem predicts_synthetic_iff (rate : ∃ n d, FrameRate.new n d = .ok request.preferredFps) :
    Predicts (plan rateDelta world .synthetic id memory request)
        (.ok [request.configFor .rgb]) ↔
      request.preferredFormats.headD .rgb = .rgb ∧
        request.Acceptable (request.configFor .rgb) := by
  obtain ⟨numerator, denominator, reduced⟩ := rate
  have positive := FrameRate.new_positive reduced
  obtain ⟨started, made, format⟩ := @fromConfig_ok (request.configFor .rgb) positive.1 positive.2
  have listed : planConfigurations world .synthetic id request =
      .ok [request.configFor (request.preferredFormats.headD .rgb)] := rfl
  constructor
  · intro predicts
    obtain ⟨planned, rest, ranked, chosen⟩ := (plan_selected_iff started).mp
      ((predicts started).mpr ⟨_, [], rfl, made⟩)
    have there := CaptureRequest.ranked_listed ranked List.mem_cons_self
    obtain rfl := List.mem_singleton.mp there.1
    have same : request.preferredFormats.headD .rgb = .rgb := by
      obtain ⟨mode, again, sameFormat⟩ := @fromConfig_ok
        (request.configFor (request.preferredFormats.headD .rgb)) positive.1 positive.2
      obtain rfl := Except.ok.inj (again.symm.trans chosen)
      exact sameFormat.symm.trans format
    rw [same] at there
    exact ⟨same, CaptureRequest.accepts_iff.mp there.2⟩
  · rintro ⟨same, accepted⟩ mode
    rw [same] at listed
    have alone : request.rankCaptureConfigurations rateDelta [request.configFor .rgb] =
        .ok [request.configFor .rgb] := CaptureRequest.rank_singleton accepted
    rw [plan_selected_iff, listed]
    change (∃ first rest, request.rankCaptureConfigurations rateDelta _ = _ ∧ _) ↔ _
    rw [alone]

theorem predicts_iff (opened : Opened world id backend c)
    (rate : ∃ n d, FrameRate.new n d = .ok request.preferredFps) :
    Predicts (plan rateDelta world backend id memory request)
        (startCandidates rateDelta options backend c request) ↔
      Foreseen world options backend id request := by
  by_cases own : ∀ option ∈ options, option.id = backend.id
  · have none : ¬ ∃ option ∈ options, option.id ≠ backend.id := by
      rintro ⟨option, there, other⟩
      exact other (own option there)
    rw [startCandidates_own own]
    cases opened with
    | synthetic =>
        refine (predicts_synthetic_iff rate).trans ?_
        constructor
        · exact fun planned => ⟨fun _ _ => planned, fun foreign => absurd foreign none⟩
        · exact fun foreseen => foreseen.own own rfl
    | registered opened =>
        rw [candidates_eq (.registered opened) (by simp)]
        constructor
        · exact fun _ => ⟨fun _ other => by simp at other, fun foreign => absurd foreign none⟩
        · exact fun _ mode => plan_selected_iff mode
    | enumerated opened =>
        rw [candidates_eq (.enumerated opened) (by simp)]
        constructor
        · exact fun _ => ⟨fun _ other => by simp at other, fun foreign => absurd foreign none⟩
        · exact fun _ mode => plan_selected_iff mode
  · have foreign : ∃ option ∈ options, option.id ≠ backend.id := by
      push Not at own
      exact own
    obtain ⟨e, refused⟩ := @startCandidates_foreign rateDelta options backend request c foreign
    rw [refused]
    have unplanned := @plan_none_iff rateDelta world backend id memory request
    constructor
    · intro predicts
      have nothing := unplanned.mp fun mode planned => by
        obtain ⟨first, rest, made, -⟩ := (predicts mode).mp planned
        cases made
      exact ⟨fun others => absurd others own, fun _ => nothing⟩
    · intro foreseen mode
      have nothing := unplanned.mpr (foreseen.foreign foreign) mode
      exact ⟨fun planned => absurd planned nothing, fun ⟨_, _, made, _⟩ => by cases made⟩

end Plans

/-! ### A provider with one mode, and the synthetic source asked for NV12 -/

def oneMode : Arrangement :=
  ⟨[{ info := { index := 0, devicePath := some "a" }
      device := .custom (.ok (.singleNative .nv12 640 480 .standard)) }], by decide⟩

theorem standard_reduced : ∃ n d, FrameRate.new n d = .ok .standard := ⟨30, 1, rfl⟩

def openedOne : Camera where
  world := oneMode
  native := "a"
  index := 0
  source := .custom (some (.custom (.ok (.singleNative .nv12 640 480 .standard))))

theorem predicts_iff_one_mode :
    Predicts (plan (fun _ _ => 0) oneMode (.registered "demo/one") "a" {} {})
      (startCandidates (fun _ _ => 0) [] (.registered "demo/one") openedOne {}) :=
  (predicts_iff (.registered rfl) standard_reduced).mpr
    ⟨fun _ other => by simp at other, fun foreign => by simp at foreign⟩

theorem not_always_predicts :
    ¬ ∀ (rateDelta : FrameRate → FrameRate → Nat) (world : Arrangement)
      (options : List BackendType) (backend : SelectedBackend) (id : String)
      (memory : MemoryBudget) (request : CaptureRequest) (c : Camera),
      Opened world id backend c →
      (∃ n d, FrameRate.new n d = .ok request.preferredFps) →
        Predicts (plan rateDelta world backend id memory request)
          (startCandidates rateDelta options backend c request) := by
  intro always
  have predicts := always (fun _ _ => 0) oneMode [] .synthetic "test-pattern" {}
    { preferredFormats := [.nv12] } (openSynthetic oneMode) .synthetic standard_reduced
  have planned := (predicts_synthetic_iff standard_reduced).mp predicts
  exact absurd planned.1 (by decide)

end CameraRs.Negotiation

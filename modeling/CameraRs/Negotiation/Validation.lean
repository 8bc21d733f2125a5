/-
The check of what the driver negotiated, after the first frame.

Its constraints are written a second time, as a cascade of errors. It accepts exactly the
configurations that the ranking keeps. How a frame rate reads is a parameter.
-/

import CameraRs.Negotiation.Ranking

namespace CameraRs

def FrameRate.below (rate minimum : FrameRate) : Bool :=
  decide (rate.numerator.toNat * minimum.denominator.toNat <
    minimum.numerator.toNat * rate.denominator.toNat)

def validateRequestedCapture (display : FrameRate → String) (request : CaptureRequest)
    (actual : CameraConfig) (firstLayout : FrameLayout) : CameraResult Unit := do
  actual.validate
  let frameRate ← actual.frameRate
  if request.minimumFps.any frameRate.below then
    .error (.unsupportedFormat ("Driver negotiated " ++ display frameRate ++
      " fps below required " ++ request.minimumFps.elim "" display ++ " fps"))
  else if !request.preferredFormats.isEmpty &&
      !request.preferredFormats.any fun format => decide (format = actual.format) then
    .error (.unsupportedFormat ("Driver negotiated unaccepted format " ++ actual.format.name))
  else if request.exactResolution &&
      decide ((actual.width, actual.height) ≠ (request.width, request.height)) then
    .error (.unsupportedFormat ("Driver negotiated " ++ toString actual.width ++ "x" ++
      toString actual.height ++ " instead of the required " ++ toString request.width ++ "x" ++
      toString request.height ++ " resolution"))
  else if request.requiredAspectRatio.any fun ratio =>
      decide (actual.width.toNat * ratio.2.toNat ≠ actual.height.toNat * ratio.1.toNat) then
    .error (.unsupportedFormat ("Driver negotiated " ++ toString actual.width ++ "x" ++
      toString actual.height ++ " outside the required aspect ratio"))
  else if firstLayout.width ≠ actual.width ∨ firstLayout.height ≠ actual.height then
    .error (.invalidFrame "First frame differs from negotiated dimensions")
  else
    .ok ()

private theorem FrameRate.below_eq (rate minimum : FrameRate) :
    rate.below minimum = !rate.atLeast minimum := by
  simp only [below, atLeast, ← decide_not, Nat.not_le]

private theorem refuse_ok_iff {refused : Prop} [Decidable refused] {e : CameraError}
    {rest : CameraResult Unit} :
    (if refused then .error e else rest) = .ok () ↔ ¬ refused ∧ rest = .ok () := by
  split
  · next bad => simp [bad]
  · next fine => simp [fine]

section Checks

variable {request : CaptureRequest} {config : CameraConfig}

private theorem below_none_iff {rate : FrameRate} (made : config.frameRate = .ok rate) :
    ¬ request.minimumFps.any rate.below = true ↔
      ∀ minimum, request.minimumFps = some minimum →
        minimum.numerator.toNat * config.fpsDenominator.toNat ≤
          config.fps.toNat * minimum.denominator.toNat := by
  simp only [Option.any_eq_true, FrameRate.below_eq, Bool.not_eq_true', not_exists, not_and,
    Bool.not_eq_false, FrameRate.atLeast_iff made]

private theorem unaccepted_iff :
    ¬ (!request.preferredFormats.isEmpty &&
        !request.preferredFormats.any fun format => decide (format = config.format)) = true ↔
      request.preferredFormats = [] ∨ config.format ∈ request.preferredFormats := by
  rw [← Bool.not_or, Bool.not_eq_true', Bool.not_eq_false, Bool.or_eq_true, List.isEmpty_iff,
    List.any_eq_true]
  simp

private theorem resized_iff :
    ¬ (request.exactResolution &&
        decide ((config.width, config.height) ≠ (request.width, request.height))) = true ↔
      (request.exactResolution = true →
        config.width = request.width ∧ config.height = request.height) := by
  cases request.exactResolution with
  | false => simp
  | true => simp

private theorem distorted_iff :
    ¬ (request.requiredAspectRatio.any fun ratio =>
        decide (config.width.toNat * ratio.2.toNat ≠ config.height.toNat * ratio.1.toNat)) = true ↔
      ∀ width height, request.requiredAspectRatio = some (width, height) →
        config.width.toNat * height.toNat = config.height.toNat * width.toNat := by
  rw [Option.any_eq_true, not_exists]
  constructor
  · intro none width height required
    simpa [required] using none (width, height)
  · rintro all ⟨width, height⟩ ⟨required, differ⟩
    exact of_decide_eq_true differ (all width height required)

theorem validateRequestedCapture_ok_iff {display : FrameRate → String} {layout : FrameLayout} :
    validateRequestedCapture display request config layout = .ok () ↔
      request.Acceptable config ∧ layout.width = config.width ∧ layout.height = config.height := by
  unfold validateRequestedCapture
  cases valid : config.validate with
  | error e =>
      have refused : ¬ request.Acceptable config := fun accepted =>
        absurd (CameraConfig.validate_ok_iff.mpr
          ⟨accepted.dimensions, accepted.rate, accepted.representable⟩) (by simp [valid])
      simp [bind, Except.bind, refused]
  | ok _ =>
      obtain ⟨dimensions, positive, representable⟩ := CameraConfig.validate_ok_iff.mp valid
      obtain ⟨rate, made⟩ : ∃ rate, config.frameRate = .ok rate :=
        FrameRate.new_ok positive.1 positive.2
      simp only [made, bind, Except.bind, refuse_ok_iff, below_none_iff made, unaccepted_iff,
        resized_iff, distorted_iff, not_or, not_not]
      constructor
      · rintro ⟨minimum, format, resolution, aspect, size, -⟩
        exact
          ⟨{ dimensions := dimensions
             rate := positive
             representable := representable
             format := format
             minimum := minimum
             resolution := resolution
             aspect := aspect }, size⟩
      · rintro ⟨accepted, size⟩
        exact ⟨accepted.minimum, accepted.format, accepted.resolution, accepted.aspect, size, trivial⟩

end Checks

theorem kept_iff_validates {rateDelta : FrameRate → FrameRate → Nat}
    {display : FrameRate → String} {request : CaptureRequest} {config : CameraConfig}
    {layout : FrameLayout} {configurations : List CameraConfig}
    (listed : config ∈ configurations)
    (sized : layout.width = config.width ∧ layout.height = config.height) :
    (∃ kept, request.rankCaptureConfigurations rateDelta configurations = .ok kept ∧
        config ∈ kept) ↔
      validateRequestedCapture display request config layout = .ok () := by
  rw [validateRequestedCapture_ok_iff, ← CaptureRequest.accepts_iff]
  constructor
  · rintro ⟨kept, ranked, there⟩
    exact ⟨(CaptureRequest.ranked_listed ranked there).2, sized⟩
  · rintro ⟨accepted, -⟩
    have there : config ∈ request.ranked rateDelta configurations :=
      CaptureRequest.mem_ranked.mpr ⟨listed, accepted⟩
    exact ⟨_, CaptureRequest.rank_ok_iff.mpr ⟨rfl, List.ne_nil_of_mem there⟩, there⟩

theorem kept_iff_validates_nv12 :
    (∃ kept, ({} : CaptureRequest).rankCaptureConfigurations (fun _ _ => 0)
        [CaptureRequest.yuyvAt30, CaptureRequest.nv12At30] = .ok kept ∧
        CaptureRequest.nv12At30 ∈ kept) ↔
      validateRequestedCapture (fun _ => "30") {} CaptureRequest.nv12At30
        { width := 640, height := 480, format := .nv12, planes := [] } = .ok () :=
  kept_iff_validates (by simp) ⟨rfl, rfl⟩

end CameraRs

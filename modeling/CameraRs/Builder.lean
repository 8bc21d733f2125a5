/-
Changing a capture request between its checks.

`build` checks a request as a whole. The setters of a `CaptureBuilder` then change it field by
field, and `start` repeats only the part of the check that the stream needs. What a request may
miss by then is the order of its two frame rates.
-/

import CameraRs.Fallback
import CameraRs.Negotiation.Ranking

namespace CameraRs.Fallback

inductive CaptureProfile
  | preview
  | recognition
  | recording
  | nativeRelay
deriving DecidableEq, Repr

namespace CaptureRequest

def build (request : CaptureRequest) : CameraResult CaptureRequest := do
  let _ ← request.toStreamRequest
  if request.minimumFps.any fun minimum => minimum.cmp request.preferredFps = .gt then
    throw (.invalidConfig "Minimum frame rate exceeds preferred frame rate")
  if request.requiredAspectRatio.any fun (width, height) => decide (width = 0 ∨ height = 0) then
    throw (.invalidConfig "Required aspect ratio must be positive")
  if 1 < request.preferredFormats.length ∧
      (dedup (sortByKey (fun format => [format.toByte]) request.preferredFormats)).length ≠
        request.preferredFormats.length then
    throw (.invalidConfig "Preferred capture formats contain duplicates")
  return request

/-- What `build` asks of a request beyond its stream, at this frame rate. -/
structure Permits (request : CaptureRequest) (rate : FrameRate) : Prop where
  minimum : ∀ minimum, request.minimumFps = some minimum →
    minimum.numerator.toNat * rate.denominator.toNat ≤
      rate.numerator.toNat * minimum.denominator.toNat
  aspect : ∀ width height, request.requiredAspectRatio = some (width, height) →
    width ≠ 0 ∧ height ≠ 0
  formats : request.preferredFormats.Nodup

end CaptureRequest

def CaptureProfile.request : CaptureProfile → CaptureRequest
  | .preview => { width := 1280, height := 720, priority := .lowLatency }
  | .recognition => { width := 1280, height := 720, priority := .lowCpu }
  | .recording => { width := 1920, height := 1080, priority := .fidelity }
  | .nativeRelay =>
      { width := 1280
        height := 720
        priority := .lowBandwidth
        preferredFormats := [.mjpeg, .h264] }

variable {Provider : Type}

namespace CaptureBuilder

def new (system : CameraSystem Provider) (selector : DeviceSelector) : CaptureBuilder Provider :=
  { system := system, selector := selector, request := {} }

def profile (builder : CaptureBuilder Provider) (profile : CaptureProfile) :
    CaptureBuilder Provider :=
  { builder with request := profile.request }

def resolution (builder : CaptureBuilder Provider) (width height : UInt32) :
    CaptureBuilder Provider :=
  { builder with request := { builder.request with width := width, height := height } }

def frameRate (builder : CaptureBuilder Provider) (frameRate : FrameRate) :
    CaptureBuilder Provider :=
  { builder with request := { builder.request with preferredFps := frameRate } }

def withRequest (builder : CaptureBuilder Provider) (request : CaptureRequest) :
    CaptureBuilder Provider :=
  { builder with request := request }

end CaptureBuilder

inductive BuilderCall
  | profile (profile : CaptureProfile)
  | resolution (width height : UInt32)
  | frameRate (frameRate : FrameRate)
  | request (request : CaptureRequest)

namespace BuilderCall

def installs : BuilderCall → Option CaptureRequest
  | .profile chosen => some chosen.request
  | .request given => some given
  | _ => none

def rate : BuilderCall → Option FrameRate
  | .frameRate value => some value
  | _ => none

end BuilderCall

def CaptureBuilder.call (builder : CaptureBuilder Provider) : BuilderCall → CaptureBuilder Provider
  | .profile profile => builder.profile profile
  | .resolution width height => builder.resolution width height
  | .frameRate frameRate => builder.frameRate frameRate
  | .request request => builder.withRequest request

def lastRate (rate : FrameRate) (calls : List BuilderCall) : FrameRate :=
  (calls.filterMap BuilderCall.rate).getLast?.getD rate

structure InForce (calls : List BuilderCall) (given : BuilderCall) (after : List BuilderCall) :
    Prop where
  split : ∃ before, calls = before ++ given :: after
  replaces : given.installs ≠ none
  kept : ∀ call ∈ after, call.installs = none

/-- If the request in force was given as one, it permits the frame rate set last. -/
def Allowed (calls : List BuilderCall) : Prop :=
  ∀ request after, InForce calls (.request request) after →
    request.Permits (lastRate request.preferredFps after)

def CaptureBuilder.called (system : CameraSystem Provider) (selector : DeviceSelector)
    (calls : List BuilderCall) : CaptureBuilder Provider :=
  calls.foldl CaptureBuilder.call (.new system selector)

/-! ### What `build` accepts -/

private theorem distinct_iff (formats : List CaptureFormat) :
    ¬ (1 < formats.length ∧
      (dedup (sortByKey (fun format => [format.toByte]) formats)).length ≠ formats.length) ↔
      formats.Nodup := by
  rw [not_and, not_not, length_dedup_iff VideoFormat.eq_of_byte]
  constructor
  · intro distinct
    by_cases several : 1 < formats.length
    · exact distinct several
    · cases formats with
      | nil => exact List.nodup_nil
      | cons format others =>
          obtain rfl : others = [] := by simpa using several
          exact List.nodup_singleton format
  · exact fun distinct _ => distinct

variable {request : CaptureRequest}

theorem minimum_iff :
    ¬ (request.minimumFps.any fun minimum => minimum.cmp request.preferredFps = .gt) = true ↔
      ∀ minimum, request.minimumFps = some minimum →
        minimum.numerator.toNat * request.preferredFps.denominator.toNat ≤
          request.preferredFps.numerator.toNat * minimum.denominator.toNat := by
  rw [Bool.not_eq_true, Option.any_eq_false]
  simp only [decide_eq_false_iff_not, FrameRate.cmp_gt_iff, Nat.not_lt]

theorem aspect_iff :
    ¬ (request.requiredAspectRatio.any fun (width, height) =>
        decide (width = 0 ∨ height = 0)) = true ↔
      ∀ width height, request.requiredAspectRatio = some (width, height) →
        width ≠ 0 ∧ height ≠ 0 := by
  rw [Bool.not_eq_true, Option.any_eq_false, Prod.forall]
  simp only [decide_eq_false_iff_not, not_or]

theorem permits_iff {rate : FrameRate} : request.Permits rate ↔
    (∀ minimum, request.minimumFps = some minimum →
      minimum.numerator.toNat * rate.denominator.toNat ≤
        rate.numerator.toNat * minimum.denominator.toNat) ∧
    (∀ width height, request.requiredAspectRatio = some (width, height) →
      width ≠ 0 ∧ height ≠ 0) ∧ request.preferredFormats.Nodup :=
  ⟨fun permits => ⟨permits.minimum, permits.aspect, permits.formats⟩,
    fun ⟨minimum, aspect, formats⟩ => ⟨minimum, aspect, formats⟩⟩

theorem permits_adjusted {width height : UInt32} {preferred rate : FrameRate} :
    CaptureRequest.Permits
        { request with width := width, height := height, preferredFps := preferred } rate ↔
      request.Permits rate := by
  rw [permits_iff, permits_iff]

theorem build_ok_iff {stream : StreamRequest} (streamed : request.toStreamRequest = .ok stream) :
    request.build = .ok request ↔ request.Permits request.preferredFps := by
  unfold CaptureRequest.build
  rw [streamed, permits_iff, ← minimum_iff, ← aspect_iff, ← distinct_iff]
  simp only [bind, Except.bind]
  split
  · next above => exact iff_of_false (by simp) fun all => all.1 above
  · next ordered =>
      split
      · next degenerate => exact iff_of_false (by simp) fun all => all.2.1 degenerate
      · next positive =>
          split
          · next repeated => exact iff_of_false (by simp) fun all => all.2.2 repeated
          · next distinct => exact iff_of_true rfl ⟨ordered, positive, distinct⟩

/-- The built-in profiles, which are expected to be valid. -/
theorem build_profile (profile : CaptureProfile) :
    profile.request.build = .ok profile.request := by
  cases profile <;> rfl

/-- A new builder's request, which is expected to be valid too. -/
theorem build_default : CaptureRequest.build {} = .ok {} := rfl

/-! ### Calls -/

variable {calls before after later : List BuilderCall} {given other : BuilderCall}

private theorem lastRate_cons (rate : FrameRate) (call : BuilderCall) (calls : List BuilderCall) :
    lastRate rate (call :: calls) = lastRate (call.rate.getD rate) calls := by
  rw [lastRate, lastRate, List.filterMap_cons]
  cases call.rate with
  | none => rfl
  | some value =>
      rw [List.getLast?_cons]
      rfl

theorem setters_request (kept : ∀ call ∈ calls, call.installs = none)
    (builder : CaptureBuilder Provider) :
    ∃ width height, (calls.foldl CaptureBuilder.call builder).request =
      { builder.request with
        width := width
        height := height
        preferredFps := lastRate builder.request.preferredFps calls } := by
  induction calls generalizing builder with
  | nil => exact ⟨_, _, rfl⟩
  | cons call rest ih =>
      obtain ⟨width, height, same⟩ :=
        ih (fun later there => kept later (List.mem_cons_of_mem call there)) (builder.call call)
      have setter := kept call List.mem_cons_self
      refine ⟨width, height, ?_⟩
      rw [List.foldl_cons, same, lastRate_cons]
      cases call with
      | resolution width height => rfl
      | frameRate value => rfl
      | profile chosen => contradiction
      | request request => contradiction

private theorem inForce_or_none (calls : List BuilderCall) :
    (∀ call ∈ calls, call.installs = none) ∨ ∃ given after, InForce calls given after := by
  induction calls with
  | nil => exact .inl fun call there => absurd there List.not_mem_nil
  | cons call rest ih =>
      rcases ih with kept | ⟨given, after, ⟨before, split⟩, replaces, kept⟩
      · by_cases setter : call.installs = none
        · refine .inl ?_
          intro later there
          rcases List.mem_cons.mp there with rfl | there
          · exact setter
          · exact kept later there
        · exact .inr ⟨call, rest, ⟨[], rfl⟩, setter, kept⟩
      · exact .inr ⟨given, after, ⟨call :: before, by rw [split, List.cons_append]⟩, replaces, kept⟩

theorem InForce.unique (first : InForce calls given after) (second : InForce calls other later) :
    given = other ∧ after = later := by
  obtain ⟨before, split⟩ := first.split
  obtain ⟨front, split'⟩ := second.split
  rw [split] at split'
  obtain ⟨between, -, rest⟩ | ⟨between, -, rest⟩ := List.append_eq_append_iff.mp split'
  · cases between with
    | nil => exact List.cons.inj rest
    | cons head tail =>
        obtain ⟨rfl, rfl⟩ := List.cons.inj rest
        exact absurd (first.kept other (List.mem_append_right tail List.mem_cons_self))
          second.replaces
  · cases between with
    | nil =>
        obtain ⟨same, same'⟩ := List.cons.inj rest
        exact ⟨same.symm, same'.symm⟩
    | cons head tail =>
        obtain ⟨rfl, rfl⟩ := List.cons.inj rest
        exact absurd (second.kept given (List.mem_append_right tail List.mem_cons_self))
          first.replaces

private theorem permits_profile (profile : CaptureProfile) (rate : FrameRate) :
    profile.request.Permits rate where
  minimum minimum present := by cases profile <;> contradiction
  aspect width height present := by cases profile <;> contradiction
  formats := by cases profile <;> decide

private theorem permits_default (rate : FrameRate) : CaptureRequest.Permits {} rate where
  minimum minimum present := by contradiction
  aspect width height present := by contradiction
  formats := List.nodup_nil

variable {system : CameraSystem Provider} {selector : DeviceSelector} {stream : StreamRequest}

private theorem permits_called_iff :
    (CaptureBuilder.called system selector calls).request.Permits
        (CaptureBuilder.called system selector calls).request.preferredFps ↔ Allowed calls := by
  rcases inForce_or_none calls with kept | ⟨given, after, force⟩
  · obtain ⟨width, height, same⟩ := setters_request kept (.new system selector)
    rw [CaptureBuilder.called, same, permits_adjusted]
    refine iff_of_true (permits_default _) ?_
    intro request after force
    obtain ⟨before, split⟩ := force.split
    have there : .request request ∈ calls := by
      rw [split]
      exact List.mem_append_right before List.mem_cons_self
    exact absurd (kept _ there) force.replaces
  · obtain ⟨before, split⟩ := force.split
    obtain ⟨width, height, same⟩ := setters_request force.kept
      ((CaptureBuilder.called system selector before).call given)
    have whole : CaptureBuilder.called system selector calls =
        after.foldl CaptureBuilder.call
          ((CaptureBuilder.called system selector before).call given) := by
      rw [split, CaptureBuilder.called, List.foldl_append, List.foldl_cons]
      rfl
    rw [whole, same, permits_adjusted]
    cases given with
    | profile chosen =>
        refine iff_of_true (permits_profile chosen _) ?_
        intro request later other
        cases (force.unique other).1
    | request request =>
        constructor
        · intro permits request' later other
          obtain ⟨same, rfl⟩ := force.unique other
          obtain rfl := BuilderCall.request.inj same
          exact permits
        · intro allowed
          exact allowed request after force
    | resolution width height => exact absurd rfl force.replaces
    | frameRate value => exact absurd rfl force.replaces

/-- Where `start` passes its check, `build` accepts the request exactly when the calls allow it. -/
theorem build_called_iff
    (started : (CaptureBuilder.called system selector calls).request.toStreamRequest = .ok stream) :
    (CaptureBuilder.called system selector calls).request.build =
        .ok (CaptureBuilder.called system selector calls).request ↔ Allowed calls :=
  (build_ok_iff started).trans permits_called_iff

/-- A rate above the minimum. -/
theorem build_called_iff_faster : ∃ stream,
    (CaptureBuilder.called usbThenV4l2 .default
      [.request { minimumFps := some ⟨15, 1⟩ }, .frameRate ⟨60, 1⟩]).request.toStreamRequest =
        .ok stream ∧
    ((CaptureBuilder.called usbThenV4l2 .default
      [.request { minimumFps := some ⟨15, 1⟩ }, .frameRate ⟨60, 1⟩]).request.build =
        .ok (CaptureBuilder.called usbThenV4l2 .default
          [.request { minimumFps := some ⟨15, 1⟩ }, .frameRate ⟨60, 1⟩]).request ↔
      Allowed [.request { minimumFps := some ⟨15, 1⟩ }, .frameRate ⟨60, 1⟩]) :=
  ⟨_, rfl, build_called_iff rfl⟩

/-- At least 30 frames a second were asked for, and 15 are then preferred. -/
theorem not_always_built :
    ¬ ∀ (system : CameraSystem Unit) (selector : DeviceSelector) (calls : List BuilderCall),
      (∀ request, .request request ∈ calls → request.build = .ok request) →
      ∀ stream, (CaptureBuilder.called system selector calls).request.toStreamRequest = .ok stream →
        (CaptureBuilder.called system selector calls).request.build =
          .ok (CaptureBuilder.called system selector calls).request := by
  intro always
  have given : ∀ request,
      .request request ∈ [BuilderCall.request { minimumFps := some ⟨30, 1⟩ }, .frameRate ⟨15, 1⟩] →
        request.build = .ok request := by
    intro request there
    rcases List.mem_cons.mp there with same | there
    · obtain rfl := BuilderCall.request.inj same
      rfl
    · exact absurd (List.mem_singleton.mp there) BuilderCall.noConfusion
  have built := always usbThenV4l2 .default _ given _ rfl
  have refused : (CaptureBuilder.called usbThenV4l2 .default
      [BuilderCall.request { minimumFps := some ⟨30, 1⟩ }, .frameRate ⟨15, 1⟩]).request.build =
      .error (.invalidConfig "Minimum frame rate exceeds preferred frame rate") := rfl
  rw [refused] at built
  contradiction

end CameraRs.Fallback

/-
Capture modes, what a device is said to support, and the ranking of configurations.

The list of configurations that a start tries is filtered, sorted and freed of repeats. It
gains nothing on the way. The distance of two frame rates is computed in floating point and
is a parameter here.
-/

import CameraRs.Config
import Mathlib.Data.List.Destutter
import Mathlib.Data.List.Sort

namespace CameraRs

/-- `CaptureFormat` has the members of `VideoFormat`, in the same order. -/
abbrev CaptureFormat := VideoFormat

namespace VideoFormat

def toByte : VideoFormat → Nat
  | .mjpeg => 0
  | .yuyv => 1
  | .uyvy => 2
  | .nv12 => 3
  | .rgb => 4
  | .h264 => 5
  | .gray => 6

end VideoFormat

def sortByKey {α : Type} (key : α → List Nat) (items : List α) : List α :=
  items.insertionSort fun a b => key a ≤ key b

def dedup {α : Type} [DecidableEq α] (items : List α) : List α := items.destutter (· ≠ ·)

private theorem mem_of_mem_dedup {α : Type} [DecidableEq α] {items : List α} {item : α}
    (there : item ∈ dedup items) : item ∈ items :=
  (List.destutter_sublist _ items).subset there

def FrameRate.standard : FrameRate := ⟨30, 1⟩

/-- `FrameRate::cmp`, in products that fit 64 bits. -/
def FrameRate.atLeast (rate minimum : FrameRate) : Bool :=
  decide (minimum.numerator.toNat * rate.denominator.toNat ≤
    rate.numerator.toNat * minimum.denominator.toNat)

def CameraConfig.frameRate (config : CameraConfig) : CameraResult FrameRate :=
  FrameRate.new config.fps config.fpsDenominator

structure CaptureMode where
  format : CaptureFormat
  width : UInt32
  height : UInt32
  frameRate : FrameRate
deriving DecidableEq, Repr

namespace CaptureMode

def fromConfig (config : CameraConfig) : CameraResult CaptureMode := do
  let rate ← config.frameRate
  return { format := config.format, width := config.width, height := config.height, frameRate := rate }

def toConfig (mode : CaptureMode) : CameraResult CameraConfig := do
  let config : CameraConfig :=
    ({ format := mode.format, width := mode.width, height := mode.height,
       fps := mode.frameRate.numerator } : CameraConfig).withFrameRate mode.frameRate
  config.validate
  return config

end CaptureMode

inductive CapabilityKnowledge (α : Type)
  | known (values : α)
  | representative (values : α) (reason : String)
  | unknown (reason : String)

inductive CapabilityRangeKind
  | discrete
  | continuous
  | stepwise

structure DimensionRange where
  minimum : UInt32
  maximum : UInt32
  step : UInt32

structure FrameInterval where
  numerator : UInt32
  denominator : UInt32

structure FrameIntervalRange where
  kind : CapabilityRangeKind
  minimum : FrameInterval
  maximum : FrameInterval
  step : Option FrameInterval
  atResolution : UInt32 × UInt32

structure CaptureModeRange where
  format : CaptureFormat
  kind : CapabilityRangeKind
  width : DimensionRange
  height : DimensionRange
  frameIntervals : List FrameIntervalRange

/-- Without the conversions that the build offers. -/
structure DeviceCapabilities where
  captureModes : CapabilityKnowledge (List CaptureMode)
  captureModeRanges : List CaptureModeRange
  nativeFormats : List CaptureFormat

namespace DeviceCapabilities

def fromModesUnchecked (modes : List CaptureMode) : DeviceCapabilities :=
  { captureModes := .known modes
    captureModeRanges := []
    nativeFormats :=
      dedup (sortByKey (fun format => [format.toByte]) (modes.map CaptureMode.format)) }

def singleNative (format : CaptureFormat) (width height : UInt32) (frameRate : FrameRate) :
    DeviceCapabilities :=
  fromModesUnchecked [{ format := format, width := width, height := height, frameRate := frameRate }]

def fromConfigurations (configurations : List CameraConfig) : DeviceCapabilities :=
  fromModesUnchecked (configurations.filterMap fun config => (CaptureMode.fromConfig config).toOption)

def modes (capabilities : DeviceCapabilities) : List CaptureMode :=
  match capabilities.captureModes with
  | .known modes | .representative modes _ => modes
  | .unknown _ => []

def configurations (capabilities : DeviceCapabilities) : CameraResult (List CameraConfig) :=
  match capabilities.captureModes with
  | .known modes | .representative modes _ => modes.mapM CaptureMode.toConfig
  | .unknown reason => .error (.unsupportedFormat ("Capture modes are unknown: " ++ reason))

def withRanges (capabilities : DeviceCapabilities) (ranges : List CaptureModeRange) :
    DeviceCapabilities :=
  if ranges.isEmpty then capabilities
  else
    { capabilities with
      captureModes :=
        match capabilities.captureModes with
        | .known modes => .representative modes
            "backend advertises ranged modes; listed modes are representative samples"
        | other => other
      captureModeRanges := ranges }

@[simp] theorem modes_fromConfigurations (configurations : List CameraConfig) :
    (fromConfigurations configurations).modes =
      configurations.filterMap fun config => (CaptureMode.fromConfig config).toOption :=
  rfl

@[simp] theorem modes_withRanges (capabilities : DeviceCapabilities)
    (ranges : List CaptureModeRange) :
    (capabilities.withRanges ranges).modes = capabilities.modes := by
  unfold withRanges
  split
  · rfl
  · cases knowledge : capabilities.captureModes with
    | known values => simp [modes, knowledge]
    | representative values reason => simp [modes, knowledge]
    | unknown reason => simp [modes, knowledge]

theorem ranges_withRanges {capabilities : DeviceCapabilities} {ranges : List CaptureModeRange}
    (unranged : capabilities.captureModeRanges = []) :
    (capabilities.withRanges ranges).captureModeRanges = ranges := by
  unfold withRanges
  split
  · next none => rw [unranged, List.isEmpty_iff.mp none]
  · rfl

theorem exists_of_mapM {α β : Type} {f : α → CameraResult β} {items : List α} {results : List β}
    (mapped : items.mapM f = .ok results) {result : β} (there : result ∈ results) :
    ∃ item ∈ items, f item = .ok result := by
  induction items generalizing results with
  | nil =>
      obtain rfl : [] = results := by simpa [pure, Except.pure] using mapped
      contradiction
  | cons item rest ih =>
      rw [List.mapM_cons] at mapped
      cases first : f item with
      | error e => simp [first, bind, Except.bind] at mapped
      | ok value =>
          cases others : rest.mapM f with
          | error e => simp [first, others, bind, Except.bind] at mapped
          | ok values =>
              simp only [first, others, bind, Except.bind, pure, Except.pure, Except.ok.injEq]
                at mapped
              subst mapped
              rcases List.mem_cons.mp there with rfl | later
              · exact ⟨item, List.mem_cons_self, first⟩
              · obtain ⟨source, member, same⟩ := ih others later
                exact ⟨source, List.mem_cons_of_mem item member, same⟩

theorem configurations_listed {capabilities : DeviceCapabilities} {configs : List CameraConfig}
    (made : capabilities.configurations = .ok configs) {config : CameraConfig}
    (there : config ∈ configs) : ∃ mode ∈ capabilities.modes, mode.toConfig = .ok config := by
  cases knowledge : capabilities.captureModes with
  | known values =>
      simp only [configurations, knowledge] at made
      simpa [modes, knowledge] using exists_of_mapM made there
  | representative values reason =>
      simp only [configurations, knowledge] at made
      simpa [modes, knowledge] using exists_of_mapM made there
  | unknown reason => simp [configurations, knowledge] at made

end DeviceCapabilities

inductive NegotiationPriority
  | lowLatency
  | lowCpu
  | lowBandwidth
  | fidelity

/-- The part of `CaptureRequest` that negotiation reads. -/
structure CaptureRequest where
  width : UInt32 := 640
  height : UInt32 := 480
  preferredFps : FrameRate := .standard
  minimumFps : Option FrameRate := none
  preferredFormats : List CaptureFormat := []
  priority : NegotiationPriority := .lowCpu
  exactResolution : Bool := false
  requiredAspectRatio : Option (UInt32 × UInt32) := none

namespace CaptureRequest

/-- The closure of `retain`. -/
def accepts (request : CaptureRequest) (config : CameraConfig) : Bool :=
  config.validate.isOk &&
  (request.preferredFormats.isEmpty || request.preferredFormats.contains config.format) &&
  (request.minimumFps.all fun minimum =>
    config.frameRate.toOption.any fun rate => rate.atLeast minimum) &&
  (!request.exactResolution ||
    decide (config.width = request.width ∧ config.height = request.height)) &&
  (request.requiredAspectRatio.all fun (width, height) =>
    decide (config.width.toNat * height.toNat = config.height.toNat * width.toNat))

def preference (request : CaptureRequest) (format : VideoFormat) : Nat :=
  request.preferredFormats.idxOf format

def cost (request : CaptureRequest) (format : VideoFormat) : Nat :=
  match request.priority, format with
  | .lowCpu, .rgb | .lowCpu, .nv12 | .lowCpu, .yuyv | .lowCpu, .uyvy => 0
  | .lowCpu, .gray => 1
  | .lowCpu, .mjpeg => 2
  | .lowCpu, .h264 => 3
  | .lowBandwidth, .h264 => 0
  | .lowBandwidth, .mjpeg => 1
  | .lowBandwidth, .nv12 | .lowBandwidth, .gray => 2
  | .lowBandwidth, _ => 3
  | .lowLatency, .nv12 | .lowLatency, .yuyv | .lowLatency, .uyvy | .lowLatency, .rgb => 0
  | .lowLatency, .gray => 1
  | .lowLatency, _ => 2
  | .fidelity, _ => 0

def resolutionDelta (request : CaptureRequest) (config : CameraConfig) : Nat :=
  ((config.width.toNat : Int) - request.width.toNat).natAbs +
    ((config.height.toNat : Int) - request.height.toNat).natAbs

/-- The configuration that asks for exactly what was requested. -/
def configFor (request : CaptureRequest) (format : VideoFormat) : CameraConfig :=
  ({ format := format, width := request.width, height := request.height,
     fps := request.preferredFps.numerator } : CameraConfig).withFrameRate request.preferredFps

variable (rateDelta : FrameRate → FrameRate → Nat)

def rankKey (request : CaptureRequest) (config : CameraConfig) : List Nat :=
  let frameRateDelta :=
    match config.frameRate with
    | .ok rate => rateDelta rate request.preferredFps
    | .error _ => 2 ^ 64 - 1
  [request.preference config.format, request.cost config.format,
    request.resolutionDelta config, frameRateDelta]

def rankCaptureConfigurations (request : CaptureRequest) (configurations : List CameraConfig) :
    CameraResult (List CameraConfig) :=
  let ranked := dedup (sortByKey (request.rankKey rateDelta)
    (configurations.filter request.accepts))
  if ranked.isEmpty then
    .error (.unsupportedFormat "No capture mode satisfies the required constraints")
  else .ok ranked

variable {rateDelta} {request : CaptureRequest}

theorem ranked_listed {configurations ranked : List CameraConfig}
    (accepted : request.rankCaptureConfigurations rateDelta configurations = .ok ranked)
    {config : CameraConfig} (there : config ∈ ranked) :
    config ∈ configurations ∧ request.accepts config = true := by
  simp only [rankCaptureConfigurations] at accepted
  split at accepted
  · contradiction
  · obtain rfl := Except.ok.inj accepted
    exact List.mem_filter.mp ((List.mem_insertionSort _).mp (mem_of_mem_dedup there))

end CaptureRequest

/-- The loop of `start_inner`: one result for each configuration tried, until one succeeds
or the results end because the session is stopping or its caller has gone. -/
def attempted : List CameraConfig → List Bool → List CameraConfig
  | config :: rest, succeeded :: later =>
      config :: if succeeded then [] else attempted rest later
  | _, _ => []

theorem attempted_listed {candidates : List CameraConfig} {results : List Bool}
    {config : CameraConfig} (tried : config ∈ attempted candidates results) :
    config ∈ candidates := by
  induction candidates generalizing results with
  | nil => cases results <;> contradiction
  | cons first rest ih =>
      cases results with
      | nil => contradiction
      | cons succeeded later =>
          rcases List.mem_cons.mp tried with rfl | beyond
          · exact List.mem_cons_self
          · cases succeeded with
            | true => contradiction
            | false => exact List.mem_cons_of_mem first (ih beyond)

end CameraRs

/-
Frame intervals of a UVC device.

A descriptor counts in units of 100 nanoseconds. The interval is listed as a reduced rate, and
the start divides with rounding to get the interval back. Reducing by a common divisor changes
neither the quotient nor, since it is exact, its rounding.
-/

import CameraRs.Negotiation.Ranking

namespace CameraRs.Uvc

/-- `UvcFrameDesc`; the array is the memory behind `intervals`, unless that is null. -/
structure FrameDesc where
  width : UInt16
  height : UInt16
  defaultFrameInterval : UInt32
  minFrameInterval : UInt32
  maxFrameInterval : UInt32
  frameIntervalStep : UInt32
  frameIntervalType : UInt8
  intervals : Option (List UInt32)

structure FormatDesc where
  subtype : UInt8
  guid : List UInt8
  frames : List FrameDesc

def descriptorFormat (subtype : UInt8) (guid : List UInt8) : Option VideoFormat :=
  if subtype = 0x06 then some .mjpeg
  else if subtype ≠ 0x04 then none
  else if guid.drop 4 ≠ [0, 0, 16, 0, 128, 0, 0, 170, 0, 56, 155, 113] then none
  else if guid.take 4 = [89, 85, 89, 50] ∨ guid.take 4 = [89, 85, 89, 86] then some .yuyv
  else if guid.take 4 = [85, 89, 86, 89] then some .uyvy
  else none

/-- The intervals of the whole rates that a continuous or stepwise range offers. -/
def sampledIntervals (frame : FrameDesc) : List UInt32 :=
  ((List.range' 1 240).map fun fps => UInt32.ofNat (10000000 / fps)).filter fun interval =>
    decide (frame.minFrameInterval ≤ interval) && decide (interval ≤ frame.maxFrameInterval) &&
      (decide (frame.frameIntervalStep = 0) ||
        decide ((interval - frame.minFrameInterval) % frame.frameIntervalStep = 0))

/-- The vector `intervals` of `descriptor_frame_rates`. -/
def listedIntervals (frame : FrameDesc) : List UInt32 :=
  frame.defaultFrameInterval ::
    if frame.frameIntervalType = 0 then
      [frame.minFrameInterval, frame.maxFrameInterval] ++ sampledIntervals frame
    else
      match frame.intervals with
      | some listed => listed.take frame.frameIntervalType.toNat
      | none => []

def descriptorFrameRates (frame : FrameDesc) : List FrameRate :=
  dedup (sortByKey (fun rate => [rate.numerator.toNat, rate.denominator.toNat])
    (((listedIntervals frame).filter fun i => decide (0 < i)).filterMap fun i =>
      (FrameRate.new 10000000 i).toOption))

/-- The configurations of one frame descriptor, in the order of its rates. -/
def frameConfigs (format : VideoFormat) (frame : FrameDesc) : List CameraConfig :=
  let width := frame.width.toUInt32
  let height := frame.height.toUInt32
  if 0 < width ∧ 0 < height then
    (descriptorFrameRates frame).map fun rate =>
      ({ format := format, width := width, height := height,
         fps := rate.numerator } : CameraConfig).withFrameRate rate
  else []

def pushNew (configs : List CameraConfig) (candidate : CameraConfig) : List CameraConfig :=
  if candidate ∈ configs then configs else configs ++ [candidate]

def supportedConfigs (formats : List FormatDesc) : List CameraConfig :=
  (formats.flatMap fun format =>
    match descriptorFormat format.subtype format.guid with
    | some video => format.frames.flatMap (frameConfigs video)
    | none => []).foldl pushNew []

/-- The result of a `u64` operation; `none` is an overflow. -/
def u64 (n : Nat) : Option Nat := if n < 2 ^ 64 then some n else none

/-- The interval that `start_sync` sets before it probes; `none` is an overflow or a division
by zero. -/
def frameInterval (config : CameraConfig) : Option (CameraResult UInt32) := do
  let scaled ← u64 (10000000 * config.fpsDenominator.toNat)
  let rounded ← u64 (scaled + config.fps.toNat / 2)
  if config.fps = 0 then none
  else
    let interval := rounded / config.fps.toNat
    if interval < 2 ^ 32 then
      if interval = 0 then some (.error (.invalidConfig "UVC frame interval is zero"))
      else some (.ok (UInt32.ofNat interval))
    else some (.error (.invalidConfig "UVC frame interval overflow"))

def HasRate (config : CameraConfig) (rate : FrameRate) : Prop :=
  config.fps = rate.numerator ∧ config.fpsDenominator = rate.denominator

/-- The rate of an interval is listed wherever the interval is, a mode keeps it, and a start
sets the interval again. -/
structure RoundTrip (i : UInt32) (rate : FrameRate) : Prop where
  rates : ∀ frame, i ∈ listedIntervals frame → rate ∈ descriptorFrameRates frame
  listed : ∀ (formats : List FormatDesc) format video frame, format ∈ formats →
    descriptorFormat format.subtype format.guid = some video → frame ∈ format.frames →
    0 < frame.width → 0 < frame.height → i ∈ listedIntervals frame →
    ∃ config ∈ supportedConfigs formats, config.format = video ∧
      config.width = frame.width.toUInt32 ∧ config.height = frame.height.toUInt32 ∧
      HasRate config rate
  carried : ∀ config, HasRate config rate → ∃ mode, CaptureMode.fromConfig config = .ok mode ∧
    mode.frameRate = rate ∧ (config.validate = .ok () → mode.toConfig = .ok config)
  programmed : ∀ config, HasRate config rate → frameInterval config = some (.ok i)

/-! ### What is listed -/

variable {n d i : UInt32} {rate : FrameRate} {frame : FrameDesc} {config : CameraConfig}

private theorem mem_descriptorFrameRates : rate ∈ descriptorFrameRates frame ↔
    ∃ i ∈ listedIntervals frame, 0 < i ∧ FrameRate.new 10000000 i = .ok rate := by
  rw [descriptorFrameRates, mem_dedup, mem_sortByKey, List.mem_filterMap]
  constructor
  · rintro ⟨i, member, made⟩
    obtain ⟨there, positive⟩ := List.mem_filter.mp member
    refine ⟨i, there, of_decide_eq_true positive, ?_⟩
    cases new : FrameRate.new 10000000 i with
    | error e => simp [new, Except.toOption] at made
    | ok found =>
        rw [new] at made
        exact congrArg Except.ok (Option.some.inj made)
  · rintro ⟨i, there, positive, made⟩
    refine ⟨i, List.mem_filter.mpr ⟨there, decide_eq_true positive⟩, ?_⟩
    rw [made]
    rfl

private theorem mem_pushNew {configs : List CameraConfig} {candidate : CameraConfig} :
    config ∈ pushNew configs candidate ↔ config ∈ configs ∨ config = candidate := by
  unfold pushNew
  split
  · next there =>
      constructor
      · exact .inl
      · rintro (before | rfl)
        · exact before
        · exact there
  · rw [List.mem_append, List.mem_singleton]

private theorem mem_foldl_pushNew {configs candidates : List CameraConfig} :
    config ∈ candidates.foldl pushNew configs ↔ config ∈ configs ∨ config ∈ candidates := by
  induction candidates generalizing configs with
  | nil => simp
  | cons candidate rest ih =>
      rw [List.foldl_cons, ih, mem_pushNew, List.mem_cons, or_assoc]

private theorem mem_supportedConfigs {formats : List FormatDesc} {format : FormatDesc}
    {video : VideoFormat} (there : format ∈ formats)
    (known : descriptorFormat format.subtype format.guid = some video)
    (described : frame ∈ format.frames) (offered : config ∈ frameConfigs video frame) :
    config ∈ supportedConfigs formats := by
  rw [supportedConfigs, mem_foldl_pushNew, List.mem_flatMap]
  refine .inr ⟨format, there, ?_⟩
  rw [known]
  exact List.mem_flatMap.mpr ⟨frame, described, offered⟩

/-! ### The interval of a rate -/

private theorem rounded_exact {reduced common : Nat} (positive : 0 < reduced) :
    (reduced * common + reduced / 2) / reduced = common := by
  rw [Nat.mul_add_div positive, Nat.div_eq_of_lt (Nat.div_lt_self positive Nat.one_lt_two),
    Nat.add_zero]

private theorem frameInterval_rate (made : FrameRate.new 10000000 i = .ok rate)
    (has : HasRate config rate) : frameInterval config = some (.ok i) := by
  obtain ⟨divisor, _, n, d⟩ := FrameRate.new_reduced made
  have positive := FrameRate.new_positive made
  have n_pos : 0 < rate.numerator.toNat := toNat_pos positive.1
  have i_pos : 0 < i.toNat := by
    have d_pos : 0 < rate.denominator.toNat := toNat_pos positive.2
    have common : 0 < divisor := Nat.pos_of_ne_zero fun zero => by
      rw [zero, Nat.mul_zero] at n
      exact absurd n (by decide)
    rw [← d]
    exact Nat.mul_pos d_pos common
  have i_lt : i.toNat < 2 ^ 32 := i.toNat_lt
  have d_lt := rate.denominator.toNat_lt
  have n_lt := rate.numerator.toNat_lt
  -- the divisor that was taken out of both numbers goes from one factor to the other
  have scaled : 10000000 * rate.denominator.toNat = rate.numerator.toNat * i.toNat := by
    have n' : rate.numerator.toNat * divisor = 10000000 := n
    rw [← n', ← d, Nat.mul_assoc, Nat.mul_comm divisor]
  have first : u64 (10000000 * rate.denominator.toNat) =
      some (10000000 * rate.denominator.toNat) := if_pos (by omega)
  have second : u64 (10000000 * rate.denominator.toNat + rate.numerator.toNat / 2) =
      some (10000000 * rate.denominator.toNat + rate.numerator.toNat / 2) := if_pos (by omega)
  have quotient : (10000000 * rate.denominator.toNat + rate.numerator.toNat / 2) /
      rate.numerator.toNat = i.toNat := by
    rw [scaled, rounded_exact n_pos]
  unfold frameInterval
  rw [has.1, has.2, first, Option.bind_eq_bind, Option.bind_some, second, Option.bind_some,
    if_neg positive.1]
  dsimp only
  rw [quotient, if_pos i_lt, if_neg i_pos.ne', UInt32.ofNat_toNat]

/-- Every interval of a descriptor is the interval that a start at its rate sets. -/
theorem interval_round_trip (positive : 0 < i) :
    ∃ rate, FrameRate.new 10000000 i = .ok rate ∧ RoundTrip i rate := by
  have i_ne : i ≠ 0 := UInt32.pos_iff_ne_zero.mp positive
  obtain ⟨rate, made⟩ := FrameRate.new_ok (by decide : (10000000 : UInt32) ≠ 0) i_ne
  have rates (frame : FrameDesc) (there : i ∈ listedIntervals frame) :
      rate ∈ descriptorFrameRates frame :=
    mem_descriptorFrameRates.mpr ⟨i, there, positive, made⟩
  refine ⟨rate, made, ?_⟩
  exact
    { rates := rates
      listed := by
        intro formats format video frame there known described wide tall listed
        have dims : 0 < frame.width.toUInt32 ∧ 0 < frame.height.toUInt32 := ⟨wide, tall⟩
        refine ⟨⟨video, frame.width.toUInt32, frame.height.toUInt32, rate.numerator,
          rate.denominator⟩, mem_supportedConfigs there known described ?_, rfl, rfl, rfl, rfl, rfl⟩
        rw [frameConfigs, if_pos dims]
        exact List.mem_map_of_mem (rates frame listed)
      carried := by
        intro config has
        have known : config.frameRate = .ok rate := by
          rw [CameraConfig.frameRate, has.1, has.2]
          exact FrameRate.new_again made
        refine ⟨⟨config.format, config.width, config.height, rate⟩, ?_, rfl, fun accepted => ?_⟩
        · rw [CaptureMode.fromConfig, known]
          rfl
        · obtain ⟨format, width, height, fps, fpsDenominator⟩ := config
          obtain ⟨rfl, rfl⟩ := has
          change (CameraConfig.validate ⟨format, width, height, rate.numerator,
            rate.denominator⟩ >>= fun _ => pure _) = _
          rw [accepted]
          rfl
      programmed := fun config has => frameInterval_rate made has }

theorem interval_round_trip_ntsc :
    0 < (333667 : UInt32) ∧ ∃ rate, FrameRate.new 10000000 333667 = .ok rate ∧
      RoundTrip 333667 rate :=
  ⟨by decide, interval_round_trip (by decide)⟩

end CameraRs.Uvc

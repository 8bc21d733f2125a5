/-
The media types of a source reader: the modes that are listed from them, the one that a start
sets, and the one that is read back as the format of the stream.

A native type may offer up to three rates, and a start writes the rate that was asked for into
the type, reduced or not, before it hands it to the reader.
-/

import CameraRs.FrameRate

namespace CameraRs.MediaFoundation

/-! ### Subtypes -/

structure Guid where
  data1 : UInt32
  data2 : UInt16
  data3 : UInt16
  data4 : List UInt8
deriving DecidableEq

def videoFormatGuid (code : UInt32) : Guid :=
  ⟨code, 0x0000, 0x0010, [0x80, 0x00, 0x00, 0xAA, 0x00, 0x38, 0x9B, 0x71]⟩

def MF_VIDEO_FORMAT_YUY2 : Guid := videoFormatGuid 0x32595559
def MF_VIDEO_FORMAT_MJPEG : Guid := videoFormatGuid 0x47504A4D
def MF_VIDEO_FORMAT_GRAY : Guid := videoFormatGuid 0x30303859
def MF_VIDEO_FORMAT_NV12 : Guid := videoFormatGuid 0x3231564E
def MF_VIDEO_FORMAT_RGB24 : Guid := videoFormatGuid 0x00000014
def MF_VIDEO_FORMAT_UYVY : Guid := videoFormatGuid 0x59565559

def guidToFormat (guid : Guid) : Option VideoFormat :=
  if guid = MF_VIDEO_FORMAT_YUY2 then some .yuyv
  else if guid = MF_VIDEO_FORMAT_MJPEG then some .mjpeg
  else if guid = MF_VIDEO_FORMAT_NV12 then some .nv12
  else if guid = MF_VIDEO_FORMAT_RGB24 then some .rgb
  else if guid = MF_VIDEO_FORMAT_GRAY then some .gray
  else if guid = MF_VIDEO_FORMAT_UYVY then some .uyvy
  else none

def formatToGuid : VideoFormat → Option Guid
  | .yuyv => some MF_VIDEO_FORMAT_YUY2
  | .mjpeg => some MF_VIDEO_FORMAT_MJPEG
  | .nv12 => some MF_VIDEO_FORMAT_NV12
  | .rgb => some MF_VIDEO_FORMAT_RGB24
  | .gray => some MF_VIDEO_FORMAT_GRAY
  | .uyvy => some MF_VIDEO_FORMAT_UYVY
  | _ => none

/-! ### Media types and the reader -/

/-- An `IMFMediaType`: what each getter answers. -/
structure MediaType where
  subtype : Except Int32 Guid
  frameSize : Except Int32 UInt64
  frameRate : Except Int32 UInt64
  frameRateRangeMax : Except Int32 UInt64
  frameRateRangeMin : Except Int32 UInt64
  yuvMatrix : Except Int32 UInt32
  videoNominalRange : Except Int32 UInt32
  defaultStride : Except Int32 UInt32

/-- An `IMFSourceReader`; `native` ends where `GetNativeMediaType` first fails. -/
structure SourceReader where
  native : List MediaType
  setUint64 : MediaType → UInt64 → Except Int32 MediaType
  setCurrentMediaType : MediaType → Except Int32 MediaType
  current : Except Int32 MediaType

def high (raw : UInt64) : UInt32 := (raw >>> 32).toUInt32

def low (raw : UInt64) : UInt32 := raw.toUInt32

def pack (first second : UInt32) : UInt64 := (first.toUInt64 <<< 32) ||| second.toUInt64

/-! ### `get_compatible_formats` -/

def pushRate (rates : List FrameRate) (raw : Except Int32 UInt64) : List FrameRate :=
  match raw with
  | .error _ => rates
  | .ok raw =>
    match FrameRate.new (high raw) (low raw) with
    | .error _ => rates
    | .ok rate => if rate ∈ rates then rates else rates ++ [rate]

def getFrameRates (media : MediaType) : List FrameRate :=
  [media.frameRate, media.frameRateRangeMax, media.frameRateRangeMin].foldl pushRate []

def configAt (format : VideoFormat) (size : UInt64) (rate : FrameRate) : CameraConfig :=
  ({ format := format, width := high size, height := low size, fps := rate.numerator } :
    CameraConfig).withFrameRate rate

/-- One round of the loop of `get_compatible_formats`. -/
def compatibleFormats (media : MediaType) : List CameraConfig :=
  match media.subtype with
  | .error _ => []
  | .ok guid =>
    match guidToFormat guid with
    | none => []
    | some format =>
      match media.frameSize with
      | .error _ => []
      | .ok size => (getFrameRates media).map (configAt format size)

def getCompatibleFormats (reader : SourceReader) : List CameraConfig :=
  reader.native.flatMap compatibleFormats

def frameRate (config : CameraConfig) : CameraResult FrameRate :=
  FrameRate.new config.fps config.fpsDenominator

/-- The test of `is_config_supported`. -/
def sameMode (listed config : CameraConfig) : Bool :=
  listed.width == config.width && listed.height == config.height &&
    (frameRate listed).toOption == (frameRate config).toOption && listed.format == config.format

def isConfigSupported (listed : List CameraConfig) (config : CameraConfig) : Bool :=
  listed.any fun known => sameMode known config

/-! ### `set_media_format` -/

section Calls

variable (mfError : Int32 → CameraError) (text : Int32 → String) (debug : CameraConfig → String)

/-- The three checks of the loop of `set_media_format`. -/
def offers (media : MediaType) (target : Guid) (config : CameraConfig) : CameraResult Bool :=
  match media.subtype with
  | .error _ => .ok false
  | .ok guid =>
    if guid ≠ target then .ok false
    else
      match media.frameSize with
      | .error _ => .ok false
      | .ok size =>
        if high size ≠ config.width ∨ low size ≠ config.height then .ok false
        else (frameRate config).map fun rate => decide (rate ∈ getFrameRates media)

def setFirst (reader : SourceReader) (target : Guid) (config : CameraConfig) :
    List MediaType → Option Int32 → CameraResult SourceReader
  | [], some error => .error (.invalidConfig ("Failed to set format: " ++ text error))
  | [], none => .error (.invalidConfig ("No matching format found for " ++ debug config))
  | media :: rest, lastError =>
    match offers media target config with
    | .error error => .error error
    | .ok offered =>
      if offered then
        match reader.setUint64 media (pack config.fps config.fpsDenominator) with
        | .error error => .error (mfError error)
        | .ok media =>
          match reader.setCurrentMediaType media with
          | .ok current => .ok { reader with current := .ok current }
          | .error error => setFirst reader target config rest (some error)
      else setFirst reader target config rest lastError

def setMediaFormat (reader : SourceReader) (config : CameraConfig) : CameraResult SourceReader :=
  match formatToGuid config.format with
  | none => .error (.unsupportedFormat ("Unsupported format: " ++ config.format.name))
  | some target => setFirst mfError text debug reader target config reader.native none

/-! ### `refresh_format` -/

def resolveColor (matrix range : Option UInt32) (width height : UInt32) :
    CameraResult ColorInfo := do
  let matrix ← match matrix.getD 0 with
    | 0 => if width ≤ 1024 ∧ height ≤ 576 then .ok ColorMatrix.bt601 else .ok .bt709
    | 1 => .ok .bt709
    | 2 => .ok .bt601
    | 3 => .ok .smpte240M
    | 4 | 5 => .ok .bt2020
    | value => .error (.unsupportedFormat ("MF YUV matrix " ++ toString value))
  let range ← match range.getD 0 with
    | 0 | 2 => .ok ColorRange.limited
    | 1 => .ok .full
    | value => .error (.unsupportedFormat ("MF nominal range " ++ toString value))
  return { matrix := matrix, range := range }

def mediaColor (media : MediaType) (format : VideoFormat) (width height : UInt32) :
    CameraResult ColorInfo :=
  if format = .yuyv ∨ format = .uyvy ∨ format = .nv12 then
    resolveColor media.yuvMatrix.toOption media.videoNominalRange.toOption width height
  else .ok {}

/-- The stride of a type that names none is that of whole rows. -/
def mediaStride (media : MediaType) (format : VideoFormat) (width : UInt32) : Int32 :=
  let pixelBytes := match format with
    | .yuyv | .uyvy => 2
    | .rgb => 3
    | _ => 1
  (media.defaultStride.toOption.getD (width * pixelBytes)).toInt32

/-- What `refresh_format` stores in the worker. -/
structure StreamFormat where
  config : CameraConfig
  color : ColorInfo
  stride : Int32
deriving DecidableEq

def refreshFormat (reader : SourceReader) : CameraResult StreamFormat := do
  let media ← reader.current.mapError mfError
  let size ← media.frameSize.mapError mfError
  let guid ← media.subtype.mapError mfError
  match guidToFormat guid with
  | none => throw (.unsupportedFormat "MF subtype")
  | some format =>
    let raw ← media.frameRate.mapError mfError
    let rate ← FrameRate.new (high raw) (low raw)
    let color ← mediaColor media format (high size) (low size)
    return ⟨configAt format size rate, color, mediaStride media format (high size)⟩

end Calls

/-! ### Packed attributes -/

theorem toNat_pack (first second : UInt32) :
    (pack first second).toNat = first.toNat * 2 ^ 32 + second.toNat := by
  have room : first.toNat <<< 32 < 2 ^ 64 := by
    have := first.toNat_lt
    rw [Nat.shiftLeft_eq]
    omega
  rw [pack, UInt64.toNat_or, UInt64.toNat_shiftLeft, UInt32.toNat_toUInt64,
    UInt32.toNat_toUInt64]
  change first.toNat <<< 32 % 2 ^ 64 ||| second.toNat = _
  rw [Nat.mod_eq_of_lt room, ← Nat.shiftLeft_add_eq_or_of_lt second.toNat_lt, Nat.shiftLeft_eq]

private theorem high_pack (first second : UInt32) : high (pack first second) = first := by
  apply UInt32.toNat_inj.mp
  rw [high, UInt64.toNat_toUInt32, UInt64.toNat_shiftRight, toNat_pack]
  change (first.toNat * 2 ^ 32 + second.toNat) >>> 32 % 2 ^ 32 = _
  have := first.toNat_lt
  have := second.toNat_lt
  rw [Nat.shiftRight_eq_div_pow]
  omega

private theorem low_pack (first second : UInt32) : low (pack first second) = second := by
  apply UInt32.toNat_inj.mp
  rw [low, UInt64.toNat_toUInt32, toNat_pack]
  have := second.toNat_lt
  omega

/-! ### What is listed -/

theorem guidToFormat_iff {guid : Guid} {format : VideoFormat} :
    guidToFormat guid = some format ↔ formatToGuid format = some guid := by
  constructor
  · intro named
    unfold guidToFormat at named
    split_ifs at named <;> cases named <;> subst guid <;> rfl
  · intro named
    cases format <;> cases named <;> rfl

private theorem getFrameRates_made {media : MediaType} {rate : FrameRate}
    (member : rate ∈ getFrameRates media) : FrameRate.new rate.numerator rate.denominator =
      .ok rate := by
  have made : ∀ rate ∈ getFrameRates media, ∃ first second,
      FrameRate.new first second = .ok rate := by
    refine List.foldlRecOn (motive := fun rates => ∀ rate ∈ rates, ∃ first second,
      FrameRate.new first second = .ok rate) _ pushRate (fun _ none => nomatch none) ?_
    intro rates known raw _ rate member
    unfold pushRate at member
    split at member
    · exact known rate member
    · split at member
      · exact known rate member
      · next new =>
        split at member
        · exact known rate member
        · rcases List.mem_append.mp member with old | last
          · exact known rate old
          · rw [List.mem_singleton.mp last]
            exact ⟨_, _, new⟩
  obtain ⟨first, second, new⟩ := made rate member
  exact FrameRate.new_again new

private theorem frameRate_configAt {media : MediaType} {rate : FrameRate} (format : VideoFormat)
    (size : UInt64) (member : rate ∈ getFrameRates media) :
    frameRate (configAt format size rate) = .ok rate :=
  getFrameRates_made member

theorem sameMode_configAt {media : MediaType} {rate : FrameRate} {format : VideoFormat}
    {size : UInt64} {config : CameraConfig} (member : rate ∈ getFrameRates media) :
    sameMode (configAt format size rate) config = true ↔
      high size = config.width ∧ low size = config.height ∧ frameRate config = .ok rate ∧
        format = config.format := by
  have reduced : (Except.ok rate : CameraResult FrameRate).toOption =
      (frameRate config).toOption ↔ frameRate config = .ok rate := by
    cases frameRate config with
    | error error => exact Iff.intro (fun same => nomatch same) fun same => nomatch same
    | ok found =>
        exact Iff.intro (fun same => congrArg Except.ok (Option.some.inj same).symm)
          fun same => congrArg some (Except.ok.inj same).symm
  rw [sameMode, frameRate_configAt format size member, Bool.and_eq_true, Bool.and_eq_true,
    Bool.and_eq_true, beq_iff_eq, beq_iff_eq, beq_iff_eq, beq_iff_eq, reduced, and_assoc,
    and_assoc]
  exact Iff.rfl

theorem mem_compatibleFormats {media : MediaType} {listed : CameraConfig} :
    listed ∈ compatibleFormats media ↔ ∃ guid format size rate, media.subtype = .ok guid ∧
      guidToFormat guid = some format ∧ media.frameSize = .ok size ∧
      rate ∈ getFrameRates media ∧ configAt format size rate = listed := by
  unfold compatibleFormats
  cases subtype : media.subtype with
  | error error => simp
  | ok guid =>
      cases named : guidToFormat guid with
      | none => simp [named]
      | some format =>
          cases sized : media.frameSize with
          | error error => simp [named]
          | ok size => simp [named]

/-! ### What a start sets -/

/-- A type that a start with this configuration hands to the reader. -/
def Candidate (config : CameraConfig) (media : MediaType) : Prop :=
  ∃ target, formatToGuid config.format = some target ∧ offers media target config = .ok true

theorem offers_iff {media : MediaType} {target : Guid} {config : CameraConfig} :
    offers media target config = .ok true ↔ media.subtype = .ok target ∧
      ∃ size rate, media.frameSize = .ok size ∧ high size = config.width ∧
        low size = config.height ∧ frameRate config = .ok rate ∧
        rate ∈ getFrameRates media := by
  constructor
  · intro offered
    unfold offers at offered
    split at offered
    · cases offered
    · next guid subtype =>
      split at offered
      · cases offered
      · next named =>
        split at offered
        · cases offered
        · next size sized =>
          split at offered
          · cases offered
          · next same =>
            rw [not_or, not_not, not_not] at same
            cases rated : frameRate config with
            | error error =>
                rw [rated] at offered
                cases offered
            | ok rate =>
                rw [rated] at offered
                exact ⟨by rw [subtype, not_not.mp named], size, rate, sized, same.1, same.2, rfl,
                  of_decide_eq_true (Except.ok.inj offered)⟩
  · rintro ⟨subtype, size, rate, sized, width, height, rated, member⟩
    simp only [offers, subtype, sized, width, height, rated, ne_eq, not_true_eq_false, or_self,
      if_false, Except.map, member, decide_true]

private theorem supported_iff {media : MediaType} {config : CameraConfig} :
    isConfigSupported (compatibleFormats media) config = true ↔ Candidate config media := by
  rw [isConfigSupported, List.any_eq_true]
  constructor
  · rintro ⟨listed, member, same⟩
    obtain ⟨guid, format, size, rate, subtype, named, sized, offered, rfl⟩ :=
      mem_compatibleFormats.mp member
    obtain ⟨width, height, rated, rfl⟩ := (sameMode_configAt offered).mp same
    exact ⟨guid, guidToFormat_iff.mp named,
      offers_iff.mpr ⟨subtype, size, rate, sized, width, height, rated, offered⟩⟩
  · rintro ⟨target, named, offered⟩
    obtain ⟨subtype, size, rate, sized, width, height, rated, member⟩ := offers_iff.mp offered
    refine ⟨configAt config.format size rate, mem_compatibleFormats.mpr ⟨target, config.format,
      size, rate, subtype, guidToFormat_iff.mpr named, sized, member, rfl⟩, ?_⟩
    exact (sameMode_configAt member).mpr ⟨width, height, rated, rfl⟩

private theorem supported_native_iff {reader : SourceReader} {config : CameraConfig} :
    isConfigSupported (getCompatibleFormats reader) config = true ↔
      ∃ media ∈ reader.native, Candidate config media := by
  have each : isConfigSupported (getCompatibleFormats reader) config = true ↔
      ∃ media ∈ reader.native, isConfigSupported (compatibleFormats media) config = true := by
    simp only [isConfigSupported, getCompatibleFormats, List.any_flatMap, List.any_eq_true]
  rw [each]
  exact exists_congr fun media => and_congr_right fun _ => supported_iff

section Starts

variable {mfError : Int32 → CameraError} {text : Int32 → String} {debug : CameraConfig → String}
variable {reader : SourceReader} {config : CameraConfig} {target : Guid}

def MediaType.atRate (media : MediaType) (config : CameraConfig) : MediaType :=
  { media with frameRate := .ok (pack config.fps config.fpsDenominator) }

theorem setFirst_ok {next : SourceReader}
    (writable : ∀ media raw, reader.setUint64 media raw = .ok { media with frameRate := .ok raw }) :
    ∀ (types : List MediaType) (lastError : Option Int32),
      setFirst mfError text debug reader target config types lastError = .ok next →
      ∃ media ∈ types, offers media target config = .ok true ∧ ∃ current,
        reader.setCurrentMediaType (media.atRate config) = .ok current ∧
          next = { reader with current := .ok current } := by
  intro types
  induction types with
  | nil =>
      intro lastError set
      cases lastError <;> cases set
  | cons media types ih =>
      intro lastError set
      rw [setFirst] at set
      split at set
      · cases set
      · next offered answer =>
        cases offered with
        | false =>
            obtain ⟨other, member, rest⟩ := ih _ set
            exact ⟨other, List.mem_cons_of_mem _ member, rest⟩
        | true =>
            rw [writable] at set
            simp only [if_true] at set
            split at set
            · next current taken =>
              exact ⟨media, List.mem_cons_self, answer, current, taken,
                (Except.ok.inj set).symm⟩
            · obtain ⟨other, member, rest⟩ := ih _ set
              exact ⟨other, List.mem_cons_of_mem _ member, rest⟩

private theorem offers_answers {rate : FrameRate} (rated : frameRate config = .ok rate)
    (media : MediaType) (target : Guid) : ∃ offered, offers media target config = .ok offered := by
  unfold offers
  rw [rated]
  split
  · exact ⟨_, rfl⟩
  · split
    · exact ⟨_, rfl⟩
    · split
      · exact ⟨_, rfl⟩
      · split
        · exact ⟨_, rfl⟩
        · exact ⟨_, rfl⟩

private theorem setFirst_takes {rate : FrameRate} (rated : frameRate config = .ok rate)
    (writable : ∀ media raw, reader.setUint64 media raw = .ok { media with frameRate := .ok raw })
    {media current : MediaType} (offered : offers media target config = .ok true)
    (taken : reader.setCurrentMediaType (media.atRate config) = .ok current) :
    ∀ (types : List MediaType) (lastError : Option Int32), media ∈ types →
      ∃ next, setFirst mfError text debug reader target config types lastError = .ok next := by
  intro types
  induction types with
  | nil => exact fun _ none => nomatch none
  | cons first types ih =>
      intro lastError member
      obtain ⟨considered, answer⟩ := offers_answers rated first target
      have later (lastError : Option Int32) (refused : first ≠ media) :
          ∃ next, setFirst mfError text debug reader target config types lastError = .ok next :=
        ih lastError ((List.mem_cons.mp member).resolve_left refused.symm)
      rw [setFirst, answer]
      cases considered with
      | false =>
          refine later lastError fun same => ?_
          rw [same, offered] at answer
          cases answer
      | true =>
          rw [writable]
          simp only [if_true]
          cases result : reader.setCurrentMediaType (first.atRate config) with
          | ok found =>
              rw [MediaType.atRate] at result
              rw [result]
              exact ⟨_, rfl⟩
          | error error =>
              have refused : first ≠ media := by
                rintro rfl
                rw [taken] at result
                cases result
              rw [MediaType.atRate] at result
              rw [result]
              exact later (some error) refused

private theorem refreshFormat_atRate {media : MediaType} {size : UInt64} {rate : FrameRate}
    (named : formatToGuid config.format = some target) (subtype : media.subtype = .ok target)
    (sized : media.frameSize = .ok size) (rated : frameRate config = .ok rate) :
    refreshFormat mfError { reader with current := .ok (media.atRate config) } =
      (mediaColor media config.format (high size) (low size)).map fun color =>
        ⟨configAt config.format size rate, color,
          mediaStride media config.format (high size)⟩ := by
  have read : FrameRate.new (high (pack config.fps config.fpsDenominator))
      (low (pack config.fps config.fpsDenominator)) = .ok rate := by
    rw [high_pack, low_pack]
    exact rated
  have rateAt : (media.atRate config).frameRate =
      .ok (pack config.fps config.fpsDenominator) := rfl
  have sizeAt : (media.atRate config).frameSize = .ok size := sized
  have subtypeAt : (media.atRate config).subtype = .ok target := subtype
  have colorAt : mediaColor (media.atRate config) config.format (high size) (low size) =
      mediaColor media config.format (high size) (low size) := rfl
  have strideAt : mediaStride (media.atRate config) config.format (high size) =
      mediaStride media config.format (high size) := rfl
  simp only [refreshFormat, Except.mapError, bind, Except.bind, rateAt, sizeAt, subtypeAt,
    guidToFormat_iff.mpr named, read, colorAt, strideAt]
  cases mediaColor media config.format (high size) (low size) with
  | error error => rfl
  | ok color => rfl

variable (mfError text debug reader config) in
/-- A start considers a media type just when the configuration is one of the listed modes; it
succeeds just when the reader takes one of the types that it considers, whatever happens to the
others, and the format that is then read back is the listed mode, with the color and the stride
that the type declares. -/
theorem listed_modes_apply
    (writable : ∀ media raw, reader.setUint64 media raw = .ok { media with frameRate := .ok raw })
    (faithful : ∀ media current, reader.setCurrentMediaType media = .ok current →
      current = media) :
    (isConfigSupported (getCompatibleFormats reader) config = true ↔
      ∃ media ∈ reader.native, Candidate config media) ∧
    ((∃ next, setMediaFormat mfError text debug reader config = .ok next) ↔
      ∃ media ∈ reader.native, Candidate config media ∧
        ∃ current, reader.setCurrentMediaType (media.atRate config) = .ok current) ∧
    ∀ next, setMediaFormat mfError text debug reader config = .ok next →
      ∃ media ∈ reader.native, Candidate config media ∧
        next.current = .ok (media.atRate config) ∧
        ∃ listed ∈ getCompatibleFormats reader, sameMode listed config = true ∧
          refreshFormat mfError next =
            (mediaColor media listed.format listed.width listed.height).map fun color =>
              ⟨listed, color, mediaStride media listed.format listed.width⟩ := by
  refine ⟨supported_native_iff, ⟨?_, ?_⟩, ?_⟩
  · rintro ⟨next, set⟩
    unfold setMediaFormat at set
    split at set
    · cases set
    · next target named =>
      obtain ⟨media, member, offered, current, taken, -⟩ := setFirst_ok writable _ _ set
      exact ⟨media, member, ⟨target, named, offered⟩, current, taken⟩
  · rintro ⟨media, member, ⟨target, named, offered⟩, current, taken⟩
    obtain ⟨-, size, rate, -, -, -, rated, -⟩ := offers_iff.mp offered
    unfold setMediaFormat
    rw [named]
    exact setFirst_takes rated writable offered taken reader.native none member
  · intro next set
    unfold setMediaFormat at set
    split at set
    · cases set
    · next target named =>
      obtain ⟨media, member, offered, current, taken, rfl⟩ := setFirst_ok writable _ _ set
      obtain ⟨subtype, size, rate, sized, width, height, rated, rates⟩ := offers_iff.mp offered
      refine ⟨media, member, ⟨target, named, offered⟩, ?_, configAt config.format size rate,
        ?_, ?_, ?_⟩
      · rw [faithful _ _ taken]
      · exact List.mem_flatMap.mpr ⟨media, member, mem_compatibleFormats.mpr ⟨target,
          config.format, size, rate, subtype, guidToFormat_iff.mpr named, sized, rates, rfl⟩⟩
      · exact (sameMode_configAt rates).mpr ⟨width, height, rated, rfl⟩
      · rw [faithful _ _ taken]
        exact refreshFormat_atRate named subtype sized rated

/-- A camera that offers 1280x720 in NV12 at up to 60 frames a second. -/
def hdReader : SourceReader where
  native := [⟨.ok MF_VIDEO_FORMAT_NV12, .ok (pack 1280 720), .ok (pack 30 1), .ok (pack 60 1),
    .error (-1), .error (-1), .error (-1), .ok 1280⟩]
  setUint64 media raw := .ok { media with frameRate := .ok raw }
  setCurrentMediaType media := .ok media
  current := .error (-1)

/-- A rate that is not reduced is one of the listed modes all the same. -/
theorem listed_modes_apply_hd :
    (∃ media ∈ hdReader.native, Candidate ⟨.nv12, 1280, 720, 120, 2⟩ media) ∧
    ∃ next, setMediaFormat (fun _ => .streamStopped) toString (fun _ => "") hdReader
        ⟨.nv12, 1280, 720, 120, 2⟩ = .ok next ∧
      next.current.isOk = true ∧ ∃ listed ∈ getCompatibleFormats hdReader,
        sameMode listed ⟨.nv12, 1280, 720, 120, 2⟩ = true := by
  have applies := listed_modes_apply (fun _ => .streamStopped) toString (fun _ => "") hdReader
    ⟨.nv12, 1280, 720, 120, 2⟩ (fun _ _ => rfl) fun _ _ same => (Except.ok.inj same).symm
  obtain ⟨media, member, candidate⟩ := applies.1.mp (by decide)
  obtain ⟨next, set⟩ := applies.2.1.mpr ⟨media, member, candidate, _, rfl⟩
  obtain ⟨_, _, _, current, mode, known, same, -⟩ := applies.2.2 next set
  exact ⟨⟨media, member, candidate⟩, next, set, by rw [current]; rfl, mode, known, same⟩

end Starts

end CameraRs.MediaFoundation

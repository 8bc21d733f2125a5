/-
The search for the format of an AVFoundation device.

`find_best_format` goes through the formats of the device up to three times: for the exact mode,
for the closest size of the same video format, and for any format that can be converted. The
passes share the best format and its score. Sizes are compared as `i32`.
-/

import CameraRs.Lib.Best
import CameraRs.Negotiation.Ranking
import Mathlib.Algebra.Order.Group.Abs
import Mathlib.Algebra.Order.Group.Int

namespace CameraRs.AvFoundation

/-- An `AVCaptureDeviceFormat` with ranges of type `ρ`; the dimensions are those after the cast
to `u32`. -/
structure DeviceFormat (ρ : Type) where
  mediaSubType : UInt32
  width : UInt32
  height : UInt32
  ranges : List ρ

/-- How a rate is compared with a range, `fps_matches_range` and the test for its maximum, and
how it is written. -/
structure RateRules (ρ : Type) where
  supports : FrameRate → ρ → Bool
  atMaximum : FrameRate → ρ → Bool
  text : Option FrameRate → String

def fourccToFormat (fourcc : UInt32) : Option VideoFormat :=
  if fourcc = 0x32767579 then some .uyvy
  else if fourcc = 0x79757673 then some .yuyv
  else if fourcc = 0x34323066 ∨ fourcc = 0x34323076 then some .nv12
  else if fourcc = 0x42475241 ∨ fourcc = 0x00000020 then some .rgb
  else if fourcc = 0x6A706567 ∨ fourcc = 0x646D6231 then some .mjpeg
  else none

def crossFormatFallbackPriority : VideoFormat → Int
  | .nv12 => 110
  | .rgb => 100
  | .yuyv => 90
  | .uyvy => 80
  | .mjpeg => 70
  | _ => 0

def i32Min : Int := -2 ^ 31

def i32 (x : Int) : Option Int := if i32Min ≤ x ∧ x < 2 ^ 31 then some x else none

/-- `as i32`, which keeps the bits. -/
def asI32 (n : UInt32) : Int := n.toInt32.toInt

variable {ρ : Type} (rules : RateRules ρ) (config : CameraConfig)

def sizeDistance (format : DeviceFormat ρ) : Option Int := do
  let dx ← i32 (asI32 format.width - asI32 config.width)
  let dx ← i32 |dx|
  let dy ← i32 (asI32 format.height - asI32 config.height)
  let dy ← i32 |dy|
  i32 (dx + dy)

/-- The loop over the ranges: the first one that matches, with the rate it was compared to. -/
def supportedRange : List ρ → CameraResult (Option (FrameRate × ρ))
  | [] => .ok none
  | range :: rest => do
      let rate ← config.frameRate
      if rules.supports rate range then return some (rate, range) else supportedRange rest

/-- What a pass makes of one format: an overflow, an error, nothing, or its score. -/
abbrev Scored := Option (CameraResult (Option Int))

def exactScore (format : DeviceFormat ρ) : Scored :=
  match fourccToFormat format.mediaSubType with
  | none => some (.ok none)
  | some video =>
      if video ≠ config.format then some (.ok none)
      else if ¬(format.width = config.width ∧ format.height = config.height) then some (.ok none)
      else
        some ((supportedRange rules config format.ranges).map fun found =>
          found.map fun matched =>
            2000 + 1000 + (if rules.atMaximum matched.1 matched.2 then 100 else 50))

def closestScore (format : DeviceFormat ρ) : Scored :=
  match fourccToFormat format.mediaSubType with
  | none => some (.ok none)
  | some video =>
      if video ≠ config.format then some (.ok none)
      else
        match supportedRange rules config format.ranges with
        | .error error => some (.error error)
        | .ok none => some (.ok none)
        | .ok (some _) => do
            let diff ← sizeDistance config format
            let score ← i32 (-diff)
            return .ok (some score)

def crossScore (format : DeviceFormat ρ) : Scored :=
  match fourccToFormat format.mediaSubType with
  | none => some (.ok none)
  | some video =>
      match supportedRange rules config format.ranges with
      | .error error => some (.error error)
      | .ok none => some (.ok none)
      | .ok (some _) => do
          let diff ← sizeDistance config format
          let score ← i32 (crossFormatFallbackPriority video * 1000 - diff)
          return .ok (some score)

abbrev Search (ρ : Type) := Lib.Best (DeviceFormat ρ) Int

def searchPass (score : DeviceFormat ρ → Scored) :
    List (DeviceFormat ρ) → Search ρ → Option (CameraResult (Search ρ))
  | [], best => some (.ok best)
  | format :: rest, best =>
      match score format with
      | none => none
      | some (.error error) => some (.error error)
      | some (.ok none) => searchPass score rest best
      | some (.ok (some score')) => searchPass score rest (best.offer format score')

/-- A pass is made if nothing has matched so far. -/
def fallbackPass (score : DeviceFormat ρ → Scored) (formats : List (DeviceFormat ρ)) :
    Option (CameraResult (Search ρ)) → Option (CameraResult (Search ρ))
  | some (.ok best) =>
      if best.item.isNone then searchPass score formats best else some (.ok best)
  | stopped => stopped

def noMatch : CameraError :=
  .unsupportedFormat ("No matching format for " ++ config.format.name ++ " " ++
    toString config.width ++ "x" ++ toString config.height ++ "@" ++
    rules.text config.frameRate.toOption ++ "fps (" ++ toString config.fps ++ "/" ++
    toString config.fpsDenominator ++ ")")

def findBestFormat (formats : List (DeviceFormat ρ)) :
    Option (CameraResult (DeviceFormat ρ)) :=
  let exact := searchPass (exactScore rules config) formats { score := i32Min }
  let closest := fallbackPass (closestScore rules config) formats exact
  let cross := fallbackPass (crossScore rules config) formats closest
  cross.map fun found => found.bind fun best =>
    match best.item with
    | some format => .ok format
    | none => .error (noMatch rules config)

/-! ### The preference order -/

def supported (format : DeviceFormat ρ) : Bool :=
  match config.frameRate with
  | .ok rate => format.ranges.any (rules.supports rate)
  | .error _ => false

def convertible (format : DeviceFormat ρ) : Bool :=
  (fourccToFormat format.mediaSubType).isSome && supported rules config format

def sameFormat (format : DeviceFormat ρ) : Bool :=
  decide (fourccToFormat format.mediaSubType = some config.format) &&
    supported rules config format

def exactMode (format : DeviceFormat ρ) : Bool :=
  sameFormat rules config format &&
    decide (format.width = config.width ∧ format.height = config.height)

/-- The score of an exact mode: the rate is the maximum of the first range it matches, or not. -/
def grade (format : DeviceFormat ρ) : Int :=
  match config.frameRate with
  | .ok rate =>
      if (format.ranges.find? (rules.supports rate)).any (rules.atMaximum rate) then 3100
      else 3050
  | .error _ => 3050

def distance (format : DeviceFormat ρ) : Int :=
  |(format.width.toNat : Int) - config.width.toNat| +
    |(format.height.toNat : Int) - config.height.toNat|

def priority (format : DeviceFormat ρ) : Int :=
  (fourccToFormat format.mediaSubType).elim 0 crossFormatFallbackPriority

/-- The first best exact mode, else the first closest size of the same video format, else the
first best compromise of priority and size. -/
def preferred (formats : List (DeviceFormat ρ)) : Option (DeviceFormat ρ) :=
  (Lib.Best.largest (grade rules config) (formats.filter (exactMode rules config))).or
    ((Lib.Best.smallest (distance config) (formats.filter (sameFormat rules config))).or
      (Lib.Best.largest (fun format => 1000 * priority format - distance config format)
        (formats.filter (convertible rules config))))

/-- The formats whose sizes the search compares with the requested one. -/
def compared (formats : List (DeviceFormat ρ)) : List (DeviceFormat ρ) :=
  if formats.any (exactMode rules config) then []
  else if formats.any (sameFormat rules config) then formats.filter (sameFormat rules config)
  else formats.filter (convertible rules config)

/-- The search follows the preference order, and the distances it computes are exact. -/
structure ExactSearch (formats : List (DeviceFormat ρ)) : Prop where
  found : findBestFormat rules config formats =
    some ((preferred rules config formats).elim (.error (noMatch rules config)) .ok)
  fails : (∃ error, findBestFormat rules config formats = some (.error error)) ↔
    ∀ format ∈ formats, convertible rules config format = false
  distances : ∀ format ∈ compared rules config formats,
    sizeDistance config format = some (distance config format)

/-- The sizes lie on the same side of `2^31` in both dimensions, and closer than that. -/
structure Comparable (format : DeviceFormat ρ) : Prop where
  width : (format.width.toNat < 2 ^ 31 ↔ config.width.toNat < 2 ^ 31)
  height : (format.height.toNat < 2 ^ 31 ↔ config.height.toNat < 2 ^ 31)
  near : distance config format < 2 ^ 31

/-! ### Sizes -/

variable {rules config} {format : DeviceFormat ρ} {formats : List (DeviceFormat ρ)}

theorem i32_eq_some {x y : Int} : i32 x = some y ↔ (i32Min ≤ x ∧ x < 2 ^ 31) ∧ x = y := by
  unfold i32
  split
  · next fits => simp only [Option.some.injEq, fits, true_and, and_self]
  · next large => simp only [reduceCtorEq, large, false_and]

private theorem asI32_eq (n : UInt32) :
    asI32 n = if n.toNat < 2 ^ 31 then (n.toNat : Int) else (n.toNat : Int) - 2 ^ 32 := by
  have bits : asI32 n = n.toBitVec.toInt := rfl
  rw [bits, BitVec.toInt_eq_toNat_cond]
  have same : n.toBitVec.toNat = n.toNat := rfl
  rw [same]
  split
  · rw [if_pos (by omega)]
  · rw [if_neg (by omega)]
    rfl

private theorem sizeDistance_eq_some {x : Int} :
    sizeDistance config format = some x ↔
      (|asI32 format.width - asI32 config.width| < 2 ^ 31 ∧
        |asI32 format.height - asI32 config.height| < 2 ^ 31) ∧
      x < 2 ^ 31 ∧ |asI32 format.width - asI32 config.width| +
        |asI32 format.height - asI32 config.height| = x := by
  simp only [sizeDistance, bind, Option.bind_eq_some_iff, i32_eq_some, i32Min]
  constructor
  · rintro ⟨_, ⟨-, rfl⟩, _, ⟨dx, rfl⟩, _, ⟨-, rfl⟩, _, ⟨dy, rfl⟩, total, rfl⟩
    exact ⟨⟨dx.2, dy.2⟩, total.2, rfl⟩
  · rintro ⟨⟨dx, dy⟩, total, rfl⟩
    have fits {d : Int} (small : |d| < 2 ^ 31) :
        (-2 ^ 31 ≤ d ∧ d < 2 ^ 31) ∧ -2 ^ 31 ≤ |d| ∧ |d| < 2 ^ 31 := by
      have bounds := abs_lt.mp small
      have := abs_nonneg d
      omega
    have x := abs_nonneg (asI32 format.width - asI32 config.width)
    have y := abs_nonneg (asI32 format.height - asI32 config.height)
    exact ⟨_, ⟨(fits dx).1, rfl⟩, _, ⟨(fits dx).2, rfl⟩, _, ⟨(fits dy).1, rfl⟩, _,
      ⟨(fits dy).2, rfl⟩, ⟨by omega, total⟩, rfl⟩

theorem cast_sub (a b : UInt32) :
    (a.toNat < 2 ^ 31 ↔ b.toNat < 2 ^ 31) ∧ asI32 a - asI32 b = (a.toNat : Int) - b.toNat ∨
      ¬(a.toNat < 2 ^ 31 ↔ b.toNat < 2 ^ 31) ∧
        |asI32 a - asI32 b| + |(a.toNat : Int) - b.toNat| = 2 ^ 32 := by
  have := a.toNat_lt
  have := b.toNat_lt
  simp only [asI32_eq]
  split
  · split
    · exact .inl ⟨by omega, rfl⟩
    · refine .inr ⟨by omega, ?_⟩
      rw [abs_of_nonneg (by omega), abs_of_neg (by omega)]
      omega
  · split
    · refine .inr ⟨by omega, ?_⟩
      rw [abs_of_nonpos (by omega), abs_of_nonneg (by omega)]
      omega
    · exact .inl ⟨by omega, by omega⟩

theorem sizeDistance_iff :
    sizeDistance config format = some (distance config format) ↔ Comparable config format := by
  rw [sizeDistance_eq_some]
  have x := abs_nonneg ((format.width.toNat : Int) - config.width.toNat)
  have y := abs_nonneg ((format.height.toNat : Int) - config.height.toNat)
  constructor
  · rintro ⟨⟨dx, dy⟩, near, same⟩
    refine ⟨?_, ?_, near⟩
    · obtain ⟨width, -⟩ | ⟨-, missed⟩ := cast_sub format.width config.width
      · exact width
      · unfold distance at near same
        omega
    · obtain ⟨height, -⟩ | ⟨-, missed⟩ := cast_sub format.height config.height
      · exact height
      · unfold distance at near same
        omega
  · rintro ⟨width, height, near⟩
    rw [((cast_sub format.width config.width).resolve_right fun h => h.1 width).2,
      ((cast_sub format.height config.height).resolve_right fun h => h.1 height).2]
    unfold distance at near ⊢
    exact ⟨by omega, near, rfl⟩

theorem distance_nonneg (config : CameraConfig) (format : DeviceFormat ρ) :
    0 ≤ distance config format :=
  add_nonneg (abs_nonneg _) (abs_nonneg _)

/-! ### The passes -/

theorem supportedRange_eq {rate : FrameRate} (requested : config.frameRate = .ok rate)
    (ranges : List ρ) :
    supportedRange rules config ranges =
      .ok ((ranges.find? (rules.supports rate)).map fun range => (rate, range)) := by
  induction ranges with
  | nil => rfl
  | cons range rest ih =>
      rw [supportedRange, requested, ih, List.find?_cons]
      simp only [bind, Except.bind]
      cases rules.supports rate range with
      | true => rfl
      | false => rfl

theorem supported_eq {rate : FrameRate} (requested : config.frameRate = .ok rate) :
    supported rules config format = (format.ranges.find? (rules.supports rate)).isSome := by
  rw [supported, requested, List.isSome_find?]

private theorem searchPass_known {score : DeviceFormat ρ → Scored} {keep : DeviceFormat ρ → Bool}
    {key : DeviceFormat ρ → Int} (best : Search ρ)
    (known : ∀ format ∈ formats,
      score format = some (.ok (if keep format then some (key format) else none))) :
    searchPass score formats best =
      some (.ok ((formats.filter keep).foldl
        (fun best format => best.offer format (key format)) best)) := by
  induction formats generalizing best with
  | nil => rfl
  | cons format rest ih =>
      have later := fun other inside => known other (List.mem_cons_of_mem _ inside)
      rw [searchPass, known format List.mem_cons_self, List.filter_cons]
      cases keep format with
      | true => exact ih (best.offer format (key format)) later
      | false => exact ih best later

theorem searchPass_finds {score : DeviceFormat ρ → Scored} {keep : DeviceFormat ρ → Bool}
    {key : DeviceFormat ρ → Int}
    (known : ∀ format ∈ formats,
      score format = some (.ok (if keep format then some (key format) else none)))
    (above : ∀ format ∈ formats.filter keep, i32Min < key format) :
    searchPass score formats { score := i32Min } =
      some (.ok (Lib.Best.found key i32Min (formats.filter keep))) := by
  rw [searchPass_known _ known, Lib.Best.foldl_offer above]

private theorem exactScore_eq {rate : FrameRate} (requested : config.frameRate = .ok rate) :
    exactScore rules config format =
      some (.ok (if exactMode rules config format then some (grade rules config format)
        else none)) := by
  simp only [exactScore, exactMode, sameFormat, supported_eq requested, grade, requested,
    supportedRange_eq requested]
  cases fourccToFormat format.mediaSubType with
  | none => rfl
  | some video =>
      by_cases same : video = config.format
      · by_cases size : format.width = config.width ∧ format.height = config.height
        · cases format.ranges.find? (rules.supports rate) with
          | none => simp [same, size, Except.map]
          | some range =>
              cases top : rules.atMaximum rate range with
              | true => simp [same, size, top, Except.map]
              | false => simp [same, size, top, Except.map]
        · simp [same, size]
      · simp [same]

private theorem closestScore_eq {rate : FrameRate} (requested : config.frameRate = .ok rate)
    (comparable : sameFormat rules config format = true → Comparable config format) :
    closestScore rules config format =
      some (.ok (if sameFormat rules config format then some (-distance config format)
        else none)) := by
  simp only [sameFormat, supported_eq requested] at comparable ⊢
  unfold closestScore
  rw [supportedRange_eq requested]
  cases kind : fourccToFormat format.mediaSubType with
  | none => rfl
  | some video =>
      by_cases same : video = config.format
      · cases first : format.ranges.find? (rules.supports rate) with
        | none => simp [same]
        | some range =>
            have known := comparable (by simp [kind, same, first])
            have score : i32 (-distance config format) = some (-distance config format) := by
              have := known.near
              have := distance_nonneg config format
              rw [i32_eq_some, i32Min]
              exact ⟨by omega, rfl⟩
            simp [same, sizeDistance_iff.mpr known, score]
      · simp [same]

theorem crossFormatFallbackPriority_mem (video : VideoFormat) :
    0 ≤ crossFormatFallbackPriority video ∧ crossFormatFallbackPriority video ≤ 110 := by
  cases video <;> decide

private theorem crossScore_eq {rate : FrameRate} (requested : config.frameRate = .ok rate)
    (comparable : convertible rules config format = true → Comparable config format) :
    crossScore rules config format =
      some (.ok (if convertible rules config format then
          some (1000 * priority format - distance config format)
        else none)) := by
  simp only [convertible, supported_eq requested] at comparable ⊢
  unfold crossScore priority
  rw [supportedRange_eq requested]
  cases kind : fourccToFormat format.mediaSubType with
  | none => rfl
  | some video =>
      cases first : format.ranges.find? (rules.supports rate) with
      | none => rfl
      | some range =>
          have known := comparable (by simp [kind, first])
          have score : i32 (crossFormatFallbackPriority video * 1000 - distance config format) =
              some (1000 * crossFormatFallbackPriority video - distance config format) := by
            have := known.near
            have := distance_nonneg config format
            have := crossFormatFallbackPriority_mem video
            rw [i32_eq_some, i32Min]
            exact ⟨by omega, by omega⟩
          simp [sizeDistance_iff.mpr known, score]

/-! ### The search -/

private theorem grade_above : i32Min < grade rules config format := by
  unfold grade i32Min
  split
  · split <;> omega
  · omega

theorem fallbackPass_of_ne_nil {score : DeviceFormat ρ → Scored} {key : DeviceFormat ρ → Int}
    {items : List (DeviceFormat ρ)} (nonempty : items ≠ []) :
    fallbackPass score formats (some (.ok (Lib.Best.found key i32Min items))) =
      some (.ok (Lib.Best.found key i32Min items)) := by
  have item : Lib.Best.largest key items ≠ none := fun nothing =>
    nonempty (Lib.Best.largest_eq_none.mp nothing)
  rw [fallbackPass, Lib.Best.found_item,
    if_neg fun nothing => item (Option.isNone_iff_eq_none.mp nothing)]

theorem reported {key : DeviceFormat ρ → Int} (items : List (DeviceFormat ρ)) :
    ((some (.ok (Lib.Best.found key i32Min items)) : Option (CameraResult (Search ρ))).map
      fun found => found.bind fun best =>
        match best.item with
        | some format => .ok format
        | none => .error (noMatch rules config)) =
      some ((Lib.Best.largest key items).elim (.error (noMatch rules config)) .ok) := by
  simp only [Option.map_some, Except.bind, Lib.Best.found_item]
  cases Lib.Best.largest key items with
  | none => rfl
  | some format => rfl

theorem fallbackPass_of_nil {score : DeviceFormat ρ → Scored} {key : DeviceFormat ρ → Int} :
    fallbackPass score formats (some (.ok (Lib.Best.found key i32Min []))) =
      searchPass score formats { score := i32Min } := rfl

private theorem any_of_filter {keep : DeviceFormat ρ → Bool} :
    formats.any keep = true ↔ formats.filter keep ≠ [] := by
  rw [List.any_eq_true, ne_eq, List.filter_eq_nil_iff]
  push Not
  rfl

theorem closest_pass {rate : FrameRate} (requested : config.frameRate = .ok rate)
    (comparable : ∀ format ∈ formats.filter (sameFormat rules config),
      Comparable config format) :
    searchPass (closestScore rules config) formats { score := i32Min } =
      some (.ok (Lib.Best.found (fun format => -distance config format) i32Min
        (formats.filter (sameFormat rules config)))) := by
  refine searchPass_finds (fun format inside => closestScore_eq requested fun same =>
    comparable format (List.mem_filter.mpr ⟨inside, same⟩)) fun format inside => ?_
  have near := (comparable format inside).near
  unfold i32Min
  omega

private theorem cross_pass {rate : FrameRate} (requested : config.frameRate = .ok rate)
    (comparable : ∀ format ∈ formats.filter (convertible rules config),
      Comparable config format) :
    searchPass (crossScore rules config) formats { score := i32Min } =
      some (.ok (Lib.Best.found (fun format => 1000 * priority format - distance config format)
        i32Min (formats.filter (convertible rules config)))) := by
  refine searchPass_finds (fun format inside => crossScore_eq requested fun kept =>
    comparable format (List.mem_filter.mpr ⟨inside, kept⟩)) fun format inside => ?_
  have near := (comparable format inside).near
  have known : 0 ≤ priority format := by
    unfold priority
    cases fourccToFormat format.mediaSubType with
    | none => exact le_refl 0
    | some video => exact (crossFormatFallbackPriority_mem video).1
  unfold i32Min
  omega

private theorem findBestFormat_eq {rate : FrameRate} (requested : config.frameRate = .ok rate)
    (comparable : ∀ format ∈ compared rules config formats, Comparable config format) :
    findBestFormat rules config formats =
      some ((preferred rules config formats).elim (.error (noMatch rules config)) .ok) := by
  have exact_pass :
      searchPass (exactScore rules config) formats { score := i32Min } =
        some (.ok (Lib.Best.found (grade rules config) i32Min
          (formats.filter (exactMode rules config)))) :=
    searchPass_finds (fun _ _ => exactScore_eq requested) fun _ _ => grade_above
  unfold compared at comparable
  simp only [any_of_filter] at comparable
  unfold findBestFormat preferred
  rw [exact_pass]
  dsimp only
  by_cases exacts : formats.filter (exactMode rules config) = []
  · rw [if_neg fun any => any exacts] at comparable
    have reversed : Lib.Best.largest (fun format => -distance config format)
          (formats.filter (sameFormat rules config)) =
        Lib.Best.smallest (distance config) (formats.filter (sameFormat rules config)) :=
      Lib.Best.largest_of_reversed (fun _ _ => neg_lt_neg_iff) _
    rw [exacts, Lib.Best.largest_nil, Option.none_or, fallbackPass_of_nil]
    by_cases sames : formats.filter (sameFormat rules config) = []
    · rw [if_neg fun any => any sames] at comparable
      rw [closest_pass requested (by rw [sames]; simp), sames, fallbackPass_of_nil,
        cross_pass requested comparable, reported]
      rfl
    · rw [if_pos sames] at comparable
      rw [closest_pass requested comparable, fallbackPass_of_ne_nil sames, reported, ← reversed,
        Lib.Best.largest_or sames]
  · rw [fallbackPass_of_ne_nil exacts, fallbackPass_of_ne_nil exacts, reported, Lib.Best.largest_or exacts]

private theorem convertible_of_sameFormat (same : sameFormat rules config format = true) :
    convertible rules config format = true := by
  rw [sameFormat, Bool.and_eq_true, decide_eq_true_iff] at same
  rw [convertible, same.1, same.2]
  rfl

private theorem sameFormat_of_exactMode (exact_mode : exactMode rules config format = true) :
    sameFormat rules config format = true := by
  rw [exactMode, Bool.and_eq_true] at exact_mode
  exact exact_mode.1

private theorem preferred_eq_none :
    preferred rules config formats = none ↔
      ∀ format ∈ formats, ¬convertible rules config format = true := by
  simp only [preferred, Option.or_eq_none_iff, Lib.Best.largest_eq_none, Lib.Best.smallest_eq_none,
    List.filter_eq_nil_iff]
  constructor
  · intro nothing
    exact nothing.2.2
  · intro nothing
    have different : ∀ format ∈ formats, ¬sameFormat rules config format = true :=
      fun format inside same => nothing format inside (convertible_of_sameFormat same)
    exact ⟨fun format inside found => different format inside (sameFormat_of_exactMode found),
      different, nothing⟩

private theorem frameRate_ok (accepted : config.validate = .ok ()) :
    ∃ rate, config.frameRate = .ok rate := by
  obtain ⟨-, ⟨fps, denominator⟩, -⟩ := CameraConfig.validate_ok_iff.mp accepted
  exact FrameRate.new_ok fps denominator

/-- The search is exact if and only if the sizes that it compares can be compared. -/
theorem exactSearch_iff (accepted : config.validate = .ok ()) :
    ExactSearch rules config formats ↔
      ∀ format ∈ compared rules config formats, Comparable config format := by
  obtain ⟨rate, requested⟩ := frameRate_ok accepted
  constructor
  · intro search format inside
    exact sizeDistance_iff.mp (search.distances format inside)
  · intro comparable
    have found := findBestFormat_eq requested comparable
    refine ⟨found, ?_, fun format inside => sizeDistance_iff.mpr (comparable format inside)⟩
    simp only [← Bool.not_eq_true, ← preferred_eq_none, found]
    cases preferred rules config formats with
    | none => simp
    | some format => simp

def wholeRates : RateRules (Nat × Nat) where
  supports rate range :=
    decide (range.1 * rate.denominator.toNat ≤ rate.numerator.toNat ∧
      rate.numerator.toNat ≤ range.2 * rate.denominator.toNat)
  atMaximum rate range := decide (rate.numerator.toNat = range.2 * rate.denominator.toNat)
  text rate := (rate.map fun rate => toString (rate.numerator / rate.denominator)).getD "0"

def nv12Format (width height : UInt32) : DeviceFormat (Nat × Nat) :=
  { mediaSubType := 0x34323076, width := width, height := height, ranges := [(1, 30)] }

theorem exactSearch_iff_full_hd :
    ExactSearch wholeRates { format := .rgb, width := 1920, height := 1080, fps := 30 }
      [nv12Format 640 480, nv12Format 1280 720] := by
  refine (exactSearch_iff rfl).mpr ?_
  have all : compared wholeRates { format := .rgb, width := 1920, height := 1080, fps := 30 }
      [nv12Format 640 480, nv12Format 1280 720] = [nv12Format 640 480, nv12Format 1280 720] := rfl
  rw [all, List.forall_mem_cons, List.forall_mem_singleton]
  exact ⟨⟨by decide, by decide, by decide⟩, ⟨by decide, by decide, by decide⟩⟩

/-- An accepted width of `2^31` overflows the distance to every smaller size. -/
theorem not_always_exact :
    ¬ ∀ config : CameraConfig, config.validate = .ok () →
      ∀ formats : List (DeviceFormat (Nat × Nat)), ExactSearch wholeRates config formats := by
  intro always
  have search := always { format := .rgb, width := 2147483648, height := 1, fps := 30 } rfl
    [nv12Format 1280 720]
  have overflow :
      findBestFormat wholeRates { format := .rgb, width := 2147483648, height := 1, fps := 30 }
        [nv12Format 1280 720] = none := rfl
  exact Option.some_ne_none _ (search.found.symm.trans overflow)

end CameraRs.AvFoundation

/-
Frame rates of Camera2 devices.

A device lists its target ranges as a flat array of bounds. `query_output_configs` advertises
the upper bound of every range whose upper bound is positive; `camera2_select_fps` chooses among
the ranges with `0 < low <= high` only.
-/

import CameraRs.Lib.Best
import Mathlib.Data.Prod.Lex
import Mathlib.Algebra.Order.Group.Abs
import Mathlib.Algebra.Order.Group.Int

namespace CameraRs.Camera2

structure FpsRange where
  low : Int32
  high : Int32
deriving DecidableEq, Repr

namespace FpsRange

/-- A range that `camera2_select_fps` considers. -/
def wellFormed (range : FpsRange) : Bool := decide (0 < range.low) && decide (range.low ≤ range.high)

end FpsRange

/-- The pairs of the array; an odd last element is left out. -/
def fpsRanges : List Int32 → List FpsRange
  | low :: high :: rest => ⟨low, high⟩ :: fpsRanges rest
  | _ => []

def clampFps (fps : Int32) (range : FpsRange) : Int32 :=
  if fps < range.low then range.low else if fps > range.high then range.high else fps

def int64Max : Int := 2 ^ 63 - 1

/-- The variables of the loop of `camera2_select_fps`. -/
structure Selection where
  bestDistance : Int := int64Max
  bestWidth : Int := int64Max
  out : Option FpsRange := none

def consider (requested : Int32) (best : Selection) (range : FpsRange) : Selection :=
  if range.low ≤ 0 ∨ range.high < range.low then best
  else
    let delta := (clampFps requested range).toInt - requested.toInt
    let delta := if delta < 0 then -delta else delta
    let width := range.high.toInt - range.low.toInt
    if delta < best.bestDistance ∨ (delta = best.bestDistance ∧ width < best.bestWidth) then
      { bestDistance := delta, bestWidth := width, out := some range }
    else best

/-- `camera2_select_fps`; the array may be null. -/
def selectFps (ranges : Option (List Int32)) (requested : Int32) : Option FpsRange :=
  match ranges with
  | none => none
  | some ranges =>
      if requested ≤ 0 then none
      else ((fpsRanges ranges).foldl (consider requested) {}).out

/-- `ACAMERA_SCALER_AVAILABLE_STREAM_CONFIGURATIONS` and
`ACAMERA_CONTROL_AE_AVAILABLE_TARGET_FPS_RANGES`, where the device has them. -/
structure Characteristics where
  streamConfigurations : Option (List Int32)
  targetFpsRanges : Option (List Int32)

structure OutputConfig where
  width : Int32
  height : Int32
  format : Int32
  fps : Int32
deriving DecidableEq, Repr

def yuv420888 : Int32 := 0x23

/-- The loop over the rates of one size. -/
def ratedConfigs (rates : Option (List Int32)) (config : OutputConfig) : List OutputConfig :=
  ((fpsRanges (rates.getD [])).map fun range => { config with fps := range.high }).filter
    fun config => decide (0 < config.fps)

/-- The loop over the stream configurations: format, size, and whether it is an input. -/
def outputConfigs (rates : Option (List Int32)) : List Int32 → List OutputConfig
  | format :: width :: height :: input :: rest =>
      (if input = 0 ∧ format = yuv420888 then ratedConfigs rates ⟨width, height, format, 0⟩
        else []) ++ outputConfigs rates rest
  | _ => []

def hasYuvOutput : List Int32 → Bool
  | format :: _ :: _ :: input :: rest =>
      decide (input = 0 ∧ format = yuv420888) || hasYuvOutput rest
  | _ => false

def queryOutputConfigs (device : Characteristics) : List OutputConfig :=
  outputConfigs device.targetFpsRanges (device.streamConfigurations.getD [])

def startRate (device : Characteristics) (fps : Int32) : Option (FpsRange × Int32) :=
  (selectFps device.targetFpsRanges fps).map fun range => (range, clampFps fps range)

/-! ### Selection -/

def preference (requested : Int32) (range : FpsRange) : Int ×ₗ Int :=
  toLex (|(clampFps requested range).toInt - requested.toInt|, range.high.toInt - range.low.toInt)

def preferredRange (ranges : List Int32) (requested : Int32) : Option FpsRange :=
  Lib.Best.smallest (preference requested) ((fpsRanges ranges).filter FpsRange.wellFormed)

/-- Selection is optimal, and an advertised rate is kept. -/
structure HonoursRates (device : Characteristics) : Prop where
  selects : ∀ ranges requested, device.targetFpsRanges = some ranges → 0 < requested →
    selectFps (some ranges) requested = preferredRange ranges requested ∧
      ((selectFps (some ranges) requested).isSome ↔
        ∃ range ∈ fpsRanges ranges, 0 < range.low ∧ range.low ≤ range.high)
  keeps : ∀ config ∈ queryOutputConfigs device,
    ∃ range, startRate device config.fps = some (range, config.fps)

variable {requested fps : Int32} {range : FpsRange} {best : Selection} {ranges : List Int32}
  {device : Characteristics}

theorem wellFormed_iff :
    range.wellFormed = true ↔ 0 < range.low ∧ range.low ≤ range.high := by
  simp [FpsRange.wellFormed]

theorem skipped_iff :
    (range.low ≤ 0 ∨ range.high < range.low) ↔ range.wellFormed = false := by
  rw [Bool.eq_false_iff, ne_eq, wellFormed_iff, not_and_or, Int32.not_lt, Int32.not_le]

def Selection.search (best : Selection) : Lib.Best FpsRange (Int ×ₗ Int)ᵒᵈ where
  item := best.out
  score := OrderDual.toDual (toLex (best.bestDistance, best.bestWidth))

private theorem abs_delta (x : Int) : (if x < 0 then -x else x) = |x| := by
  split
  · next negative => exact (abs_of_neg negative).symm
  · next positive => exact (abs_of_nonneg (Int.not_lt.mp positive)).symm

private theorem consider_offers (proper : range.wellFormed = true) :
    (consider requested best range).search =
      best.search.offer range (OrderDual.toDual (preference requested range)) := by
  have kept : ¬ (range.low ≤ 0 ∨ range.high < range.low) := by
    rw [skipped_iff, proper]
    simp
  have better (distance width : Int) :
      (distance < best.bestDistance ∨ (distance = best.bestDistance ∧ width < best.bestWidth)) ↔
        best.search.score < OrderDual.toDual (toLex (distance, width)) := by
    rw [Selection.search, OrderDual.toDual_lt_toDual, Prod.Lex.toLex_lt_toLex]
  unfold consider Lib.Best.offer preference
  rw [if_neg kept]
  simp only [abs_delta, better]
  split
  · rfl
  · rfl

private theorem consider_skips (improper : range.wellFormed = false) :
    consider requested best range = best := by
  unfold consider
  rw [if_pos (skipped_iff.mpr improper)]

private theorem foldl_consider (requested : Int32) (best : Selection) (all : List FpsRange) :
    (all.foldl (consider requested) best).search =
      (all.filter FpsRange.wellFormed).foldl (fun best range =>
        best.offer range (OrderDual.toDual (preference requested range))) best.search := by
  induction all generalizing best with
  | nil => rfl
  | cons range rest ih =>
      rw [List.foldl_cons, ih]
      cases proper : range.wellFormed with
      | true => rw [List.filter_cons_of_pos proper, List.foldl_cons, consider_offers proper]
      | false =>
          rw [List.filter_cons_of_neg (by simp [proper]), consider_skips proper]

private theorem preference_below (requested : Int32) (range : FpsRange) :
    preference requested range < toLex (int64Max, int64Max) := by
  rw [preference, Prod.Lex.toLex_lt_toLex]
  left
  have upper := (clampFps requested range).toInt_lt
  have lower := (clampFps requested range).le_toInt
  have most := requested.toInt_lt
  have least := requested.le_toInt
  rw [abs_lt]
  constructor <;> simp only [int64Max] <;> omega

theorem selectFps_preferred (positive : 0 < requested) :
    selectFps (some ranges) requested = preferredRange ranges requested := by
  have searched := foldl_consider requested {} (fpsRanges ranges)
  have below (range : FpsRange)
      (_ : range ∈ (fpsRanges ranges).filter FpsRange.wellFormed) :
      OrderDual.toDual (toLex (int64Max, int64Max)) <
        OrderDual.toDual (preference requested range) := preference_below requested range
  have found := Lib.Best.foldl_offer below
  have same := congrArg Lib.Best.item (searched.trans found)
  rw [Lib.Best.found_item] at same
  rw [selectFps, if_neg (Int32.not_le.mpr positive), preferredRange, Lib.Best.smallest_eq_largest]
  exact same

/-! ### Advertised rates -/

private theorem mem_ratedConfigs {rates : Option (List Int32)} {size : OutputConfig} :
    (∃ config ∈ ratedConfigs rates size, config.fps = fps) ↔
      0 < fps ∧ ∃ range ∈ fpsRanges (rates.getD []), range.high = fps := by
  constructor
  · rintro ⟨config, listed, rfl⟩
    obtain ⟨rated, positive⟩ := List.mem_filter.mp listed
    obtain ⟨range, there, rfl⟩ := List.mem_map.mp rated
    exact ⟨of_decide_eq_true positive, range, there, rfl⟩
  · rintro ⟨positive, range, there, rfl⟩
    refine ⟨{ size with fps := range.high }, List.mem_filter.mpr ⟨?_, ?_⟩, rfl⟩
    · exact List.mem_map_of_mem there
    · exact decide_eq_true positive

theorem mem_outputConfigs {rates : Option (List Int32)} {streams : List Int32} :
    (∃ config ∈ outputConfigs rates streams, config.fps = fps) ↔ hasYuvOutput streams = true ∧
      0 < fps ∧ ∃ range ∈ fpsRanges (rates.getD []), range.high = fps := by
  induction streams using outputConfigs.induct with
  | case1 format width height input rest ih =>
      simp only [outputConfigs, hasYuvOutput, List.mem_append, or_and_right, exists_or, ih]
      split
      · next yuv => simp [mem_ratedConfigs, yuv]
      · next other => simp [other]
  | case2 streams short =>
      rw [outputConfigs, hasYuvOutput]
      · simp
      · exact short
      · exact short

private theorem clamp_between (proper : range.low ≤ range.high) (kept : clampFps fps range = fps) :
    range.low ≤ fps ∧ fps ≤ range.high := by
  rw [← kept, clampFps]
  split
  · exact ⟨Int32.le_refl _, proper⟩
  · next low =>
      split
      · exact ⟨proper, Int32.le_refl _⟩
      · next high => exact ⟨Int32.not_lt.mp low, Int32.not_lt.mp high⟩

private theorem clamp_inside (low : range.low ≤ fps) (high : fps ≤ range.high) :
    clampFps fps range = fps := by
  rw [clampFps, if_neg (Int32.not_lt.mpr low), if_neg (Int32.not_lt.mpr high)]

theorem mem_wellFormed : range ∈ (fpsRanges ranges).filter FpsRange.wellFormed ↔
    range ∈ fpsRanges ranges ∧ 0 < range.low ∧ range.low ≤ range.high := by
  rw [List.mem_filter, wellFormed_iff]

private theorem preferred_keeps_iff :
    (∃ range, preferredRange ranges fps = some range ∧ clampFps fps range = fps) ↔
      ∃ range ∈ fpsRanges ranges, 0 < range.low ∧ range.low ≤ fps ∧ fps ≤ range.high := by
  constructor
  · rintro ⟨range, preferred, kept⟩
    obtain ⟨there, positive, proper⟩ := mem_wellFormed.mp (Lib.Best.smallest_mem preferred)
    exact ⟨range, there, positive, clamp_between proper kept⟩
  · rintro ⟨range, there, positive, low, high⟩
    have proper := mem_wellFormed.mpr ⟨there, positive, Int32.le_trans low high⟩
    cases preferred : preferredRange ranges fps with
    | none =>
        rw [preferredRange, Lib.Best.smallest_eq_none] at preferred
        rw [preferred] at proper
        cases proper
    | some best =>
        refine ⟨best, rfl, ?_⟩
        have least := Lib.Best.smallest_le preferred proper
        -- the distance of this range is zero, so that of the best one is
        rw [preference, preference, clamp_inside low high, Int.sub_self, abs_zero,
          Prod.Lex.toLex_le_toLex] at least
        have none : |(clampFps fps best).toInt - fps.toInt| ≤ 0 := by
          obtain less | ⟨same, _⟩ := least
          · exact Int.le_of_lt less
          · exact Int.le_of_eq same
        apply Int32.toInt_inj.mp
        exact Int.eq_of_sub_eq_zero (abs_nonpos_iff.mp none)

private theorem preferredRange_isSome : (preferredRange ranges requested).isSome = true ↔
    ∃ range ∈ fpsRanges ranges, 0 < range.low ∧ range.low ≤ range.high := by
  rw [Option.isSome_iff_ne_none, ne_eq, preferredRange, Lib.Best.smallest_eq_none]
  constructor
  · intro some
    obtain ⟨range, proper⟩ := List.exists_mem_of_ne_nil _ some
    exact ⟨range, mem_wellFormed.mp proper⟩
  · rintro ⟨range, proper⟩
    exact List.ne_nil_of_mem (mem_wellFormed.mpr proper)

theorem startRate_keeps_iff (positive : 0 < fps) (known : device.targetFpsRanges = some ranges) :
    (∃ range, startRate device fps = some (range, fps)) ↔
      ∃ range, preferredRange ranges fps = some range ∧ clampFps fps range = fps := by
  rw [startRate, known, selectFps_preferred positive]
  simp [Option.map_eq_some_iff]

theorem keeps_iff {config : OutputConfig} (listed : config ∈ queryOutputConfigs device) :
    (∃ range, startRate device config.fps = some (range, config.fps)) ↔
      ∃ range ∈ fpsRanges (device.targetFpsRanges.getD []),
        0 < range.low ∧ range.low ≤ config.fps ∧ config.fps ≤ range.high := by
  obtain ⟨_, positive, high⟩ := mem_outputConfigs.mp ⟨config, listed, rfl⟩
  cases known : device.targetFpsRanges with
  | none =>
      rw [known] at high
      obtain ⟨range, there, _⟩ := high
      cases there
  | some ranges =>
      rw [startRate_keeps_iff positive known, preferred_keeps_iff]
      rfl

/-- Selection is optimal on every list of ranges. It keeps the advertised rates if and only if
the upper bound of every range, if it is positive and so advertised, lies in a range that can be
selected. -/
theorem honours_rates_iff (device : Characteristics) : HonoursRates device ↔
    (hasYuvOutput (device.streamConfigurations.getD []) = true →
      ∀ range ∈ fpsRanges (device.targetFpsRanges.getD []), 0 < range.high →
        ∃ other ∈ fpsRanges (device.targetFpsRanges.getD []),
          0 < other.low ∧ other.low ≤ range.high ∧ range.high ≤ other.high) := by
  constructor
  · intro honours yuv range there positive
    obtain ⟨config, listed, high⟩ := mem_outputConfigs.mpr ⟨yuv, positive, range, there, rfl⟩
    rw [← high]
    exact (keeps_iff listed).mp (honours.keeps config listed)
  · intro selectable
    constructor
    · intro ranges requested _ positive
      rw [selectFps_preferred positive]
      exact ⟨rfl, preferredRange_isSome⟩
    · intro config listed
      obtain ⟨yuv, positive, range, there, high⟩ := mem_outputConfigs.mp ⟨config, listed, rfl⟩
      rw [← high] at positive
      have inside := selectable yuv range there positive
      rw [high] at inside
      exact (keeps_iff listed).mpr inside

/-- A device with the single range [0, 30] advertises 30, and no start at 30 succeeds. -/
theorem not_always_honoured : ¬ ∀ device : Characteristics, HonoursRates device := by
  intro honours
  obtain ⟨range, started⟩ := (honours ⟨some [yuv420888, 640, 480, 0], some [0, 30]⟩).keeps
    ⟨640, 480, yuv420888, 30⟩ (by decide)
  cases started

end CameraRs.Camera2

/-
The name that diagnostics give to a conversion, and the branch that the conversion takes. The two
chains of conditions are separate in the source; they differ for the same-size formats that have
no kernel of their own.
-/

import CameraRs.Conversion.Agreement

namespace CameraRs

open Lib Fill

/-! ### The reported name -/

def isExactTwoThirds (layout : FrameLayout) (request : ConversionRequest) : Bool :=
  request.width.toNat * 3 == layout.width.toNat * 2 &&
    request.height.toNat * 3 == layout.height.toNat * 2

def isExactThreeQuarters (layout : FrameLayout) (request : ConversionRequest) : Bool :=
  request.width.toNat * 4 == layout.width.toNat * 3 &&
    request.height.toNat * 4 == layout.height.toNat * 3

def scaledName (layout : FrameLayout) (request : ConversionRequest)
    (twoThirds threeQuarters other : String) : String :=
  if isExactTwoThirds layout request then twoThirds
  else if isExactThreeQuarters layout request then threeQuarters
  else other

/-- The part of `selected_conversion_path` after the direct paths. -/
def scaledPath (layout : FrameLayout) (request : ConversionRequest) : String :=
  if layout.format = .rgb8 ∧ (layout.planes.head?.any fun plane => plane.pixelStride == 3) then
    scaledName layout request "rgb-row-nearest-2x3" "rgb-row-nearest-3x4" "mapped-nearest"
  else if layout.format.isYuv ∧ supportsYuvRowConversion layout ∧
      min (request.width.toNat * 4) (usizeLimit - 1) ≥ layout.width.toNat then
    scaledName layout request "yuv-row-convert-nearest-2x3" "yuv-row-convert-nearest-3x4"
      "yuv-row-convert-nearest"
  else
    "mapped-nearest"

def selectedConversionPath (layout : FrameLayout) (request : ConversionRequest) : String :=
  if layout.format = .mjpeg then
    "jpeg-adaptive-decode-scale"
  else if layout.format = .h264 then
    "unsupported-h264"
  else
    match directHalfPath layout request with
    | some path => path
    | none =>
        if (request.width, request.height) = (layout.width, layout.height) ∧
            layout.bottomUp = false then
          "direct-full-size"
        else
          scaledPath layout request

/-! ### The branch that runs -/

inductive Branch
  | jpeg | h264 | half | same | yuvRows | mapped
deriving DecidableEq, Repr

/-- The formats that a same-size kernel of `convert_layout_into` takes. -/
def hasSameKernel (layout : FrameLayout) : Bool :=
  match layout.format with
  | .rgb8 => layout.planes.head?.any fun plane => plane.pixelStride == 3
  | .rgba8 | .bgra8 | .argb8 => layout.planes.head?.any fun plane => plane.pixelStride == 4
  | .yuyv | .uyvy | .nv12 | .nv21 | .yuv420p => true
  | .bgr8 | .gray8 | .mjpeg | .h264 => false

/-- Where the conditions of `convert_layout_into` lead. -/
def dispatch (layout : FrameLayout) (request : ConversionRequest) : Branch :=
  if layout.format = .mjpeg then .jpeg
  else if layout.format = .h264 then .h264
  else if (directHalfPath layout request).isSome then .half
  else if (request.width, request.height) = (layout.width, layout.height) ∧
      layout.bottomUp = false ∧ hasSameKernel layout then .same
  else if layout.format.isYuv ∧ supportsYuvRowConversion layout ∧
      min (request.width.toNat * 4) (usizeLimit - 1) ≥ layout.width.toNat then .yuvRows
  else .mapped

section Run

variable {target : Target}

def updateMap (layout : FrameLayout) (request : ConversionRequest) : Conversion target Unit :=
  onFst (zoom RgbConverter.nearest (fun nearest converter => { converter with nearest := nearest })
    (NearestMap.update usizeLimit layout.width.toNat layout.height.toNat request.width.toNat
      request.height.toNat layout.bottomUp))

/-- What each branch executes, and nothing else. -/
def Branch.run (layout : FrameLayout) (data : List UInt8) (request : ConversionRequest)
    (c : Coefficients) : Branch → Conversion target Unit
  | .jpeg =>
      if target.decodeMjpeg then
        convertMjpeg data layout.width.toNat layout.height.toNat request.width.toNat
          request.height.toNat
      else
        fail (.unsupportedFormat "Enable jpeg for MJPEG decoding")
  | .h264 => fail (.unsupportedFormat "H264 decoding requires an external video decoder")
  | .half => onSnd (convertHalf target.cpu layout data c)
  | .same => do
      let plane ← viewPlane layout data 0 0
      match convertSame target.cpu layout data plane c with
      | some kernel => onSnd kernel
      | none => crash
  | .yuvRows => do
      updateMap layout request
      let nearest := (← getState).1.nearest
      zoom (fun (converter, out) =>
          (resized converter.rgbRowScratch (layout.width.toNat * 6), out))
        (fun (rgbRow, out) (converter, _) => ({ converter with rgbRowScratch := rgbRow }, out))
        (scaleYuvNearest target.cpu layout data nearest.x nearest.y c)
  | .mapped => do
      updateMap layout request
      let nearest := (← getState).1.nearest
      if layout.format.isYuv then
        onSnd (scaleYuvScalar layout data request.width.toNat nearest.x nearest.y c)
      else
        onSnd (scaleNearest layout data request.width.toNat nearest.x nearest.y)

end Run

/-! ### The branch is the one of the conversion -/

section Dispatch

variable {target : Target} {layout : FrameLayout} {data : List UInt8}
  {request : ConversionRequest} {c : Coefficients} {converter : RgbConverter target}
  {out : List UInt8}

private theorem convertSame_isSome {plane : PlaneLayout} {view : YuvPlane} (cpu : Cpu)
    (first : layout.planes.head? = some plane) (same : view.pixelStride = plane.pixelStride) :
    (convertSame cpu layout data view c).isSome = hasSameKernel layout := by
  unfold convertSame hasSameKernel
  rw [first, same]
  cases layout.format with
  | rgb8 | rgba8 | bgra8 | argb8 =>
      simp only [Option.any_some]
      split <;> simp_all
  | nv12 | nv21 =>
      simp only
      split <;> rfl
  | _ => rfl

theorem convertMapped_run (layout : FrameLayout) (data : List UInt8) (request : ConversionRequest)
    (c : Coefficients) :
    (convertMapped layout data request.width.toNat request.height.toNat c :
        Conversion target Unit) =
      (if layout.format.isYuv ∧ supportsYuvRowConversion layout ∧
          min (request.width.toNat * 4) (usizeLimit - 1) ≥ layout.width.toNat then
        Branch.yuvRows else Branch.mapped).run layout data request c := by
  unfold convertMapped
  by_cases rows : layout.format.isYuv ∧ supportsYuvRowConversion layout ∧
      min (request.width.toNat * 4) (usizeLimit - 1) ≥ layout.width.toNat
  · simp only [if_pos rows]
    rfl
  · simp only [if_neg rows]
    rfl

private theorem convertRaw_run (accepted : layout.validate data.length = .ok ())
    (raw : layout.format.isCompressed = false) :
    (convertRaw layout data request c : Conversion target Unit) (converter, out) =
      (dispatch layout request).run layout data request c (converter, out) := by
  obtain ⟨plane, found, inside⟩ := FrameLayout.validate_first accepted raw
  have notMjpeg : layout.format ≠ .mjpeg := by
    rintro mjpeg
    rw [mjpeg] at raw
    cases raw
  have notH264 : layout.format ≠ .h264 := by
    rintro h264
    rw [h264] at raw
    cases raw
  have first : layout.planes.head? = some plane := List.head?_eq_getElem?.trans found
  have view {s : RgbConverter target × List UInt8} : Returns (viewPlane layout data 0 0) s _ s :=
    viewPlane_returns found inside (Nat.zero_le _)
  have kernel := @convertSame_isSome layout data c plane (planeView data plane 0) target.cpu first rfl
  unfold convertRaw dispatch
  rw [if_neg notMjpeg, if_neg notH264]
  by_cases half : (directHalfPath layout request).isSome = true
  · rw [if_pos half, if_pos half]
    rfl
  · rw [if_neg half, if_neg half]
    by_cases whole : (request.width, request.height) = (layout.width, layout.height) ∧
        layout.bottomUp = false
    · rw [if_pos whole]
      refine (Returns.then_eq view).trans ?_
      cases made : convertSame target.cpu layout data (planeView data plane 0) c with
      | none =>
          rw [made] at kernel
          rw [if_neg fun same => absurd (kernel.trans same.2.2) (by decide)]
          exact congrFun (convertMapped_run layout data request c) _
      | some write =>
          rw [made] at kernel
          rw [if_pos ⟨whole.1, whole.2, kernel.symm⟩]
          refine ((Returns.then_eq view).trans ?_).symm
          rw [made]
    · rw [if_neg whole, if_neg fun same => whole ⟨same.1, same.2.1⟩]
      exact congrFun (convertMapped_run layout data request c) _

private theorem convertLayoutInto_run (accepted : layout.validate data.length = .ok ())
    (fits : request.outputLen = .ok out.length) (known : coefficientsFor layout request = .ok c) :
    (convertLayoutInto layout data request : Conversion target Unit) (converter, out) =
      (dispatch layout request).run layout data request c (converter, out) := by
  unfold convertLayoutInto
  refine (Returns.then_eq (.ofExcept accepted)).trans ?_
  refine (Returns.then_eq (.ofExcept fits)).trans ?_
  refine (Returns.then_eq .getState).trans ?_
  refine (Returns.then_eq (.failIf (not_not.mpr rfl))).trans ?_
  cases raw : layout.format.isCompressed with
  | true =>
      cases format : layout.format with
      | mjpeg | h264 => simp only [dispatch, format, if_true, if_false, reduceCtorEq, Branch.run]
      | _ =>
          rw [format] at raw
          cases raw
  | false =>
      rw [← convertRaw_run accepted raw]
      cases format : layout.format with
      | mjpeg | h264 =>
          rw [format] at raw
          cases raw
      | _ => exact Returns.then_eq (.ofExcept known)

end Dispatch

/-! ### Names and branches -/

/-- The branch that a name stands for. The RGB row names are those of the mapped scaler. -/
def namedBranch (path : String) : Option Branch :=
  if path ∈ ["nv12-direct-half", "yuv422-direct-half", "yuv420p-direct-half"] then some .half
  else if path = "direct-full-size" then some .same
  else if path ∈ ["yuv-row-convert-nearest-2x3", "yuv-row-convert-nearest-3x4",
      "yuv-row-convert-nearest"] then some .yuvRows
  else if path ∈ ["mapped-nearest", "rgb-row-nearest-2x3", "rgb-row-nearest-3x4"] then some .mapped
  else none

/-- The name says half, same size, rows or map exactly when that branch is taken. -/
def PathAgrees (layout : FrameLayout) (request : ConversionRequest) : Prop :=
  ∀ branch ∈ [Branch.half, .same, .yuvRows, .mapped],
    namedBranch (selectedConversionPath layout request) = some branch ↔
      dispatch layout request = branch

section Names

variable {layout : FrameLayout} {request : ConversionRequest}

theorem directHalfPath_named {path : String} (found : directHalfPath layout request = some path) :
    namedBranch path = some .half := by
  unfold directHalfPath at found
  split at found
  · cases found
  · split at found <;> simp only [Option.ite_none_right_eq_some, Option.some.injEq, reduceCtorEq]
      at found
    · rw [← found.2]; decide
    · rw [← found.2]; decide
    · rw [← found.2]; decide
    · rw [← found.2]; decide
    · rw [← found.2]; decide

theorem scaledName_named {twoThirds threeQuarters other : String} {branch : Branch}
    (all : ∀ path ∈ [twoThirds, threeQuarters, other], namedBranch path = some branch) :
    namedBranch (scaledName layout request twoThirds threeQuarters other) = some branch := by
  unfold scaledName
  split
  · exact all _ (by simp)
  · split
    · exact all _ (by simp)
    · exact all _ (by simp)

private theorem scaledPath_named :
    namedBranch (scaledPath layout request) =
      some (if layout.format.isYuv ∧ supportsYuvRowConversion layout ∧
        min (request.width.toNat * 4) (usizeLimit - 1) ≥ layout.width.toNat then .yuvRows
        else .mapped) := by
  unfold scaledPath
  split
  · rename_i rgb
    rw [if_neg (by rw [rgb.1]; simp [PixelFormat.isYuv])]
    exact scaledName_named (by decide)
  · split
    · exact scaledName_named (by decide)
    · decide

/-- Whether a frame of the size of the request has a kernel that keeps the size. -/
def ServesSameSize (layout : FrameLayout) (request : ConversionRequest) : Prop :=
  layout.format.isCompressed = false →
    (request.width, request.height) = (layout.width, layout.height) →
      layout.bottomUp = false → hasSameKernel layout = true

theorem agrees_of_same {named : Branch}
    (path : namedBranch (selectedConversionPath layout request) = some named)
    (taken : dispatch layout request = named) : PathAgrees layout request :=
  fun _ _ => by rw [path, taken, Option.some.injEq]

private theorem compressed_agrees (compressed : layout.format.isCompressed = true) :
    PathAgrees layout request := by
  intro branch member
  unfold selectedConversionPath dispatch
  cases format : layout.format with
  | mjpeg | h264 =>
      simp only [reduceCtorEq, if_true, if_false]
      revert branch
      decide
  | _ =>
      rw [format] at compressed
      cases compressed

private theorem raw_path (raw : layout.format.isCompressed = false) :
    selectedConversionPath layout request =
      (directHalfPath layout request).getD
        (if (request.width, request.height) = (layout.width, layout.height) ∧
            layout.bottomUp = false then "direct-full-size"
        else scaledPath layout request) := by
  unfold selectedConversionPath
  rw [if_neg, if_neg]
  · cases directHalfPath layout request <;> rfl
  · rintro h264
    rw [h264] at raw
    cases raw
  · rintro mjpeg
    rw [mjpeg] at raw
    cases raw

private theorem raw_dispatch (raw : layout.format.isCompressed = false) :
    dispatch layout request =
      if (directHalfPath layout request).isSome then .half
      else if (request.width, request.height) = (layout.width, layout.height) ∧
          layout.bottomUp = false ∧ hasSameKernel layout then .same
      else if layout.format.isYuv ∧ supportsYuvRowConversion layout ∧
          min (request.width.toNat * 4) (usizeLimit - 1) ≥ layout.width.toNat then .yuvRows
      else .mapped := by
  unfold dispatch
  rw [if_neg, if_neg]
  · rintro h264
    rw [h264] at raw
    cases raw
  · rintro mjpeg
    rw [mjpeg] at raw
    cases raw

private theorem pathAgrees_iff (wide : 0 < layout.width.toNat) :
    PathAgrees layout request ↔ ServesSameSize layout request := by
  cases raw : layout.format.isCompressed with
  | true =>
      refine iff_of_true (compressed_agrees raw) fun plain => ?_
      rw [raw] at plain
      cases plain
  | false =>
      have path := @raw_path layout request raw
      have taken := @raw_dispatch layout request raw
      cases half : directHalfPath layout request with
      | some name =>
          rw [half] at path taken
          refine iff_of_true (agrees_of_same (path ▸ directHalfPath_named half) taken) ?_
          intro _ same _
          have exact : (directHalfPath layout request).isSome = true := by
            rw [half]
            rfl
          obtain ⟨_, even, _, size, _⟩ := exactHalf_facts exact
          have width : request.width.toNat = layout.width.toNat :=
            congrArg UInt32.toNat (Prod.mk.injEq .. |>.mp same).1
          omega
      | none =>
          rw [half, Option.getD_none] at path
          rw [half, if_neg (by simp)] at taken
          by_cases same : (request.width, request.height) = (layout.width, layout.height) ∧
              layout.bottomUp = false
          · rw [if_pos same] at path
            have named : namedBranch (selectedConversionPath layout request) = some .same := by
              rw [path]
              decide
            constructor
            · intro agrees _ _ _
              have reached := (agrees .same (by decide)).mp named
              rw [taken] at reached
              by_contra kernel
              rw [if_neg fun both => kernel both.2.2] at reached
              split at reached <;> cases reached
            · intro serves
              refine agrees_of_same named (taken.trans (if_pos ?_))
              exact ⟨same.1, same.2, serves raw same.1 same.2⟩
          · rw [if_neg same] at path
            rw [if_neg fun both => same ⟨both.1, both.2.1⟩] at taken
            refine iff_of_true (agrees_of_same (path ▸ scaledPath_named) taken) ?_
            exact fun _ size topDown => absurd ⟨size, topDown⟩ same

/-- The name drifts from the branch that runs exactly for a frame that keeps its size and has no
kernel for that. -/
theorem path_agrees_iff {data : List UInt8} (accepted : layout.validate data.length = .ok ()) :
    (∀ (target : Target) (converter : RgbConverter target) (out : List UInt8) (c : Coefficients),
      request.outputLen = .ok out.length → coefficientsFor layout request = .ok c →
        (convertLayoutInto layout data request : Conversion target Unit) (converter, out) =
          (dispatch layout request).run layout data request c (converter, out)) ∧
      (PathAgrees layout request ↔ ServesSameSize layout request) :=
  ⟨fun _ _ _ _ fits known => convertLayoutInto_run accepted fits known,
    pathAgrees_iff (FrameLayout.validate_ok accepted).1⟩

theorem path_agrees_iff_rgb :
    (∀ (target : Target) (converter : RgbConverter target) (out : List UInt8) (c : Coefficients),
      ConversionRequest.outputLen ⟨2, 2, none⟩ = .ok out.length →
        coefficientsFor (FrameLayout.rgb 2 2) ⟨2, 2, none⟩ = .ok c →
          (convertLayoutInto (FrameLayout.rgb 2 2) (List.replicate 12 7) ⟨2, 2, none⟩ :
              Conversion target Unit) (converter, out) =
            (dispatch (FrameLayout.rgb 2 2) ⟨2, 2, none⟩).run (FrameLayout.rgb 2 2)
              (List.replicate 12 7) ⟨2, 2, none⟩ c (converter, out)) ∧
      (PathAgrees (FrameLayout.rgb 2 2) ⟨2, 2, none⟩ ↔
        ServesSameSize (FrameLayout.rgb 2 2) ⟨2, 2, none⟩) :=
  path_agrees_iff (by decide)

/-- A gray frame at its own size is reported as direct and goes through the nearest map. -/
theorem not_always_named :
    (FrameLayout.packed 2 2 .gray8 2 4).validate 4 = .ok () ∧
      selectedConversionPath (FrameLayout.packed 2 2 .gray8 2 4) ⟨2, 2, none⟩ =
        "direct-full-size" ∧
      dispatch (FrameLayout.packed 2 2 .gray8 2 4) ⟨2, 2, none⟩ = .mapped ∧
      ¬PathAgrees (FrameLayout.packed 2 2 .gray8 2 4) ⟨2, 2, none⟩ := by
  refine ⟨by decide, by decide, by decide, fun agrees => ?_⟩
  exact absurd ((agrees .same (by decide)).mp (by decide)) (by decide)

end Names

end CameraRs

/-
Both deliveries of a Camera2 frame show the same image, or both reject the frame: the planes that
the callback decodes are the planes that the native frame describes.
-/

import CameraRs.Camera2.Delivery

namespace CameraRs.Camera2

open Lib Lib.Fill

/-! ### Numbers of the bridge -/

theorem asUsize_lt (n : Int32) : asUsize n < 2 ^ 31 := by
  have bound := n.toInt_lt
  unfold asUsize
  omega

private theorem asUsize_pos {n : Int32} (positive : 0 < n.toInt) : 0 < asUsize n := by
  unfold asUsize
  omega

theorem toUInt32_toNat {n : Int32} (positive : 0 < n.toInt) : n.toUInt32.toNat = asUsize n := by
  have bits : n.toInt = if 2 * n.toUInt32.toNat < 2 ^ 32 then (n.toUInt32.toNat : Int)
      else n.toUInt32.toNat - 2 ^ 32 := BitVec.toInt_eq_toNat_cond n.toBitVec
  have bound := n.toUInt32.toNat_lt
  unfold asUsize
  split at bits <;> omega

theorem toUInt32_ne_zero {n : Int32} (positive : 0 < n.toInt) : n.toUInt32 ≠ 0 := by
  have size := toUInt32_toNat positive
  have some_bits := asUsize_pos positive
  rintro zero
  rw [zero] at size
  exact absurd size (by simp; omega)

@[simp] theorem length_fromRawParts {memory : Memory} {start : UInt64} {length : Nat} :
    (fromRawParts memory start length).length = length := by
  simp [fromRawParts]

/-! ### Parts of a payload -/

section Parts

variable {a b c : List UInt8}

theorem slice_first : slice (a ++ b) 0 a.length = a := by
  simp [slice]

private theorem slice_second : slice (a ++ (b ++ c)) a.length (a.length + b.length) = b := by
  simp [slice]

theorem slice_last : slice (a ++ b) a.length (a.length + b.length) = b := by
  simp [slice]

end Parts

section Delivered

variable {target : Target} {width height : UInt32} {converter : RgbConverter target}
  {out : List UInt8}

theorem camera2Yuv_known : camera2YuvColor.IsKnown :=
  ⟨by decide, by decide⟩

theorem camera2_coefficients {layout : FrameLayout} {c : Coefficients}
    (yuv : layout.format.isYuv = true) (color : layout.color = camera2YuvColor)
    (found : coefficientsFor layout (ConversionRequest.forLayout layout) = .ok c) :
    c = bt601FullCoefficients := by
  have known : colorCoefficients camera2YuvColor = .ok bt601FullCoefficients := rfl
  have request : (ConversionRequest.forLayout layout).color layout = camera2YuvColor := color
  unfold coefficientsFor at found
  rw [request, if_pos yuv, known] at found
  exact (Except.ok.inj found).symm

theorem onUnit_returns {m : RgbFill Unit} {image : List UInt8} (written : Writes m image)
    (length : out.length = image.length) :
    Returns (onSnd m : Fill (Unit × List UInt8) CameraError Unit) ((), out) () ((), image) :=
  .onSnd (written out length)

/-! ### Chroma in one plane -/

/-- The layout of luma and one plane of both chromas. -/
def interleavedLayout (width height : UInt32) (format : PixelFormat) (planes : Yuv420Sp) :
    FrameLayout :=
  { FrameLayout.packed width height format 0 0 with
      color := camera2YuvColor
      planes :=
        [⟨0, planes.y.length, planes.yStride, 1⟩,
          ⟨planes.y.length, planes.uv.length, planes.uvStride, 2⟩] }

def InOrder (format : PixelFormat) (vuOrder : Bool) : Prop :=
  format = .nv12 ∧ vuOrder = false ∨ format = .nv21 ∧ vuOrder = true

section Interleaved

variable {format : PixelFormat} {planes : Yuv420Sp}

theorem InOrder.raw (order : InOrder format planes.vuOrder) :
    format.isCompressed = false ∧ format.isPacked422 = false ∧ format.isYuv = true ∧
      (format == .nv21) = planes.vuOrder ∧ (format = .nv12 ∨ format = .nv21) := by
  rcases order with ⟨rfl, same⟩ | ⟨rfl, same⟩
  · exact ⟨rfl, rfl, rfl, same.symm, Or.inl rfl⟩
  · exact ⟨rfl, rfl, rfl, same.symm, Or.inr rfl⟩

private theorem interleaved_specs (order : InOrder format planes.vuOrder) :
    (interleavedLayout width height format planes).planeSpecs =
      some [⟨width.toNat, height.toNat, 1⟩,
        ⟨divCeil2 width.toNat, divCeil2 height.toNat, 2⟩] := by
  rcases order with ⟨rfl, -⟩ | ⟨rfl, -⟩
  · rfl
  · rfl

theorem interleaved_views :
    planeView (planes.y ++ planes.uv) ⟨0, planes.y.length, planes.yStride, 1⟩ 0 =
        ⟨planes.y, planes.yStride, 1⟩ ∧
      planeView (planes.y ++ planes.uv) ⟨planes.y.length, planes.uv.length, planes.uvStride, 2⟩ 0 =
        ⟨planes.uv, planes.uvStride, 2⟩ := by
  unfold planeView
  rw [Nat.add_zero, Nat.zero_add, Nat.add_zero, slice_first, slice_last]
  exact ⟨rfl, rfl⟩

theorem interleaved_accepts (order : InOrder format planes.vuOrder)
    (sized : width ≠ 0 ∧ height ≠ 0) (small : planes.y.length + planes.uv.length < usizeLimit) :
    (interleavedLayout width height format planes).validate
        (planes.y ++ planes.uv).length = .ok () ↔
      SemiplanarCover planes width.toNat height.toNat := by
  have wide := toNat_pos sized.1
  have tall := toNat_pos sized.2
  have chromaWide := divCeil2_pos wide
  have size : (planes.y ++ planes.uv).length = planes.y.length + planes.uv.length :=
    List.length_append
  obtain ⟨raw, unpacked, -⟩ := order.raw
  have upright : (0 : UInt16) ∈ ([0, 90, 180, 270] : List UInt16) := by decide
  have checked := @FrameLayout.validate_two_iff (interleavedLayout width height format planes)
    (planes.y ++ planes.uv).length _ _ _ _ ⟨sized.1, sized.2, upright⟩ raw unpacked
    (by omega) (interleaved_specs order) rfl
  constructor
  · intro accepted
    obtain ⟨⟨_, luma⟩, _, chroma⟩ := checked.mp accepted
    have cover := semiplanar_cover planes.vuOrder accepted (by omega) luma chroma rfl rfl
    rw [interleaved_views.1, interleaved_views.2] at cover
    exact cover
  · intro cover
    have row : (width.toNat - 1) * 1 + 1 ≤ planes.yStride := cover.luma.row
    have extent : (height.toNat - 1) * planes.yStride + ((width.toNat - 1) * 1 + 1) ≤
        planes.y.length := cover.luma.extent
    have chromaRow := cover.chromaRow
    have chroma := cover.chroma
    refine checked.mpr ⟨⟨show 0 < planes.y.length by omega, ?_⟩,
      show 0 < planes.uv.length by omega, ?_⟩
    · exact
        { inside := show 0 + planes.y.length ≤ _ by omega
          stride := Nat.le_refl _
          row := row
          extent := extent }
    · exact
        { inside := show planes.y.length + planes.uv.length ≤ _ by omega
          stride := Nat.le_refl _
          row := show (divCeil2 width.toNat - 1) * 2 + 2 ≤ planes.uvStride by omega
          extent := show (divCeil2 height.toNat - 1) * planes.uvStride +
            ((divCeil2 width.toNat - 1) * 2 + 2) ≤ planes.uv.length by omega }

theorem interleaved_image (order : InOrder format planes.vuOrder)
    (cover : SemiplanarCover planes width.toNat height.toNat) {c : Coefficients} :
    imageOf (semiplanarAt c planes) width.toNat height.toNat =
      requestedImage (interleavedLayout width height format planes) (planes.y ++ planes.uv) c
        width.toNat height.toNat := by
  obtain ⟨-, -, -, vu, either⟩ := order.raw
  have same : planes = ⟨planes.y, planes.uv, planes.yStride, planes.uvStride, format == .nv21⟩ := by
    rw [vu]
  refine @requested_same (interleavedLayout width height format planes) (planes.y ++ planes.uv)
    (ConversionRequest.forLayout (interleavedLayout width height format planes)) c _ cover.wide
    cover.tall rfl rfl fun row x bound inside => ?_
  have shown := @semiplanar_whole (interleavedLayout width height format planes)
    (planes.y ++ planes.uv) c _ _ row x either rfl rfl rfl
  rw [interleaved_views.1, interleaved_views.2] at shown
  exact (congrArg (semiplanarAt c · row x) same).trans (shown (same ▸ cover) bound inside)

private theorem interleaved_agree (order : InOrder format planes.vuOrder)
    (sized : width ≠ 0 ∧ height ≠ 0) (small : planes.y.length + planes.uv.length < usizeLimit)
    (used : converter.Used) (length : out.length = width.toNat * height.toNat * 3)
    (addressable : out.length < usizeLimit) :
    SameDelivery
      ((onSnd (yuv420spToRgb target.cpu planes width.toNat height.toNat bt601FullCoefficients) :
        Fill (Unit × List UInt8) CameraError Unit) ((), out))
      ((convertNative (.ok (interleavedLayout width height format planes,
        [planes.y, planes.uv])) : Conversion target Unit) (converter, out)) := by
  have flat : [planes.y, planes.uv].flatten = planes.y ++ planes.uv := by simp
  have size : (planes.y ++ planes.uv).length = planes.y.length + planes.uv.length :=
    List.length_append
  obtain ⟨raw, _, yuv, -⟩ := order.raw
  have accepts := @interleaved_accepts width height format planes order sized small
  have payload : Payload (interleavedLayout width height format planes) [planes.y, planes.uv] :=
    { raw := raw
      small := by rw [flat]; omega
      whole := by
        rw [flat]
        change max (0 + planes.y.length) (planes.y.length + planes.uv.length) = _
        omega
      known := fun _ => camera2Yuv_known }
  refine payload.same used length addressable (fun accepted c found => ⟨(), ?_⟩) fun rejected => ?_
  · rw [flat] at accepted ⊢
    have cover := accepts.mp accepted
    obtain rfl := camera2_coefficients yuv rfl found
    have written := (yuv420spToRgb_fills target.cpu (coefficientsFor_configured found) cover
      (by omega)).writes
    rw [interleaved_image order cover] at written
    refine onUnit_returns written ?_
    rw [length, length_requestedImage, ← Nat.mul_assoc, Nat.mul_comm width.toNat]
    rfl
  · rw [flat] at rejected
    exact .onSnd (yuv420spToRgb_fails target.cpu ⟨by omega, by omega⟩
      fun fine => rejected (accepts.mpr fine.1))

end Interleaved

/-! ### Chroma in planes of its own -/

def planarLayout (width height : UInt32) (y u v : YuvPlane) : FrameLayout :=
  { FrameLayout.packed width height .yuv420p 0 0 with
      color := camera2YuvColor
      planes :=
        [⟨0, y.data.length, y.rowStride, y.pixelStride⟩,
          ⟨y.data.length, u.data.length, u.rowStride, u.pixelStride⟩,
          ⟨y.data.length + u.data.length, v.data.length, v.rowStride, v.pixelStride⟩] }

section Planar

variable {y u v : YuvPlane}

theorem planar_views :
    planeView (y.data ++ (u.data ++ v.data)) ⟨0, y.data.length, y.rowStride, y.pixelStride⟩ 0 = y ∧
      planeView (y.data ++ (u.data ++ v.data))
        ⟨y.data.length, u.data.length, u.rowStride, u.pixelStride⟩ 0 = u ∧
      planeView (y.data ++ (u.data ++ v.data))
        ⟨y.data.length + u.data.length, v.data.length, v.rowStride, v.pixelStride⟩ 0 = v := by
  have third := @slice_last (y.data ++ u.data) v.data
  rw [List.append_assoc, List.length_append] at third
  unfold planeView
  rw [Nat.add_zero, Nat.zero_add, Nat.add_zero, Nat.add_zero, slice_first, slice_second, third]
  exact ⟨rfl, rfl, rfl⟩

theorem holds_of_covers {plane : YuvPlane} {cols rows length offset : Nat}
    (covers : plane.Covers cols rows) (inside : offset + plane.data.length ≤ length) :
    FrameLayout.Holds length ⟨offset, plane.data.length, plane.rowStride, plane.pixelStride⟩
      ⟨cols, rows, 1⟩ :=
  { inside := inside
    stride := covers.step
    row := covers.row
    extent := covers.extent }

private theorem planar_accepts (sized : width ≠ 0 ∧ height ≠ 0)
    (small : y.data.length + u.data.length + v.data.length < usizeLimit) :
    (planarLayout width height y u v).validate
        (y.data ++ (u.data ++ v.data)).length = .ok () ↔
      PlanarCover y u v width.toNat height.toNat := by
  have wide := toNat_pos sized.1
  have tall := toNat_pos sized.2
  have size : (y.data ++ (u.data ++ v.data)).length =
      y.data.length + u.data.length + v.data.length := by
    rw [List.length_append, List.length_append, Nat.add_assoc]
  have upright : (0 : UInt16) ∈ ([0, 90, 180, 270] : List UInt16) := by decide
  have checked := @FrameLayout.validate_three_iff (planarLayout width height y u v)
    (y.data ++ (u.data ++ v.data)).length _ _ _ ⟨width.toNat, height.toNat, 1⟩
    ⟨divCeil2 width.toNat, divCeil2 height.toNat, 1⟩
    ⟨divCeil2 width.toNat, divCeil2 height.toNat, 1⟩ ⟨sized.1, sized.2, upright⟩ rfl rfl (by omega)
    rfl rfl
  constructor
  · intro accepted
    obtain ⟨⟨_, luma⟩, ⟨_, chromaU⟩, _, chromaV⟩ := checked.mp accepted
    have cover := planar_cover 0 0 accepted (by omega) luma chromaU chromaV ⟨rfl, rfl⟩ ⟨rfl, rfl⟩
      ⟨Nat.one_pos, Nat.one_pos⟩
    rw [planar_views.1, planar_views.2.1, planar_views.2.2] at cover
    exact cover
  · intro cover
    have nonempty {plane : YuvPlane} {cols rows : Nat} (covers : plane.Covers cols rows) :
        0 < plane.data.length := by
      have extent := covers.extent
      omega
    exact checked.mpr
      ⟨⟨nonempty cover.luma, holds_of_covers cover.luma (by omega)⟩,
        ⟨nonempty cover.u, holds_of_covers cover.u (by omega)⟩,
        nonempty cover.v, holds_of_covers cover.v (by omega)⟩

theorem planar_image (cover : PlanarCover y u v width.toNat height.toNat) {c : Coefficients} :
    imageOf (planarAt c y u v) width.toNat height.toNat =
      requestedImage (planarLayout width height y u v) (y.data ++ (u.data ++ v.data)) c
        width.toNat height.toNat := by
  refine @requested_same (planarLayout width height y u v) (y.data ++ (u.data ++ v.data))
    (ConversionRequest.forLayout (planarLayout width height y u v)) c _ cover.wide
    cover.tall rfl rfl fun row x bound inside => ?_
  have shown := @planar_whole (planarLayout width height y u v) (y.data ++ (u.data ++ v.data)) c
    _ _ _ row x rfl rfl
  rw [planar_views.1, planar_views.2.1, planar_views.2.2] at shown
  exact shown cover bound inside

private theorem planar_agree (sized : width ≠ 0 ∧ height ≠ 0)
    (small : y.data.length + u.data.length + v.data.length < usizeLimit)
    (used : converter.Used) (length : out.length = width.toNat * height.toNat * 3)
    (addressable : out.length < usizeLimit) :
    SameDelivery
      ((onSnd (yuv420ToRgb target.cpu y u v width.toNat height.toNat bt601FullCoefficients) :
        Fill (Unit × List UInt8) CameraError Unit) ((), out))
      ((convertNative (.ok (planarLayout width height y u v, [y.data, u.data, v.data])) :
        Conversion target Unit) (converter, out)) := by
  have flat : [y.data, u.data, v.data].flatten = y.data ++ (u.data ++ v.data) := by simp
  have size : (y.data ++ (u.data ++ v.data)).length =
      y.data.length + u.data.length + v.data.length := by
    rw [List.length_append, List.length_append, Nat.add_assoc]
  have accepts := @planar_accepts width height y u v sized small
  have payload : Payload (planarLayout width height y u v) [y.data, u.data, v.data] :=
    { raw := rfl
      small := by rw [flat]; omega
      whole := by
        rw [flat]
        change max (max (0 + y.data.length) (y.data.length + u.data.length))
          (y.data.length + u.data.length + v.data.length) = _
        omega
      known := fun _ => camera2Yuv_known }
  refine payload.same used length addressable (fun accepted c found => ⟨(), ?_⟩) fun rejected => ?_
  · rw [flat] at accepted ⊢
    have cover := accepts.mp accepted
    obtain rfl := camera2_coefficients rfl rfl found
    have written := (yuv420ToRgb_fills target.cpu (coefficientsFor_configured found) cover
      (by omega)).writes
    rw [planar_image cover] at written
    refine onUnit_returns written ?_
    rw [length, length_requestedImage, ← Nat.mul_assoc, Nat.mul_comm width.toNat]
    rfl
  · rw [flat] at rejected
    exact .onSnd (yuv420ToRgb_fails target.cpu ⟨by omega, by omega, by omega⟩
      fun fine => rejected (accepts.mpr fine.1))

end Planar

end Delivered

/-! ### Every frame -/

theorem interleavedChromaLayout_some {width height : Nat} {u v : ChromaPlaneSpan}
    {chroma : InterleavedChromaLayout}
    (found : interleavedChromaLayout width height u v = some chroma) :
    chroma.format = .nv12 ∧ chroma.start = u.start ∧ chroma.length = u.length ∨
      chroma.format = .nv21 ∧ chroma.start = v.start ∧ chroma.length = v.length := by
  unfold interleavedChromaLayout at found
  split at found
  · cases found
  · cases base : chromaBase u v with
    | none =>
        rw [base] at found
        cases found
    | some choice =>
        obtain ⟨lower, upper, format⟩ := choice
        rw [base] at found
        simp only [Option.bind_eq_bind, Option.bind_some, Option.bind_eq_some_iff] at found
        obtain ⟨_, -, _, -, _, -, _, -, found⟩ := found
        split at found
        · cases found
        · obtain rfl := Option.some.inj found
          unfold chromaBase at base
          split at base
          · obtain ⟨rfl, rfl, rfl⟩ := Prod.mk.injEq .. |>.mp (Option.some.inj base)
            exact Or.inl ⟨rfl, rfl, rfl⟩
          · split at base
            · cases base
              exact Or.inr ⟨rfl, rfl, rfl⟩
            · cases base

section Frames

variable {target : Target} {memory : Memory} {frame : NdkFrameData}
  {converter : RgbConverter target} {out : List UInt8}

namespace NdkFrameData

/-- The planes that the callback decodes when the two chromas are one plane. -/
def interleaved (frame : NdkFrameData) (memory : Memory) (chroma : InterleavedChromaLayout) :
    Yuv420Sp :=
  { y := fromRawParts memory frame.yData (asUsize frame.yLen)
    uv := fromRawParts memory chroma.start chroma.length
    yStride := asUsize frame.rowStrideY
    uvStride := chroma.rowStride
    vuOrder := chroma.format == .nv21 }

def yPlane (frame : NdkFrameData) (memory : Memory) : YuvPlane :=
  ⟨fromRawParts memory frame.yData (asUsize frame.yLen), asUsize frame.rowStrideY, 1⟩

def uPlane (frame : NdkFrameData) (memory : Memory) : YuvPlane :=
  ⟨fromRawParts memory frame.uvData (asUsize frame.uvLen), asUsize frame.rowStrideUv,
    asUsize frame.pixelStrideUv⟩

def vPlane (frame : NdkFrameData) (memory : Memory) : YuvPlane :=
  ⟨fromRawParts memory frame.vData (asUsize frame.vLen), asUsize frame.rowStrideV,
    asUsize frame.pixelStrideV⟩

end NdkFrameData

/-- A YUV frame whose metadata is accepted. -/
structure Described (frame : NdkFrameData) : Prop where
  yuv : frame.pixelFormat ≠ pixelFormatRgba8888
  wide : 0 < frame.width.toInt
  tall : 0 < frame.height.toInt
  fine : frame.badPlanes = false

namespace Described

theorem decoded {cpu : Cpu} (described : Described frame) :
    convertFrame cpu memory frame =
      convertCamera2Yuv cpu memory frame (asUsize frame.width) (asUsize frame.height) := by
  unfold convertFrame
  rw [if_neg fun rgba => described.yuv rgba.1, described.fine]
  rfl

theorem published (described : Described frame) :
    ¬(frame.width.toInt ≤ 0 ∨ frame.height.toInt ≤ 0 ∨ frame.badPlanes = true) := by
  rintro (narrow | flat | bad)
  · exact absurd described.wide (Int.not_lt.mpr narrow)
  · exact absurd described.tall (Int.not_lt.mpr flat)
  · exact absurd (bad.symm.trans described.fine) (by decide)

variable {chroma : InterleavedChromaLayout}

private theorem decoded_interleaved {cpu : Cpu} (described : Described frame)
    (one : interleavedChromaLayout (asUsize frame.width) (asUsize frame.height) frame.uSpan
      frame.vSpan = some chroma) :
    convertFrame cpu memory frame = yuv420spToRgb cpu (frame.interleaved memory chroma)
      (asUsize frame.width) (asUsize frame.height) bt601FullCoefficients := by
  rw [described.decoded, convertCamera2Yuv, one]
  rfl

private theorem decoded_planar {cpu : Cpu} (described : Described frame)
    (apart : interleavedChromaLayout (asUsize frame.width) (asUsize frame.height) frame.uSpan
      frame.vSpan = none) :
    convertFrame cpu memory frame = yuv420ToRgb cpu (frame.yPlane memory) (frame.uPlane memory)
      (frame.vPlane memory) (asUsize frame.width) (asUsize frame.height)
      bt601FullCoefficients := by
  rw [described.decoded, convertCamera2Yuv, apart]
  rfl

private theorem published_interleaved (described : Described frame)
    (one : interleavedChromaLayout (asUsize frame.width) (asUsize frame.height) frame.uSpan
      frame.vSpan = some chroma) :
    nativeFrameLayout memory frame =
      .ok (interleavedLayout frame.width.toUInt32 frame.height.toUInt32 chroma.format
        (frame.interleaved memory chroma),
          [(frame.interleaved memory chroma).y, (frame.interleaved memory chroma).uv]) := by
  unfold nativeFrameLayout
  rw [if_neg described.yuv, if_neg described.published, one]
  have same : (if chroma.format = .nv12 then
        fromRawParts memory frame.uvData (asUsize frame.uvLen)
      else fromRawParts memory frame.vData (asUsize frame.vLen)) =
        fromRawParts memory chroma.start chroma.length := by
    rcases interleavedChromaLayout_some one with ⟨format, start, length⟩ | ⟨format, start, length⟩
    · rw [format, start, length, if_pos rfl]
      rfl
    · rw [format, start, length, if_neg (by decide)]
      rfl
  simp only [same, interleavedLayout, NdkFrameData.interleaved, length_fromRawParts]

private theorem published_planar (described : Described frame)
    (apart : interleavedChromaLayout (asUsize frame.width) (asUsize frame.height) frame.uSpan
      frame.vSpan = none) :
    nativeFrameLayout memory frame =
      .ok (planarLayout frame.width.toUInt32 frame.height.toUInt32 (frame.yPlane memory)
        (frame.uPlane memory) (frame.vPlane memory),
          [(frame.yPlane memory).data, (frame.uPlane memory).data,
            (frame.vPlane memory).data]) := by
  unfold nativeFrameLayout
  rw [if_neg described.yuv, if_neg described.published, apart]
  simp only [planarLayout, NdkFrameData.yPlane, NdkFrameData.uPlane, NdkFrameData.vPlane,
    length_fromRawParts]

end Described

private theorem badPlanes_agree (yuv : frame.pixelFormat ≠ pixelFormatRgba8888)
    (bad : frame.badPlanes = true) :
    SameDelivery
      ((onSnd (convertFrame target.cpu memory frame) : Fill (Unit × List UInt8) CameraError Unit)
        ((), out))
      ((convertNative (nativeFrameLayout memory frame) : Conversion target Unit)
        (converter, out)) := by
  refine .failed (.onSnd ?_) ?_
  · unfold convertFrame
    rw [if_neg fun rgba => yuv rgba.1, if_pos bad]
    exact .refused .fail
  · unfold nativeFrameLayout
    rw [if_neg yuv, if_pos (Or.inr (Or.inr bad))]
    exact .refused (.here (.ofExcept rfl))

/-- The two deliveries of a YUV frame agree, whatever its planes are. -/
theorem frames_agree (used : converter.Used) (yuv : frame.pixelFormat ≠ pixelFormatRgba8888)
    (wide : 0 < frame.width.toInt) (tall : 0 < frame.height.toInt)
    (length : out.length = asUsize frame.width * asUsize frame.height * 3) :
    SameDelivery
      ((onSnd (convertFrame target.cpu memory frame) : Fill (Unit × List UInt8) CameraError Unit)
        ((), out))
      ((convertNative (nativeFrameLayout memory frame) : Conversion target Unit)
        (converter, out)) := by
  cases bad : frame.badPlanes with
  | true => exact badPlanes_agree yuv bad
  | false =>
      have sized : frame.width.toUInt32 ≠ 0 ∧ frame.height.toUInt32 ≠ 0 :=
        ⟨toUInt32_ne_zero wide, toUInt32_ne_zero tall⟩
      have addressable : out.length < usizeLimit := by
        have area : asUsize frame.width * asUsize frame.height ≤ 2 ^ 31 * 2 ^ 31 :=
          Nat.mul_le_mul (Nat.le_of_lt (asUsize_lt _)) (Nat.le_of_lt (asUsize_lt _))
        unfold usizeLimit
        omega
      have described : Described frame := ⟨yuv, wide, tall, bad⟩
      have yLen := asUsize_lt frame.yLen
      have uvLen := asUsize_lt frame.uvLen
      have vLen := asUsize_lt frame.vLen
      cases one : interleavedChromaLayout (asUsize frame.width) (asUsize frame.height)
          frame.uSpan frame.vSpan with
      | some chroma =>
          have order : InOrder chroma.format (frame.interleaved memory chroma).vuOrder ∧
              chroma.length < 2 ^ 31 := by
            rcases interleavedChromaLayout_some one with ⟨format, _, size⟩ | ⟨format, _, size⟩
            · exact ⟨Or.inl ⟨format, by rw [NdkFrameData.interleaved, format]; rfl⟩, size ▸ uvLen⟩
            · exact ⟨Or.inr ⟨format, by rw [NdkFrameData.interleaved, format]; rfl⟩, size ▸ vLen⟩
          rw [described.decoded_interleaved one, described.published_interleaved one]
          rw [← toUInt32_toNat wide, ← toUInt32_toNat tall] at length ⊢
          refine interleaved_agree order.1 sized ?_ used length addressable
          simp only [NdkFrameData.interleaved, length_fromRawParts, usizeLimit]
          omega
      | none =>
          rw [described.decoded_planar one, described.published_planar one]
          rw [← toUInt32_toNat wide, ← toUInt32_toNat tall] at length ⊢
          refine planar_agree sized ?_ used length addressable
          simp only [NdkFrameData.yPlane, NdkFrameData.uPlane, NdkFrameData.vPlane,
            length_fromRawParts, usizeLimit]
          omega

end Frames

/-- A 2x2 frame whose views of U and V overlap. -/
def smallFrame : NdkFrameData :=
  { rgbData := 0
    rgbLen := 0
    yData := 4096
    yLen := 4
    uvData := 4100
    uvLen := 2
    vData := 4101
    vLen := 1
    rowStrideV := 2
    pixelStrideV := 2
    width := 2
    height := 2
    rowStrideY := 2
    rowStrideUv := 2
    pixelStrideUv := 2
    rowStrideRgb := 0
    pixelFormat := pixelFormatYuv420 }

theorem frames_agree_overlapping :
    SameDelivery
      ((onSnd (convertFrame Target.withoutJpeg.cpu (fun _ => 128) smallFrame) :
        Fill (Unit × List UInt8) CameraError Unit) ((), List.replicate 12 0))
      ((convertNative (nativeFrameLayout (fun _ => 128) smallFrame) :
        Conversion Target.withoutJpeg Unit) ({}, List.replicate 12 0)) :=
  frames_agree RgbConverter.used_new (by decide) (by decide) (by decide) rfl

end CameraRs.Camera2

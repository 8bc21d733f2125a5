/-
What the kernels reject: planes that do not cover the image, and a destination that
does not hold it, fail a check.
-/

import CameraRs.Conversion.KernelImages

namespace CameraRs

open Lib Fill

/-! ### Planes -/

section Planes

variable {plane : YuvPlane} {width height : Nat}

theorem YuvPlane.covers_of_validate (accepted : plane.validate width height = .ok ())
    (wide : 0 < width) (tall : 0 < height) (small : plane.data.length < usizeLimit) :
    plane.Covers width height := by
  unfold YuvPlane.validate at accepted
  dsimp only at accepted
  split at accepted
  · contradiction
  · rename_i bounds
    push Not at bounds
    obtain ⟨step, row, extent⟩ := bounds
    rw [checkedSub, if_pos (by omega), Option.bind_some] at row
    rw [checkedSub, if_pos (by omega), Option.bind_some, checkedSub, if_pos (by omega),
      Option.bind_some] at extent
    cases rowBytes : (checkedMul (width - 1) plane.pixelStride).bind (checkedAdd · 1) with
    | none =>
        rw [rowBytes] at row
        exact absurd rfl row
    | some bytes =>
        rw [rowBytes] at row extent
        obtain ⟨_, product, sum⟩ := Option.bind_eq_some_iff.mp rowBytes
        obtain ⟨_, rfl⟩ := checkedMul_eq_some.mp product
        obtain ⟨_, rfl⟩ := checkedAdd_eq_some.mp sum
        simp only [Option.bind_some] at extent
        cases required : (checkedMul (height - 1) plane.rowStride).bind
            (checkedAdd · ((width - 1) * plane.pixelStride + 1)) with
        | none =>
            rw [required] at extent
            exact absurd rfl extent
        | some whole =>
            rw [required] at extent
            obtain ⟨_, product, sum⟩ := Option.bind_eq_some_iff.mp required
            obtain ⟨_, rfl⟩ := checkedMul_eq_some.mp product
            obtain ⟨_, rfl⟩ := checkedAdd_eq_some.mp sum
            simp only [Option.all_some, decide_eq_true_eq, ne_eq, Nat.not_lt] at row extent
            exact
              { step := Nat.pos_of_ne_zero step
                row := row
                extent := extent
                small := small }

theorem YuvPlane.positive_of_validate (accepted : plane.validate width height = .ok ()) :
    0 < width ∧ 0 < height := by
  unfold YuvPlane.validate at accepted
  dsimp only at accepted
  split at accepted
  · contradiction
  · rename_i bounds
    push Not at bounds
    obtain ⟨_, row, extent⟩ := bounds
    constructor
    · by_contra empty
      rw [checkedSub, if_neg (by omega)] at row
      exact absurd rfl row
    · by_contra empty
      rw [show checkedSub height 1 = none from if_neg (by omega)] at extent
      exact absurd rfl extent

end Planes

/-! ### Kernels -/

section Kernels

variable {c : Coefficients} {width height : Nat} {old : List UInt8}

theorem product_eq {a b d n : Nat} (known : (checkedMul a b).bind (checkedMul · d) = some n) :
    n = a * b * d := by
  obtain ⟨_, product, whole⟩ := Option.bind_eq_some_iff.mp known
  obtain ⟨_, rfl⟩ := checkedMul_eq_some.mp product
  exact (checkedMul_eq_some.mp whole).2.symm

theorem required_eq {rows stride bytes required : Nat}
    (known : (checkedMul rows stride).bind (checkedAdd · bytes) = some required) :
    required = rows * stride + bytes := by
  obtain ⟨_, product, sum⟩ := Option.bind_eq_some_iff.mp known
  obtain ⟨_, rfl⟩ := checkedMul_eq_some.mp product
  exact (checkedAdd_eq_some.mp sum).2.symm

theorem yuv420ToRgb_fails (cpu : Cpu) {y u v : YuvPlane}
    (small : y.data.length < usizeLimit ∧ u.data.length < usizeLimit ∧
      v.data.length < usizeLimit)
    (short : ¬(PlanarCover y u v width height ∧ width * height * 3 ≤ old.length)) :
    Fails (yuv420ToRgb cpu y u v width height c) old := by
  refine .unlessError fun _ luma => .unlessError fun _ chromaU => .unlessError fun _ chromaV =>
    .unlessNone fun length product => .later .getState (.here (.failIf ?_))
  obtain ⟨wide, tall⟩ := YuvPlane.positive_of_validate luma
  rw [product_eq product]
  by_contra enough
  refine short ⟨?_, by omega⟩
  exact
    { wide := wide
      tall := tall
      luma := YuvPlane.covers_of_validate luma wide tall small.1
      u := YuvPlane.covers_of_validate chromaU (divCeil2_pos wide) (divCeil2_pos tall) small.2.1
      v := YuvPlane.covers_of_validate chromaV (divCeil2_pos wide) (divCeil2_pos tall) small.2.2 }

theorem yuv420ToRgbHalf_fails (cpu : Cpu) {y u v : YuvPlane}
    (small : y.data.length < usizeLimit ∧ u.data.length < usizeLimit ∧
      v.data.length < usizeLimit)
    (short : ¬(PlanarCover y u v width height ∧ (width % 2 = 0 ∧ height % 2 = 0) ∧
      (y.pixelStride = 1 ∧ u.pixelStride = 1 ∧ v.pixelStride = 1) ∧
      width / 2 * (height / 2) * 3 ≤ old.length)) :
    Fails (yuv420ToRgbHalf cpu y u v width height c) old := by
  refine .unlessIf fun shape => .unlessError fun _ luma => .unlessError fun _ chromaU =>
    .unlessError fun _ chromaV => .unlessIf fun contiguous => .unlessNone fun length product =>
      .later .getState (.here (.failIf ?_))
  push Not at shape contiguous
  obtain ⟨wide, tall⟩ := YuvPlane.positive_of_validate luma
  obtain ⟨halfWide, halfTall⟩ := YuvPlane.positive_of_validate chromaU
  rw [product_eq product]
  by_contra enough
  refine short ⟨?_, ⟨shape.2.2.1, shape.2.2.2⟩, contiguous, by omega⟩
  have coverU := YuvPlane.covers_of_validate chromaU halfWide halfTall small.2.1
  have coverV := YuvPlane.covers_of_validate chromaV halfWide halfTall small.2.2
  rw [← divCeil2_even shape.2.2.1, ← divCeil2_even shape.2.2.2] at coverU coverV
  exact
    { wide := wide
      tall := tall
      luma := YuvPlane.covers_of_validate luma wide tall small.1
      u := coverU
      v := coverV }

private theorem yuv420spBt601FullToRgb_fails {planes : Yuv420Sp}
    (small : planes.y.length < usizeLimit ∧ planes.uv.length < usizeLimit)
    (short : ¬(SemiplanarCover planes width height ∧ width * height * 3 ≤ old.length)) :
    Fails (yuv420spBt601FullToRgb planes width height) old := by
  refine .unlessIf fun shape => .unlessNone fun chromaRowBytes chromaRow => .unlessIf fun stride =>
    .unlessNone fun requiredY luma => .unlessNone fun requiredUv chroma =>
      .unlessNone fun requiredRgb rgb => .later .getState (.here (.failIf ?_))
  obtain ⟨_, rfl⟩ := checkedMul_eq_some.mp chromaRow
  rw [required_eq luma, required_eq chroma, product_eq rgb]
  push Not at shape
  by_contra enough
  push Not at enough
  refine short ⟨?_, enough.2.2⟩
  exact
    { wide := by omega
      tall := by omega
      luma :=
        { step := Nat.one_pos
          row := show (width - 1) * 1 + 1 ≤ planes.yStride by omega
          extent := show (height - 1) * planes.yStride + ((width - 1) * 1 + 1) ≤
            planes.y.length by omega
          small := small.1 }
      chromaRow := by omega
      chroma := by omega
      small := small.2 }

theorem yuv420spToRgb_fails (cpu : Cpu) {planes : Yuv420Sp}
    (small : planes.y.length < usizeLimit ∧ planes.uv.length < usizeLimit)
    (short : ¬(SemiplanarCover planes width height ∧ width * height * 3 ≤ old.length)) :
    Fails (yuv420spToRgb cpu planes width height c) old := by
  unfold yuv420spToRgb
  split
  · exact yuv420spBt601FullToRgb_fails small short
  · refine .unlessError fun _ luma => .unlessNone fun chromaRowBytes chromaRow =>
      .unlessNone fun requiredUv chroma => .unlessNone fun requiredRgb rgb =>
        .later .getState (.here (.failIf ?_))
    obtain ⟨wide, tall⟩ := YuvPlane.positive_of_validate luma
    obtain ⟨_, rfl⟩ := checkedMul_eq_some.mp chromaRow
    rw [required_eq chroma, product_eq rgb]
    by_contra enough
    push Not at enough
    refine short ⟨?_, enough.2.2⟩
    exact
      { wide := wide
        tall := tall
        luma := YuvPlane.covers_of_validate luma wide tall small.1
        chromaRow := by omega
        chroma := by omega
        small := small.2 }

theorem yuv420spToRgbHalf_fails (cpu : Cpu) {planes : Yuv420Sp}
    (small : planes.y.length < usizeLimit ∧ planes.uv.length < usizeLimit)
    (short : ¬(SemiplanarCover planes width height ∧ (width % 2 = 0 ∧ height % 2 = 0) ∧
      width / 2 * (height / 2) * 3 ≤ old.length)) :
    Fails (yuv420spToRgbHalf cpu planes width height c) old := by
  refine .unlessIf fun shape => .unlessError fun _ luma => .unlessNone fun requiredUv chroma =>
    .unlessNone fun requiredRgb rgb => .later .getState (.here (.failIf ?_))
  push Not at shape
  obtain ⟨wide, tall⟩ := YuvPlane.positive_of_validate luma
  have columns : divCeil2 width * 2 = width := by
    rw [divCeil2_even shape.2.2.1]
    omega
  rw [required_eq chroma, product_eq rgb]
  by_contra enough
  push Not at enough
  refine short ⟨?_, ⟨shape.2.2.1, shape.2.2.2⟩, enough.2.2⟩
  exact
    { wide := wide
      tall := tall
      luma := YuvPlane.covers_of_validate luma wide tall small.1
      chromaRow := by rw [columns]; exact enough.1
      chroma := by rw [divCeil2_even shape.2.2.2, columns]; exact enough.2.1
      small := small.2 }

theorem yuv422ToRgb_fails (cpu : Cpu) {source : List UInt8} {stride : Nat} {uyvy : Bool}
    (small : source.length < usizeLimit)
    (short : ¬(PackedCover 2 source width height stride ∧ width % 2 = 0 ∧
      width * height * 3 ≤ old.length)) :
    Fails (yuv422ToRgb cpu source width height stride uyvy c) old := by
  refine .unlessNone fun sourceRowBytes sourceRow => .unlessNone fun rgbRowBytes rgbRow =>
    .unlessIf fun shape => .unlessNone fun requiredSource whole =>
      .unlessNone fun requiredRgb rgb => .later .getState (.here (.failIf ?_))
  obtain ⟨_, rfl⟩ := checkedMul_eq_some.mp sourceRow
  obtain ⟨_, rfl⟩ := checkedMul_eq_some.mp rgbRow
  obtain ⟨_, rfl⟩ := checkedMul_eq_some.mp rgb
  rw [required_eq whole]
  push Not at shape
  by_contra enough
  rw [← Nat.mul_assoc, Nat.mul_comm height] at enough
  exact short ⟨⟨by omega, by omega, shape.2.2.2, by omega, small⟩, shape.2.2.1, by omega⟩

theorem yuv422ToRgbHalf_fails (cpu : Cpu) {source : List UInt8} {stride : Nat} {uyvy : Bool}
    (small : source.length < usizeLimit)
    (short : ¬(PackedCover 2 source width height stride ∧ (width % 2 = 0 ∧ height % 2 = 0) ∧
      width / 2 * (height / 2) * 3 ≤ old.length)) :
    Fails (yuv422ToRgbHalf cpu source width height stride uyvy c) old := by
  refine .unlessNone fun sourceRowBytes sourceRow => .unlessNone fun rgbRowBytes rgbRow =>
    .unlessIf fun shape => .unlessNone fun requiredSource whole =>
      .unlessNone fun requiredRgb rgb => .later .getState (.here (.failIf ?_))
  obtain ⟨_, rfl⟩ := checkedMul_eq_some.mp sourceRow
  obtain ⟨_, rfl⟩ := checkedMul_eq_some.mp rgbRow
  obtain ⟨_, rfl⟩ := checkedMul_eq_some.mp rgb
  rw [required_eq whole]
  push Not at shape
  by_contra enough
  rw [← Nat.mul_assoc, Nat.mul_comm (height / 2)] at enough
  exact short ⟨⟨by omega, by omega, shape.2.2.2.2, by omega, small⟩,
    ⟨shape.2.2.1, shape.2.2.2.1⟩, by omega⟩

theorem packed8888ToRgb_fails (cpu : Cpu) {r g b : Nat} {source : List UInt8} {stride : Nat}
    (small : source.length < usizeLimit)
    (short : ¬(PackedCover 4 source width height stride ∧ width * height * 3 ≤ old.length)) :
    Fails (packed8888ToRgb cpu r g b source width height stride) old := by
  refine .unlessNone fun packedRowBytes packedRow => .unlessNone fun rgbRowBytes rgbRow =>
    .unlessIf fun shape => .unlessNone fun requiredPacked whole =>
      .unlessNone fun requiredRgb rgb => .later .getState (.here (.failIf ?_))
  obtain ⟨_, rfl⟩ := checkedMul_eq_some.mp packedRow
  obtain ⟨_, rfl⟩ := checkedMul_eq_some.mp rgbRow
  obtain ⟨_, rfl⟩ := checkedMul_eq_some.mp rgb
  rw [required_eq whole]
  push Not at shape
  by_contra enough
  rw [← Nat.mul_assoc, Nat.mul_comm height] at enough
  exact short ⟨⟨by omega, by omega, shape.2.2, by omega, small⟩, by omega⟩

end Kernels

end CameraRs

/-
Two chroma views that are one plane.

The lower view has to contain the upper one and the visible chroma area, so every sample
of both views is a byte of the lower view. The upper view may end before its last samples;
then only the interleaved plane can be converted.
-/

import CameraRs.Camera2.Agreement

namespace CameraRs.Camera2

open Lib Lib.Fill

namespace ChromaPlaneSpan

def address (span : ChromaPlaneSpan) (row col : Nat) : Nat :=
  span.start.toNat + row * span.rowStride + col * span.pixelStride

def view (span : ChromaPlaneSpan) (memory : Memory) : YuvPlane :=
  ⟨fromRawParts memory span.start span.length, span.rowStride, span.pixelStride⟩

end ChromaPlaneSpan

namespace InterleavedChromaLayout

/-- The view whose first sample is the second byte of the plane. -/
def upper (chroma : InterleavedChromaLayout) (u v : ChromaPlaneSpan) : ChromaPlaneSpan :=
  if chroma.format = .nv12 then v else u

def planes (chroma : InterleavedChromaLayout) (memory : Memory) (y : YuvPlane) : Yuv420Sp :=
  { y := y.data
    uv := fromRawParts memory chroma.start chroma.length
    yStride := y.rowStride
    uvStride := chroma.rowStride
    vuOrder := chroma.format == .nv21 }

end InterleavedChromaLayout

structure Overlaid (width height : Nat) (lower upper : ChromaPlaneSpan)
    (chroma : InterleavedChromaLayout) : Prop where
  wide : 0 < width
  tall : 0 < height
  lowerStep : lower.pixelStride = 2
  upperStep : upper.pixelStride = 2
  strides : upper.rowStride = lower.rowStride
  next : upper.start.toNat = lower.start.toNat + 1
  start : chroma.start = lower.start
  length : chroma.length = lower.length
  rowStride : chroma.rowStride = lower.rowStride
  upperEnd : upper.start.toNat + upper.length ≤ lower.start.toNat + lower.length
  bounded : lower.start.toNat + lower.length < usizeLimit
  row : divCeil2 width * 2 ≤ lower.rowStride
  area : (divCeil2 height - 1) * lower.rowStride + divCeil2 width * 2 ≤ lower.length

variable {width height : Nat} {u v lower upper : ChromaPlaneSpan}
  {chroma : InterleavedChromaLayout} {format : PixelFormat} {memory : Memory} {row col : Nat}

private theorem chromaBase_next (base : chromaBase u v = some (lower, upper, format)) :
    upper.start.toNat = lower.start.toNat + 1 ∧
      (format = .nv12 ∧ lower = u ∧ upper = v ∨ format = .nv21 ∧ lower = v ∧ upper = u) := by
  unfold chromaBase at base
  split at base
  · next adjacent =>
      cases base
      exact ⟨(checkedAdd_eq_some.mp adjacent).2.symm, .inl ⟨rfl, rfl, rfl⟩⟩
  · split at base
    · next adjacent =>
        cases base
        exact ⟨(checkedAdd_eq_some.mp adjacent).2.symm, .inr ⟨rfl, rfl, rfl⟩⟩
    · cases base

theorem interleaved_overlaid (found : interleavedChromaLayout width height u v = some chroma) :
    chroma.format = .nv12 ∧ Overlaid width height u v chroma ∨
      chroma.format = .nv21 ∧ Overlaid width height v u chroma := by
  unfold interleavedChromaLayout at found
  split at found
  · cases found
  · next shape =>
      push Not at shape
      obtain ⟨wide, tall, stepU, stepV, strides⟩ := shape
      obtain ⟨⟨lower, upper, format⟩, base, found⟩ := Option.bind_eq_some_iff.mp found
      obtain ⟨lowerEnd, lowerSum, found⟩ := Option.bind_eq_some_iff.mp found
      obtain ⟨upperEnd, upperSum, found⟩ := Option.bind_eq_some_iff.mp found
      obtain ⟨rowBytes, rowProduct, found⟩ := Option.bind_eq_some_iff.mp found
      obtain ⟨required, area, found⟩ := Option.bind_eq_some_iff.mp found
      obtain ⟨product, rows, sum⟩ := Option.bind_eq_some_iff.mp area
      obtain ⟨before, last, rows⟩ := Option.bind_eq_some_iff.mp rows
      have chromaTall : 1 ≤ divCeil2 height := divCeil2_pos (Nat.pos_of_ne_zero tall)
      rw [checkedSub, if_pos chromaTall] at last
      obtain rfl := Option.some.inj last
      obtain ⟨_, rfl⟩ := checkedMul_eq_some.mp rowProduct
      obtain ⟨_, rfl⟩ := checkedMul_eq_some.mp rows
      obtain ⟨_, rfl⟩ := checkedAdd_eq_some.mp sum
      obtain ⟨bounded, rfl⟩ := checkedAdd_eq_some.mp lowerSum
      obtain ⟨_, rfl⟩ := checkedAdd_eq_some.mp upperSum
      split at found
      · cases found
      · next fits =>
          push Not at fits
          obtain rfl := Option.some.inj found
          obtain ⟨next, order⟩ := chromaBase_next base
          rcases order with ⟨format, rfl, rfl⟩ | ⟨format, rfl, rfl⟩
          · exact .inl ⟨format, ⟨Nat.pos_of_ne_zero wide, Nat.pos_of_ne_zero tall, stepU, stepV,
              strides.symm, next, rfl, rfl, rfl, fits.1, bounded, fits.2.1, fits.2.2⟩⟩
          · exact .inr ⟨format, ⟨Nat.pos_of_ne_zero wide, Nat.pos_of_ne_zero tall, stepV, stepU,
              strides, next, rfl, rfl, rfl, fits.1, bounded, fits.2.1, fits.2.2⟩⟩

namespace Overlaid

theorem inside (overlaid : Overlaid width height lower upper chroma)
    (bound : row < divCeil2 height) (column : col < divCeil2 width) :
    row * chroma.rowStride + 2 * col + 1 < chroma.length := by
  have earlier : row * chroma.rowStride ≤ (divCeil2 height - 1) * chroma.rowStride :=
    Nat.mul_le_mul_right _ (by omega)
  have area := overlaid.area
  rw [← overlaid.rowStride, ← overlaid.length] at area
  omega

theorem lower_address (overlaid : Overlaid width height lower upper chroma) (row col : Nat) :
    lower.address row col = chroma.start.toNat + (row * chroma.rowStride + 2 * col) := by
  rw [ChromaPlaneSpan.address, overlaid.start, overlaid.rowStride, overlaid.lowerStep]
  omega

theorem upper_address (overlaid : Overlaid width height lower upper chroma) (row col : Nat) :
    upper.address row col = chroma.start.toNat + (row * chroma.rowStride + 2 * col + 1) := by
  rw [ChromaPlaneSpan.address, overlaid.start, overlaid.rowStride, overlaid.upperStep,
    overlaid.strides, overlaid.next]
  omega

theorem covered (overlaid : Overlaid width height lower upper chroma) {y : YuvPlane}
    (luma : y.Covers width height) (adjacent : y.pixelStride = 1) :
    SemiplanarCover (chroma.planes memory y) width height where
  wide := overlaid.wide
  tall := overlaid.tall
  luma := by
    rw [← adjacent]
    exact luma
  chromaRow := by
    rw [InterleavedChromaLayout.planes, overlaid.rowStride]
    exact overlaid.row
  chroma := by
    simp only [InterleavedChromaLayout.planes, length_fromRawParts, overlaid.rowStride,
      overlaid.length]
    exact overlaid.area
  small := by
    have bounded := overlaid.bounded
    simp only [InterleavedChromaLayout.planes, length_fromRawParts, overlaid.length]
    omega

theorem lower_covers (overlaid : Overlaid width height lower upper chroma) :
    (lower.view memory).Covers (divCeil2 width) (divCeil2 height) := by
  have wide := divCeil2_pos overlaid.wide
  have area := overlaid.area
  have row := overlaid.row
  have bounded := overlaid.bounded
  constructor <;> simp only [ChromaPlaneSpan.view, length_fromRawParts, overlaid.lowerStep] <;>
    omega

end Overlaid

/-! ### The same pixels -/

theorem getD_fromRawParts {start : UInt64} {length i : Nat} (inside : i < length) :
    (fromRawParts memory start length).getD i 0 = memory (start.toNat + i) := by
  simp [fromRawParts, List.getD_eq_getElem?_getD, inside]

theorem sample_view {span : ChromaPlaneSpan} {columns rows : Nat}
    (covers : (span.view memory).Covers columns rows) (bound : row < rows)
    (column : col < columns) : (span.view memory).sample row col = memory (span.address row col) := by
  have inside := covers.inside bound column
  simp only [ChromaPlaneSpan.view, length_fromRawParts] at inside
  rw [YuvPlane.sample, ChromaPlaneSpan.view, getD_fromRawParts inside, ChromaPlaneSpan.address,
    Nat.add_assoc]

namespace Overlaid

theorem lower_sample (overlaid : Overlaid width height lower upper chroma)
    (bound : row < divCeil2 height) (column : col < divCeil2 width) :
    (lower.view memory).sample row col =
      (fromRawParts memory chroma.start chroma.length).getD (row * chroma.rowStride + col * 2) 0 := by
  have inside := overlaid.inside bound column
  rw [sample_view overlaid.lower_covers bound column, overlaid.lower_address,
    getD_fromRawParts (by omega), Nat.mul_comm 2 col]

theorem upper_sample (overlaid : Overlaid width height lower upper chroma)
    (covers : (upper.view memory).Covers (divCeil2 width) (divCeil2 height))
    (bound : row < divCeil2 height) (column : col < divCeil2 width) :
    (upper.view memory).sample row col =
      (fromRawParts memory chroma.start chroma.length).getD
        (row * chroma.rowStride + col * 2 + 1) 0 := by
  have inside := overlaid.inside bound column
  rw [sample_view covers bound column, overlaid.upper_address, getD_fromRawParts (by omega),
    Nat.mul_comm 2 col]

end Overlaid

private theorem planar_semiplanar (found : interleavedChromaLayout width height u v = some chroma)
    {y : YuvPlane} (adjacent : y.pixelStride = 1)
    (covers : ((chroma.upper u v).view memory).Covers (divCeil2 width) (divCeil2 height))
    {c : Coefficients} {x : Nat} (bound : row < height) (column : x < width) :
    planarAt c y (u.view memory) (v.view memory) row x =
      semiplanarAt c (chroma.planes memory y) row x := by
  have line := half_lt bound
  have half := half_lt column
  have luma : y.sample row x = y.data.getD (row * y.rowStride + x) 0 := by
    rw [YuvPlane.sample, adjacent, Nat.mul_one]
  rw [planarAt, semiplanarAt, luma]
  rcases interleaved_overlaid found with ⟨format, overlaid⟩ | ⟨format, overlaid⟩
  · rw [InterleavedChromaLayout.upper, if_pos format] at covers
    rw [overlaid.lower_sample line half, overlaid.upper_sample covers line half]
    have order : (chroma.format == .nv21) = false := by rw [format]; rfl
    simp only [InterleavedChromaLayout.planes, chromaPair, order]
    rfl
  · rw [InterleavedChromaLayout.upper, if_neg (by rw [format]; decide)] at covers
    rw [overlaid.lower_sample line half, overlaid.upper_sample covers line half]
    have order : (chroma.format == .nv21) = true := by rw [format]; rfl
    simp only [InterleavedChromaLayout.planes, chromaPair, order]
    rfl

/-! ### The same conversion -/

section Converted

variable {cpu : Cpu} {c : Coefficients} {y : YuvPlane} {out image : List UInt8}

theorem Overlaid.small (overlaid : Overlaid width height lower upper chroma) :
    lower.length < usizeLimit ∧ upper.length < usizeLimit := by
  have bounded := overlaid.bounded
  have upperEnd := overlaid.upperEnd
  constructor <;> omega

theorem interleaved_small (found : interleavedChromaLayout width height u v = some chroma) :
    u.length < usizeLimit ∧ v.length < usizeLimit ∧ chroma.length < usizeLimit := by
  rcases interleaved_overlaid found with ⟨-, overlaid⟩ | ⟨-, overlaid⟩
  · rw [overlaid.length]
    exact ⟨overlaid.small.1, overlaid.small.2, overlaid.small.1⟩
  · rw [overlaid.length]
    exact ⟨overlaid.small.2, overlaid.small.1, overlaid.small.1⟩

private theorem interleaved_covers (found : interleavedChromaLayout width height u v = some chroma)
    (luma : y.Covers width height)
    (covers : ((chroma.upper u v).view memory).Covers (divCeil2 width) (divCeil2 height)) :
    PlanarCover y (u.view memory) (v.view memory) width height := by
  rcases interleaved_overlaid found with ⟨format, overlaid⟩ | ⟨format, overlaid⟩
  · rw [InterleavedChromaLayout.upper, if_pos format] at covers
    exact ⟨overlaid.wide, overlaid.tall, luma, overlaid.lower_covers, covers⟩
  · rw [InterleavedChromaLayout.upper, if_neg (by rw [format]; decide)] at covers
    exact ⟨overlaid.wide, overlaid.tall, luma, covers, overlaid.lower_covers⟩

theorem interleaved_semiplanar (found : interleavedChromaLayout width height u v = some chroma)
    (luma : y.Covers width height) (adjacent : y.pixelStride = 1) :
    SemiplanarCover (chroma.planes memory y) width height := by
  rcases interleaved_overlaid found with ⟨-, overlaid⟩ | ⟨-, overlaid⟩
  · exact overlaid.covered luma adjacent
  · exact overlaid.covered luma adjacent

theorem fails_not_returns {m : RgbFill Unit} (fails : Fails m out) : ¬Returns m out () image := by
  obtain ⟨error, reached, failed⟩ := fails
  intro returned
  rw [Returns, failed] at returned
  cases returned

private theorem converted_alike (found : interleavedChromaLayout width height u v = some chroma)
    (configured : c.Configured) (adjacent : y.pixelStride = 1)
    (small : y.data.length < usizeLimit) (addressable : out.length < usizeLimit)
    (covers : ((chroma.upper u v).view memory).Covers (divCeil2 width) (divCeil2 height)) :
    Returns (yuv420ToRgb cpu y (u.view memory) (v.view memory) width height c) out () image ↔
      Returns (yuv420spToRgb cpu (chroma.planes memory y) width height c) out () image := by
  obtain ⟨uSmall, vSmall, chromaSmall⟩ := interleaved_small found
  by_cases fits : y.Covers width height ∧ width * height * 3 ≤ out.length
  · obtain ⟨luma, room⟩ := fits
    have size : (imageOf (planarAt c y (u.view memory) (v.view memory)) width height).length ≤
        out.length := by
      rw [isRgb_planarAt.length, ← Nat.mul_assoc, Nat.mul_comm height width]
      exact room
    have planar := yuv420ToRgb_fills cpu configured (interleaved_covers found luma covers)
      (by omega) out size
    have same : imageOf (planarAt c y (u.view memory) (v.view memory)) width height =
        imageOf (semiplanarAt c (chroma.planes memory y)) width height :=
      imageOf_congr fun row x bound column => planar_semiplanar found adjacent covers bound column
    have cover : SemiplanarCover (chroma.planes memory y) width height :=
      interleaved_semiplanar found luma adjacent
    rw [same] at planar size
    have semiplanar := yuv420spToRgb_fills cpu configured cover (by omega) out size
    unfold Returns at planar semiplanar ⊢
    rw [planar, semiplanar]
  · have planar : Fails (yuv420ToRgb cpu y (u.view memory) (v.view memory) width height c) out := by
      refine yuv420ToRgb_fails cpu ⟨small, ?_, ?_⟩ fun fine => fits ⟨fine.1.luma, fine.2⟩
      · simpa [ChromaPlaneSpan.view] using uSmall
      · simpa [ChromaPlaneSpan.view] using vSmall
    have semiplanar : Fails (yuv420spToRgb cpu (chroma.planes memory y) width height c) out := by
      refine yuv420spToRgb_fails cpu ⟨small, ?_⟩ fun fine => fits ⟨?_, fine.2⟩
      · simpa [InterleavedChromaLayout.planes] using chromaSmall
      · have luma := fine.1.luma
        rw [← adjacent] at luma
        exact luma
    exact iff_of_false (fails_not_returns planar) (fails_not_returns semiplanar)

theorem trimmed_refused (found : interleavedChromaLayout width height u v = some chroma)
    (small : y.data.length < usizeLimit)
    (trimmed : ¬((chroma.upper u v).view memory).Covers (divCeil2 width) (divCeil2 height)) :
    ¬Returns (yuv420ToRgb cpu y (u.view memory) (v.view memory) width height c) out () image := by
  obtain ⟨uSmall, vSmall, -⟩ := interleaved_small found
  refine fails_not_returns (yuv420ToRgb_fails cpu ⟨small, ?_, ?_⟩ fun fine => trimmed ?_)
  · simpa [ChromaPlaneSpan.view] using uSmall
  · simpa [ChromaPlaneSpan.view] using vSmall
  · unfold InterleavedChromaLayout.upper
    split
    · exact fine.1.v
    · exact fine.1.u

end Converted

/-! ### What an interleaved layout preserves -/

/-- The order of the samples of U and V in a pair. -/
def InterleavedChromaLayout.shifts (chroma : InterleavedChromaLayout) : Nat × Nat :=
  if chroma.format = .nv12 then (0, 1) else (1, 0)

/-- The plane contains both views, their visible samples are its pairs, it makes a valid
layout with any valid luma plane, and it converts to the image of the three planes. It is
converted as well if the three planes are refused. -/
structure ChromaPreserved (width height : Nat) (u v : ChromaPlaneSpan)
    (chroma : InterleavedChromaLayout) : Prop where
  order : chroma.format = .nv12 ∨ chroma.format = .nv21
  bounded : chroma.start.toNat + chroma.length < usizeLimit
  contains : u.start.toNat + u.length ≤ chroma.start.toNat + chroma.length ∧
    v.start.toNat + v.length ≤ chroma.start.toNat + chroma.length
  samples : ∀ row col, row < divCeil2 height → col < divCeil2 width →
    row * chroma.rowStride + 2 * col + 1 < chroma.length ∧
    u.address row col =
      chroma.start.toNat + (row * chroma.rowStride + 2 * col + chroma.shifts.1) ∧
    v.address row col =
      chroma.start.toNat + (row * chroma.rowStride + 2 * col + chroma.shifts.2)
  validates : ∀ (w h : UInt32) (memory : Memory) (y : YuvPlane), w.toNat = width →
    h.toNat = height → y.pixelStride = 1 → y.Covers width height →
    y.data.length + chroma.length < usizeLimit →
    (interleavedLayout w h chroma.format (chroma.planes memory y)).validate
      (y.data ++ (chroma.planes memory y).uv).length = .ok ()
  converts : ∀ (cpu : Cpu) (memory : Memory) (c : Coefficients) (y : YuvPlane)
    (out image : List UInt8), c.Configured → y.pixelStride = 1 → y.data.length < usizeLimit →
    out.length < usizeLimit →
    ((chroma.upper u v).view memory).Covers (divCeil2 width) (divCeil2 height) →
    (Returns (yuv420ToRgb cpu y (u.view memory) (v.view memory) width height c) out () image ↔
      Returns (yuv420spToRgb cpu (chroma.planes memory y) width height c) out () image)
  refuses : ∀ (cpu : Cpu) (memory : Memory) (c : Coefficients) (y : YuvPlane)
    (out image : List UInt8), y.data.length < usizeLimit →
    ¬((chroma.upper u v).view memory).Covers (divCeil2 width) (divCeil2 height) →
    ¬Returns (yuv420ToRgb cpu y (u.view memory) (v.view memory) width height c) out () image
  fills : ∀ (cpu : Cpu) (memory : Memory) (c : Coefficients) (y : YuvPlane), c.Configured →
    y.pixelStride = 1 → y.Covers width height → width * height * 3 < usizeLimit →
    Fills (yuv420spToRgb cpu (chroma.planes memory y) width height c)
      (imageOf (semiplanarAt c (chroma.planes memory y)) width height)

theorem interleaved_validates (found : interleavedChromaLayout width height u v = some chroma)
    {w h : UInt32} {y : YuvPlane} (wide : w.toNat = width) (tall : h.toNat = height)
    (adjacent : y.pixelStride = 1) (luma : y.Covers width height)
    (small : y.data.length + chroma.length < usizeLimit) :
    (interleavedLayout w h chroma.format (chroma.planes memory y)).validate
      (y.data ++ (chroma.planes memory y).uv).length = .ok () := by
  have cover : SemiplanarCover (chroma.planes memory y) width height :=
    interleaved_semiplanar found luma adjacent
  have order : InOrder chroma.format (chroma.planes memory y).vuOrder := by
    unfold InterleavedChromaLayout.planes
    rcases interleaved_overlaid found with ⟨format, -⟩ | ⟨format, -⟩
    · exact .inl ⟨format, by rw [format]; rfl⟩
    · exact .inr ⟨format, by rw [format]; rfl⟩
  subst wide tall
  refine (interleaved_accepts order ⟨?_, ?_⟩ ?_).mpr cover
  · rintro rfl
    exact absurd cover.wide (by simp)
  · rintro rfl
    exact absurd cover.tall (by simp)
  · simpa [InterleavedChromaLayout.planes] using small

namespace Overlaid

theorem inMemory (overlaid : Overlaid width height lower upper chroma) :
    chroma.start.toNat + chroma.length < usizeLimit ∧
      lower.start.toNat + lower.length ≤ chroma.start.toNat + chroma.length ∧
      upper.start.toNat + upper.length ≤ chroma.start.toNat + chroma.length := by
  rw [overlaid.start, overlaid.length]
  exact ⟨overlaid.bounded, Nat.le_refl _, overlaid.upperEnd⟩

theorem sample (overlaid : Overlaid width height lower upper chroma)
    (bound : row < divCeil2 height) (column : col < divCeil2 width) :
    row * chroma.rowStride + 2 * col + 1 < chroma.length ∧
    lower.address row col = chroma.start.toNat + (row * chroma.rowStride + 2 * col + 0) ∧
    upper.address row col = chroma.start.toNat + (row * chroma.rowStride + 2 * col + 1) :=
  ⟨overlaid.inside bound column, overlaid.lower_address row col, overlaid.upper_address row col⟩

end Overlaid

/-- Every accepted pair of views over one memory. -/
theorem interleaved_preserved
    (found : interleavedChromaLayout width height u v = some chroma) :
    ChromaPreserved width height u v chroma where
  order := by
    rcases interleaved_overlaid found with ⟨format, -⟩ | ⟨format, -⟩
    · exact .inl format
    · exact .inr format
  bounded := by
    rcases interleaved_overlaid found with ⟨-, overlaid⟩ | ⟨-, overlaid⟩
    · exact overlaid.inMemory.1
    · exact overlaid.inMemory.1
  contains := by
    rcases interleaved_overlaid found with ⟨-, overlaid⟩ | ⟨-, overlaid⟩
    · exact overlaid.inMemory.2
    · exact overlaid.inMemory.2.symm
  samples row col bound column := by
    rcases interleaved_overlaid found with ⟨format, overlaid⟩ | ⟨format, overlaid⟩
    · rw [InterleavedChromaLayout.shifts, if_pos format]
      exact overlaid.sample bound column
    · rw [InterleavedChromaLayout.shifts, if_neg (by rw [format]; decide)]
      obtain ⟨inside, second, first⟩ := overlaid.sample bound column
      exact ⟨inside, first, second⟩
  validates w h memory y wide tall adjacent luma small :=
    interleaved_validates found wide tall adjacent luma small
  converts cpu memory c y out image configured adjacent small addressable covers :=
    converted_alike found configured adjacent small addressable covers
  refuses cpu memory c y out image small trimmed := trimmed_refused found small trimmed
  fills cpu memory c y configured adjacent luma addressable :=
    yuv420spToRgb_fills cpu configured (interleaved_semiplanar found luma adjacent) addressable

theorem interleaved_preserved_nv21 :
    ChromaPreserved 4 2 ⟨101, 3, 4, 2⟩ ⟨100, 4, 4, 2⟩ ⟨100, 4, 4, .nv21⟩ :=
  interleaved_preserved rfl

/-! ### A trimmed upper view -/

private theorem bt601Full_configured : bt601FullCoefficients.Configured :=
  ⟨{ matrix := .bt601, range := .full }, rfl⟩

/-- The first two bytes of V are all there is, and four pixels in a row show two samples. -/
def trimmedV : ChromaPlaneSpan := ⟨101, 2, 4, 2⟩

theorem trimmedV_found : interleavedChromaLayout 4 2 ⟨100, 4, 4, 2⟩ trimmedV =
    some ⟨100, 4, 4, .nv12⟩ := rfl

theorem not_always_alike :
    ¬ ∀ (cpu : Cpu) (memory : Memory) (width height : Nat) (u v : ChromaPlaneSpan)
      (chroma : InterleavedChromaLayout) (y : YuvPlane) (out image : List UInt8),
      interleavedChromaLayout width height u v = some chroma → y.Covers width height →
      y.pixelStride = 1 →
      (Returns (yuv420ToRgb cpu y (u.view memory) (v.view memory) width height
          bt601FullCoefficients) out () image ↔
        Returns (yuv420spToRgb cpu (chroma.planes memory y) width height
          bt601FullCoefficients) out () image) := by
  intro alike
  have memory : Memory := fun _ => 128
  have luma : YuvPlane.Covers ⟨List.replicate 8 0, 4, 1⟩ 4 2 := by
    constructor <;> decide
  have cover : SemiplanarCover
      ((⟨100, 4, 4, .nv12⟩ : InterleavedChromaLayout).planes memory ⟨List.replicate 8 0, 4, 1⟩)
      4 2 := interleaved_semiplanar trimmedV_found luma rfl
  have converted := yuv420spToRgb_fills Target.withoutJpeg.cpu bt601Full_configured cover
    (by decide) (List.replicate 24 0) (by rw [isRgb_semiplanarAt.length]; decide)
  have planar := (alike _ memory 4 2 _ _ _ _ _ _ trimmedV_found luma rfl).mpr converted
  refine trimmed_refused trimmedV_found (by decide) (fun covers => ?_) planar
  have extent := covers.extent
  simp [InterleavedChromaLayout.upper, ChromaPlaneSpan.view, trimmedV, divCeil2] at extent

end CameraRs.Camera2

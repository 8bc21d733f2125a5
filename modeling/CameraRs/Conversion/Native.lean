/-
A native frame on its way to RGB: the layout and the bytes that a backend publishes, the
checks of `publish_native`, and the conversion at full size by the consumer.
-/

import CameraRs.Conversion.Agreement
import CameraRs.Frame.Program

namespace CameraRs

open Lib Fill

/-! ### The published payload -/

private theorem partsLength {parts : List (List UInt8)} {start : Nat}
    (small : start + parts.flatten.length < usizeLimit) :
    parts.foldlM (fun n p => checkedAdd n p.length) start =
      some (start + parts.flatten.length) := by
  induction parts generalizing start with
  | nil => rfl
  | cons part rest ih =>
      rw [List.flatten_cons, List.length_append] at small ⊢
      rw [List.foldlM_cons, checkedAdd_lt (by omega)]
      have later := ih (show start + part.length + rest.flatten.length < usizeLimit by omega)
      rw [← Nat.add_assoc]
      exact later

theorem checkParts_described {layout : FrameLayout} {parts : List (List UInt8)}
    (small : parts.flatten.length < usizeLimit)
    (described : (layout.planes.map fun p => p.offset + p.length).max?.getD 0 =
      parts.flatten.length) :
    Frame.checkParts layout parts = layout.validate parts.flatten.length := by
  have length := @partsLength parts 0 (by omega)
  rw [Nat.zero_add] at length
  unfold Frame.checkParts
  rw [length]
  change (layout.validate parts.flatten.length >>= fun _ => if _ ≠ _ then _ else _) = _
  cases layout.validate parts.flatten.length with
  | error e => rfl
  | ok _ =>
      change (if (layout.planes.map fun p => p.offset + p.length).max?.getD 0 ≠
        parts.flatten.length then _ else _) = _
      rw [described, if_neg (by simp)]
      rfl

/-! ### One plane of adjacent pixels -/

theorem requested_full {layout : FrameLayout} {data : List UInt8} {c : Coefficients}
    (wide : 0 < layout.width.toNat) (tall : 0 < layout.height.toNat) :
    requestedImage layout data c layout.width.toNat layout.height.toNat =
      imageOf (fun row x => referencePixel layout data c x
        (if layout.bottomUp then layout.height.toNat - 1 - row else row))
        layout.width.toNat layout.height.toNat := by
  refine imageOf_congr fun row x _ _ => ?_
  have same : row * layout.height.toNat / layout.height.toNat = row := sourceColumn_same tall
  rw [sourceColumn_same wide, sourceRow, same]

/-! ### The frame of the consumer -/

/-- The frame that a backend publishes, or its error, up to the RGB of the consumer. -/
def convertNative {target : Target} (native : CameraResult (FrameLayout × List (List UInt8))) :
    Conversion target Unit := do
  let (layout, parts) ← ofExcept native
  ofExcept (Frame.checkParts layout parts)
  convertLayoutInto layout parts.flatten (ConversionRequest.forLayout layout)

/-- A raw frame of known colour whose planes end where its bytes end. -/
structure Payload (layout : FrameLayout) (parts : List (List UInt8)) : Prop where
  raw : layout.format.isCompressed = false
  small : parts.flatten.length < usizeLimit
  whole : (layout.planes.map fun p => p.offset + p.length).max?.getD 0 = parts.flatten.length
  known : layout.format.isYuv = true → layout.color.IsKnown

section Payload

variable {target : Target} {layout : FrameLayout} {parts : List (List UInt8)}
  {converter : RgbConverter target} {out : List UInt8}

theorem Payload.convertNative_returns (payload : Payload layout parts) (used : converter.Used)
    (accepted : layout.validate parts.flatten.length = .ok ())
    (length : out.length = layout.width.toNat * layout.height.toNat * 3)
    (addressable : out.length < usizeLimit) :
    ∃ next c, coefficientsFor layout (ConversionRequest.forLayout layout) = .ok c ∧
      Returns (convertNative (.ok (layout, parts)) : Conversion target Unit) (converter, out) ()
        (next, requestedImage layout parts.flatten c layout.width.toNat layout.height.toNat) := by
  obtain ⟨c, found⟩ : ∃ c, coefficientsFor layout (ConversionRequest.forLayout layout) = .ok c :=
    coefficientsFor_ok.mpr payload.known
  obtain ⟨wide, tall, _⟩ := FrameLayout.validate_ok accepted
  have positive : 0 < out.length := by
    rw [length]
    exact Nat.mul_pos (Nat.mul_pos wide tall) (by omega)
  obtain ⟨next, converted⟩ := convertLayoutInto_returns used.fresh accepted payload.raw
    payload.small (ConversionRequest.outputLen_ok.mpr ⟨length.symm, positive, addressable⟩) found
  have checked := (checkParts_described payload.small payload.whole).trans accepted
  exact ⟨next, c, found, .bind (.ofExcept rfl) (.bind (.ofExcept checked) converted)⟩

theorem Payload.convertNative_fails (payload : Payload layout parts)
    (rejected : layout.validate parts.flatten.length ≠ .ok ()) :
    Fails (convertNative (.ok (layout, parts)) : Conversion target Unit) (converter, out) := by
  refine .later (.ofExcept rfl) (.unlessError fun _ accepted => ?_)
  rw [checkParts_described payload.small payload.whole] at accepted
  exact absurd accepted rejected

end Payload

/-! ### Two ways to the same image -/

section Same

variable {σ τ : Type}

/-- Both outcomes are images of the same bytes, or both are errors. -/
def SameDelivery (first : Option (CameraResult Unit × σ × List UInt8))
    (second : Option (CameraResult Unit × τ × List UInt8)) : Prop :=
  ∃ result s image result' s' image', first = some (result, s, image) ∧
    second = some (result', s', image') ∧ (result = .ok () ↔ result' = .ok ()) ∧
    (result = .ok () → image = image')

theorem SameDelivery.returned {m : Fill (σ × List UInt8) CameraError Unit}
    {m' : Fill (τ × List UInt8) CameraError Unit} {s s' : σ} {t t' : τ} {out image : List UInt8}
    (first : Returns m (s, out) () (s', image)) (second : Returns m' (t, out) () (t', image)) :
    SameDelivery (m (s, out)) (m' (t, out)) :=
  ⟨_, s', image, _, t', image, first, second, Iff.rfl, fun _ => rfl⟩

theorem SameDelivery.failed {m : Fill (σ × List UInt8) CameraError Unit}
    {m' : Fill (τ × List UInt8) CameraError Unit} {s : σ} {t : τ} {out : List UInt8}
    (first : Fails m (s, out)) (second : Fails m' (t, out)) :
    SameDelivery (m (s, out)) (m' (t, out)) := by
  obtain ⟨e, ⟨s', image⟩, first⟩ := first
  obtain ⟨e', ⟨t', image'⟩, second⟩ := second
  exact ⟨_, s', image, _, t', image', first, second, by simp, by simp⟩

variable {target : Target} {layout : FrameLayout} {parts : List (List UInt8)}
  {converter : RgbConverter target} {out : List UInt8}

/-- A decoder that accepts what the layout is validated for, and then writes the image that the
layout describes, agrees with the native frame. -/
theorem Payload.same {m : Fill (σ × List UInt8) CameraError Unit} {s : σ}
    (payload : Payload layout parts) (used : converter.Used)
    (length : out.length = layout.width.toNat * layout.height.toNat * 3)
    (addressable : out.length < usizeLimit)
    (accepts : layout.validate parts.flatten.length = .ok () → ∀ c : Coefficients,
      coefficientsFor layout (ConversionRequest.forLayout layout) = .ok c →
      ∃ s', Returns m (s, out) () (s', requestedImage layout parts.flatten c layout.width.toNat
        layout.height.toNat))
    (fails : layout.validate parts.flatten.length ≠ .ok () → Fails m (s, out)) :
    SameDelivery (m (s, out))
      ((convertNative (.ok (layout, parts)) : Conversion target Unit) (converter, out)) := by
  by_cases accepted : layout.validate parts.flatten.length = .ok ()
  · obtain ⟨next, c, found, native⟩ :=
      payload.convertNative_returns used accepted length addressable
    obtain ⟨s', written⟩ := accepts accepted c found
    exact .returned written native
  · exact .failed (fails accepted) (payload.convertNative_fails accepted)

end Same

end CameraRs

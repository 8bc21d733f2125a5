/-
`next_frame_into` frame by frame: the reader's pending slot, the two output modes, and what a
failed call leaves behind. The section that holds the reader is one step, since the reader is
locked for all of it; the session and the output mode are those that the call read before.
-/

import CameraRs.Android.Handle
import CameraRs.Conversion.Agreement
import CameraRs.Frame.Types

namespace CameraRs.Android.NextFrame

/-- A `Frame` as the receiver of a session hands it out. -/
structure Frame where
  key : FrameKey
  layout : FrameLayout
  bytes : List UInt8
  sourceTimestamp : Option SourceTimestamp := none
deriving DecidableEq

structure Reader (target : Target) where
  session : SessionId
  pending : Option Frame := none
  converter : RgbConverter target := {}
  rgb : List UInt8 := []

/-- One `nativeNextFrame`: the session and the output mode that it read, its buffer, and what the
session and the receiver give it when they are asked. -/
structure Call where
  session : Option SessionId
  native : Bool
  argb : Bool
  capacity : Nat
  subscribed : CameraResult Unit
  received : CameraResult Frame

/-- `error::CameraError`, and a panic, which the JNI boundary catches. -/
inductive Failure
  | camera (e : CameraError)
  | adapter (message : String)
  | panic
deriving DecidableEq

/-- The JSON of a delivered frame, and what was written to the buffer. -/
structure Delivery where
  key : FrameKey
  byteLength : Nat
  width : UInt32
  height : UInt32
  pixelFormat : PixelFormat
  planes : List PlaneLayout
  color : ColorInfo
  sourceTimestamp : Option SourceTimestamp
  orientation : Orientation
  bottomUp : Bool
  buffer : List UInt8
deriving DecidableEq

/-- What a call with a reader comes to. `needs` is "Direct buffer needs {required} bytes". -/
inductive Reply
  | noFrame (e : CameraError)
  | needs (required : Nat)
  | failed (failure : Failure)
  | returned (delivery : Delivery)
deriving DecidableEq

/-! ### RGB -/

def contiguousRgb (frame : Frame) : Option (List UInt8) := do
  let plane ← frame.layout.planes.head?
  let row ← checkedMul frame.layout.width.toNat 3
  let length ← checkedMul row frame.layout.height.toNat
  if frame.layout.format ≠ .rgb8 ∨ frame.layout.bottomUp ∨ frame.layout.planes.length ≠ 1 ∨
      plane.pixelStride ≠ 3 ∨ plane.rowStride ≠ row ∨ plane.length < length then
    none
  else do
    let stop ← checkedAdd plane.offset length
    if stop ≤ frame.bytes.length then some (Lib.slice frame.bytes plane.offset stop) else none

/-- `to_ne_bytes` of the words, on a little-endian device. -/
def argbWords : List UInt8 → List UInt8
  | red :: green :: blue :: rest => blue :: green :: red :: 255 :: argbWords rest
  | _ => []

def rgbToAndroidArgb (rgb : List UInt8) (capacity : Nat) : Except Failure (List UInt8) :=
  if rgb.length % 3 ≠ 0 ∨ capacity < rgb.length / 3 * 4 then
    .error (.adapter "Invalid RGB/ARGB buffer lengths")
  else
    .ok (argbWords rgb)

/-- `copy_from_slice`. -/
def copied (rgb : List UInt8) (length : Nat) : Except Failure (List UInt8) :=
  if rgb.length = length then .ok rgb else .error .panic

section Reader

variable {target : Target}

/-- The RGB bytes of a frame, from the frame itself or from the converter. A panic of the decoder
leaves the reader as it was. -/
def Reader.sourceRgb (reader : Reader target) (frame : Frame) (rgbLength : Nat) :
    Except Failure (List UInt8) × Reader target :=
  match contiguousRgb frame with
  | some rgb => (.ok rgb, reader)
  | none =>
      match convertLayoutInto frame.layout frame.bytes (ConversionRequest.forLayout frame.layout)
          (reader.converter, resized reader.rgb rgbLength) with
      | none => (.error .panic, reader)
      | some (.error e, converter, rgb) =>
          (.error (.camera e), { reader with converter := converter, rgb := rgb })
      | some (.ok (), converter, rgb) => (.ok rgb, { reader with converter := converter, rgb := rgb })

/-- The bytes of the buffer that RGB output needs. -/
def rgbRequired (argb : Bool) (rgbLength : Nat) : Option Nat :=
  if argb then checkedMul (rgbLength / 3) 4 else some rgbLength

def nativeDelivery (frame : Frame) : Delivery :=
  { key := frame.key
    byteLength := frame.bytes.length
    width := frame.layout.width
    height := frame.layout.height
    pixelFormat := frame.layout.format
    planes := frame.layout.planes
    color := frame.layout.color
    sourceTimestamp := frame.sourceTimestamp
    orientation := frame.layout.orientation
    bottomUp := frame.layout.bottomUp
    buffer := frame.bytes }

def rgbDelivery (frame : Frame) (argb : Bool) (required : Nat) (buffer : List UInt8) : Delivery :=
  let pixelStride := if argb then 4 else 3
  { key := frame.key
    byteLength := required
    width := frame.layout.width
    height := frame.layout.height
    pixelFormat := if argb then .argb8 else .rgb8
    planes := [⟨0, required, frame.layout.width.toNat * pixelStride, pixelStride⟩]
    color := frame.layout.color
    sourceTimestamp := frame.sourceTimestamp
    orientation := frame.layout.orientation
    bottomUp := false
    buffer := buffer }

/-- The copy of one frame. Only a frame that is returned leaves the pending slot. -/
def Reader.deliver (reader : Reader target) (call : Call) (frame : Frame) :
    Reply × Reader target :=
  if call.native then
    if call.capacity < frame.bytes.length then (.needs frame.bytes.length, reader)
    else (.returned (nativeDelivery frame), { reader with pending := none })
  else
    match (ConversionRequest.forLayout frame.layout).outputLen with
    | .error e => (.failed (.camera e), reader)
    | .ok rgbLength =>
        match rgbRequired call.argb rgbLength with
        | none => (.failed (.adapter "ARGB frame size overflow"), reader)
        | some required =>
            if call.capacity < required then (.needs required, reader)
            else
              match reader.sourceRgb frame rgbLength with
              | (.error failure, reader) => (.failed failure, reader)
              | (.ok rgb, reader) =>
                  match if call.argb then rgbToAndroidArgb rgb required else copied rgb required with
                  | .error failure => (.failed failure, reader)
                  | .ok buffer =>
                      (.returned (rgbDelivery frame call.argb required buffer),
                        { reader with pending := none })

end Reader

/-! ### Calls -/

/-- A call that got a reader: the frame it worked on, and whether it took that frame from the
receiver. -/
structure Record where
  session : SessionId
  call : Call
  frame : Option Frame
  fresh : Bool
  reply : Reply

section Calls

variable {target : Target}

def readerOf (reader : Option (Reader target)) (s : SessionId) (subscribed : CameraResult Unit) :
    CameraResult (Reader target) :=
  match reader.filter fun reader => reader.session == s with
  | some reader => .ok reader
  | none => subscribed.map fun _ => { session := s }

/-- The section that holds the reader, once it is the one of the session. -/
def Reader.next (reader : Reader target) (call : Call) : Record × Reader target :=
  match reader.pending with
  | some frame =>
      let (reply, after) := reader.deliver call frame
      (⟨reader.session, call, some frame, false, reply⟩, after)
  | none =>
      match call.received with
      | .error e => (⟨reader.session, call, none, true, .noFrame e⟩, reader)
      | .ok frame =>
          let (reply, after) := { reader with pending := some frame }.deliver call frame
          (⟨reader.session, call, some frame, true, reply⟩, after)

end Calls

end CameraRs.Android.NextFrame

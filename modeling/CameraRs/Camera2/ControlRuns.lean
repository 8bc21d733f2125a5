/-
What runs of `set_control` do to a Camera2 device.

`Change` says what one call may make of the capture request; which requests a session repeats, and
how long it keeps what was asked, follow from it for every run.
-/

import CameraRs.Camera2.Zoom

namespace CameraRs.Camera2.Controls

open Uvc.Controls (CameraControlType)
open V4l2.Controls (CameraControlValue)

/-! ### Modes -/

private theorem hasBit_iff {mask : BitVec 32} {mode : Nat} (small : mode < 32) :
    hasBit mask mode = true ↔ mask.getLsbD mode = true := by
  have single : BitVec.ofNat 32 1 <<< mode = BitVec.twoPow 32 mode := rfl
  rw [hasBit, decide_eq_true_eq, single, BitVec.and_twoPow]
  cases mask.getLsbD mode with
  | false => simp
  | true =>
      have bit : (BitVec.twoPow 32 mode).getLsbD mode = true := by simp [small]
      simp only [if_true, ne_eq, iff_true]
      intro zero
      rw [zero] at bit
      exact absurd bit (by simp)

theorem foldl_mask (modes : List UInt8) (mask : BitVec 32) {mode : Nat} (small : mode < 32) :
    (modes.foldl (fun (mask : BitVec 32) (mode : UInt8) =>
        if mode < 32 then mask ||| BitVec.ofNat 32 1 <<< mode.toNat else mask) mask).getLsbD mode =
      (mask.getLsbD mode || modes.any fun value => decide (value.toNat = mode)) := by
  induction modes generalizing mask with
  | nil => simp
  | cons value rest inductionHypothesis =>
      rw [List.foldl_cons, inductionHypothesis, List.any_cons]
      split
      next below =>
        have single : BitVec.ofNat 32 1 <<< value.toNat = BitVec.twoPow 32 value.toNat := rfl
        rw [single, BitVec.getLsbD_or, BitVec.getLsbD_twoPow, Bool.or_assoc]
        have inside : value.toNat < 32 := UInt8.lt_iff_toNat_lt.mp below
        simp only [inside, decide_true, Bool.true_and]
      next above =>
        have other : value.toNat ≠ mode := by
          rw [UInt8.lt_iff_toNat_lt] at above
          exact fun same => above (same ▸ small)
        simp only [other, decide_false, Bool.false_or]

theorem hasBit_modeMask {modes : List UInt8} {mode : Nat} (small : mode < 32) :
    hasBit (modeMask modes) mode = true ↔ ∃ value ∈ modes, value.toNat = mode := by
  rw [hasBit_iff small, modeMask, foldl_mask modes 0 small]
  simp

theorem advertised {modes : List UInt8} {mode : Int32} (positive : ¬mode < 0)
    (small : ¬32 ≤ mode) (bit : hasBit (modeMask modes) mode.toInt.toNat = true) :
    UInt8.ofNat mode.toInt.toNat ∈ modes ∧
      ((UInt8.ofNat mode.toInt.toNat).toNat : Int) = mode.toInt := by
  rw [Int32.lt_iff_toInt_lt] at positive
  rw [Int32.le_iff_toInt_le] at small
  simp only [Int32.reduceToInt, Int.not_lt, Int.not_le] at positive small
  obtain ⟨value, listed, same⟩ := (hasBit_modeMask (by omega)).mp bit
  have byte : UInt8.ofNat mode.toInt.toNat = value := by
    rw [← same]
    exact UInt8.ofNat_toNat
  rw [byte]
  exact ⟨listed, by omega⟩

/-! ### One call -/

theorem update_mode (modes : Kind → Option UInt8) (kind : Kind) (mode : Option UInt8) :
    Function.update modes kind mode kind = mode :=
  Function.update_self ..

/-- What one call may make of a request of a device; the entry of a call that is refused half-way
stays. -/
inductive Change (device : Characteristics) : Call → CaptureRequest → CaptureRequest → Prop
  | exposureCompensation (value : Int32) (request : CaptureRequest) :
      Change device (.exposureCompensation value) request
        { request with compensation := some value }
  | mode (kind : Kind) (value : Int32) (byte : UInt8) (trigger : Option UInt8)
      (request : CaptureRequest) (listed : byte ∈ device.modes kind)
      (same : (byte.toNat : Int) = value.toInt) :
      Change device (.mode kind value) request
        { request with mode := Function.update request.mode kind (some byte), afTrigger := trigger }
  | zoom (zoom100 : Int32) (sensor crop : Rect) (request : CaptureRequest)
      (active : device.activeArray = some sensor) (cropped : zoomCrop sensor zoom100 = some crop) :
      Change device (.zoom zoom100) request { request with cropRegion := some crop }
  | sensitivity (iso : Int32) (value : Option Int32) (request : CaptureRequest)
      (off : AE_MODE_OFF ∈ device.modes .ae)
      (known : value = some iso ∨ value = request.sensitivity) :
      Change device (.sensitivity iso) request
        { request with
          mode := Function.update request.mode .ae (some AE_MODE_OFF)
          sensitivity := value }

def Call.Holds (device : Characteristics) : Call → CaptureRequest → Prop
  | .exposureCompensation value, request => request.compensation = some value
  | .mode kind value, request =>
      ∃ byte ∈ device.modes kind, (byte.toNat : Int) = value.toInt ∧ request.mode kind = some byte
  | .zoom zoom100, request =>
      ∃ sensor crop, device.activeArray = some sensor ∧ zoomCrop sensor zoom100 = some crop ∧
        request.cropRegion = some crop
  | .sensitivity iso, request =>
      request.mode .ae = some AE_MODE_OFF ∧ request.sensitivity = some iso

structure SameSession (before after : NdkCamera2) : Prop where
  devices : after.devices = before.devices
  index : after.activeDeviceIndex = before.activeDeviceIndex
  session : after.captureSession = before.captureSession

def Captured (call : Call) (before : NdkCamera2) (captures : List CaptureRequest) : Prop :=
  ∃ device request changed, before.captureRequest = some request ∧
    before.queriedDevice = some device ∧ Change device call request changed ∧
    changed.mode .af = some 1 ∧ changed.afTrigger = some AF_TRIGGER_START ∧
    captures = before.captures ++ [changed]

/-- The trigger is left alone or reset. -/
def Resets (request changed : CaptureRequest) : Prop :=
  changed.afTrigger = request.afTrigger ∨ changed.afTrigger = some AF_TRIGGER_IDLE

/-- What `performed` is to a call: the request has been changed, or is as it was; it is repeated,
or what was repeated before still is, or nothing is. `idle` is that a reset of the trigger goes
through. -/
structure Effect (idle : Bool) (call : Call) (before : NdkCamera2)
    (performed : NdkCamera2 × NdkCameraStatus) : Prop where
  same : SameSession before performed.1
  request : performed.1.captureRequest = before.captureRequest ∨
    ∃ device request changed, before.captureRequest = some request ∧
      before.queriedDevice = some device ∧ Change device call request changed ∧
      performed.1.captureRequest = some changed
  repeating : performed.1.repeating = before.repeating ∨ performed.1.repeating = none ∨
    performed.1.repeating = performed.1.captureRequest
  captures : performed.1.captures = before.captures ∨ Captured call before performed.1.captures
  trigger : idle = true → ∀ request changed, before.captureRequest = some request →
    performed.1.captureRequest = some changed → Resets request changed
  accepted : performed.2 = .ok → ∃ device request, before.queriedDevice = some device ∧
    performed.1.captureRequest = some request ∧ performed.1.repeating = some request ∧
    call.Holds device request

namespace Effect

variable {idle : Bool} {call : Call} {before : NdkCamera2} {status : NdkCameraStatus}
  {device : Characteristics} {request changed : CaptureRequest}

theorem refused (refused : status ≠ .ok) : Effect idle call before (before, status) where
  same := ⟨rfl, rfl, rfl⟩
  request := .inl rfl
  repeating := .inl rfl
  captures := .inl rfl
  trigger _ request changed set now := by
    rw [set] at now
    cases now
    exact .inl rfl
  accepted ok := absurd ok refused

theorem written (set : before.captureRequest = some request)
    (reset : idle = true → Resets request changed) (allowed : idle = true)
    (request' changed' : CaptureRequest) (set' : before.captureRequest = some request')
    (now : some changed = some changed') : Resets request' changed' := by
  rw [set] at set'
  cases set'
  cases now
  exact reset allowed

theorem kept (set : before.captureRequest = some request)
    (queried : before.queriedDevice = some device) (change : Change device call request changed)
    (reset : idle = true → Resets request changed) (refused : status ≠ .ok) :
    Effect idle call before (before.write changed, status) where
  same := ⟨rfl, rfl, rfl⟩
  request := .inr ⟨device, request, changed, set, queried, change, rfl⟩
  repeating := .inl rfl
  captures := .inl rfl
  trigger := written set reset
  accepted ok := absurd ok refused

theorem sent {ndk : Ndk} (captures : List CaptureRequest)
    (set : before.captureRequest = some request) (queried : before.queriedDevice = some device)
    (change : Change device call request changed)
    (reset : idle = true → Resets request changed) (holds : call.Holds device changed)
    (recorded : captures = before.captures ∨ Captured call before captures) :
    Effect idle call before
      ({ before.write changed with captures := captures }.updateRepeatingRequest ndk) := by
  have made : ∃ device request changed', before.captureRequest = some request ∧
      before.queriedDevice = some device ∧ Change device call request changed' ∧
      some changed = some changed' := ⟨device, request, changed, set, queried, change, rfl⟩
  simp only [NdkCamera2.updateRepeatingRequest]
  split
  · exact ⟨⟨rfl, rfl, rfl⟩, .inr made, .inl rfl, recorded, written set reset,
      fun ok => nomatch ok⟩
  · split
    · exact ⟨⟨rfl, rfl, rfl⟩, .inr made, .inr (.inr rfl), recorded, written set reset,
        fun _ => ⟨device, changed, queried, rfl, rfl, holds⟩⟩
    · exact ⟨⟨rfl, rfl, rfl⟩, .inr made, .inr (.inl rfl), recorded, written set reset,
        fun ok => nomatch ok⟩

end Effect

theorem getControlModes_ok {ndk : Ndk} {cam : NdkCamera2} {kind : Kind} {mask : BitVec 32}
    (answered : cam.getControlModes ndk kind = .ok mask) :
    ∃ device, cam.queriedDevice = some device ∧ mask = modeMask (device.modes kind) := by
  unfold NdkCamera2.getControlModes at answered
  split at answered
  case h_1 => cases answered
  case h_2 device found =>
    split at answered
    · exact ⟨device, found, (Except.ok.inj answered).symm⟩
    · cases answered

private theorem getControlModes_error {ndk : Ndk} {cam : NdkCamera2} {kind : Kind}
    {status : NdkCameraStatus} (answered : cam.getControlModes ndk kind = .error status) :
    status ≠ .ok := by
  unfold NdkCamera2.getControlModes at answered
  split at answered
  · cases answered
    decide
  · split at answered
    · cases answered
    · cases answered
      decide

private theorem activeDevice_queried {cam : NdkCamera2} {device : Characteristics}
    (active : cam.activeDevice = some device) : cam.queriedDevice = some device := by
  unfold NdkCamera2.activeDevice at active
  unfold NdkCamera2.queriedDevice
  split at active
  · next started => rwa [if_pos started]
  · cases active

private theorem setExposureCompensation_effect (ndk : Ndk) {cam : NdkCamera2} (value : Int32)
    {device : Characteristics} (queried : cam.queriedDevice = some device) :
    Effect ndk.setIdle (.exposureCompensation value) cam
      (cam.setExposureCompensation ndk value) := by
  unfold NdkCamera2.setExposureCompensation
  split
  · exact .refused (by decide)
  · next request set =>
    split
    · exact .sent cam.captures set queried (.exposureCompensation value request)
        (fun _ => .inl rfl) rfl (.inl rfl)
    · exact .refused (by decide)

private theorem triggerFocus_effect {ndk : Ndk} {cam : NdkCamera2} {device : Characteristics}
    {request : CaptureRequest} {value : Int32} (set : cam.captureRequest = some request)
    (queried : cam.queriedDevice = some device) (listed : 1 ∈ device.modes .af)
    (same : value.toInt = 1) :
    Effect ndk.setIdle (.mode .af value) cam (cam.triggerFocus ndk
      { request with mode := Function.update request.mode .af (some 1) }) := by
  have change (trigger : Option UInt8) : Change device (.mode .af value) request
      { request with
        mode := Function.update request.mode .af (some 1)
        afTrigger := trigger } :=
    .mode .af value 1 trigger request listed same.symm
  have holds (trigger : Option UInt8) : Call.Holds device (.mode .af value)
      { request with
        mode := Function.update request.mode .af (some 1)
        afTrigger := trigger } :=
    ⟨1, listed, same.symm, update_mode request.mode .af (some 1)⟩
  have captured : Captured (.mode .af value) cam (cam.captures ++
      [{ request with
          mode := Function.update request.mode .af (some 1)
          afTrigger := some AF_TRIGGER_START }]) :=
    ⟨device, request, _, set, queried, change (some AF_TRIGGER_START),
      update_mode request.mode .af (some 1), rfl, rfl⟩
  unfold NdkCamera2.triggerFocus
  split
  · exact .kept set queried (change request.afTrigger) (fun _ => .inl rfl) (by decide)
  · simp only
    split
    · split
      · exact .sent _ set queried (change (some AF_TRIGGER_IDLE)) (fun _ => .inr rfl) (holds _)
          (.inr captured)
      · next stuck =>
        exact .sent _ set queried (change (some AF_TRIGGER_START))
          (fun idle => absurd idle stuck) (holds _) (.inr captured)
    · split
      · exact .kept set queried (change (some AF_TRIGGER_IDLE)) (fun _ => .inr rfl) (by decide)
      · next stuck =>
        exact .kept set queried (change (some AF_TRIGGER_START))
          (fun idle => absurd idle stuck) (by decide)

private theorem setMode_effect (ndk : Ndk) (cam : NdkCamera2) (kind : Kind) (value : Int32) :
    Effect ndk.setIdle (.mode kind value) cam (cam.setMode ndk kind value) := by
  unfold NdkCamera2.setMode
  split
  · exact .refused (by decide)
  · next request set =>
    split
    · next status answered => exact .refused (getControlModes_error answered)
    · next mask answered =>
      obtain ⟨device, queried, rfl⟩ := getControlModes_ok answered
      split
      · exact .refused (by decide)
      · next valid =>
        rw [not_or, not_or, Bool.not_eq_false] at valid
        obtain ⟨listed, same⟩ := advertised valid.1 valid.2.1 valid.2.2
        split
        · exact .refused (by decide)
        · simp only
          split
          · next focus =>
            obtain ⟨rfl, rfl⟩ := focus
            exact triggerFocus_effect set queried listed rfl
          · exact .sent cam.captures set queried
              (.mode kind value _ request.afTrigger request listed same) (fun _ => .inl rfl)
              ⟨_, listed, same, update_mode ..⟩ (.inl rfl)

private theorem setZoom_effect (ndk : Ndk) (cam : NdkCamera2) (zoom100 : Int32) :
    Effect ndk.setIdle (.zoom zoom100) cam (cam.setZoom ndk zoom100) := by
  unfold NdkCamera2.setZoom
  split
  · exact .refused (by decide)
  · next request set =>
    split
    · exact .refused (by decide)
    · next device active =>
      split
      · exact .refused (by decide)
      · split
        · exact .refused (by decide)
        · next sensor known =>
          split
          · exact .refused (by decide)
          · next crop cropped =>
            split
            · exact .sent cam.captures set (activeDevice_queried active)
                (.zoom zoom100 sensor crop request known cropped) (fun _ => .inl rfl)
                ⟨sensor, crop, known, cropped, rfl⟩ (.inl rfl)
            · exact .refused (by decide)

private theorem setSensitivity_effect (ndk : Ndk) (cam : NdkCamera2) (iso : Int32) :
    Effect ndk.setIdle (.sensitivity iso) cam (cam.setSensitivity ndk iso) := by
  unfold NdkCamera2.setSensitivity
  split
  · exact .refused (by decide)
  · next request set =>
    split
    · exact .refused (by decide)
    · next mask answered =>
      obtain ⟨device, queried, rfl⟩ := getControlModes_ok answered
      split
      · exact .refused (by decide)
      · next bit =>
        rw [Bool.not_eq_false] at bit
        obtain ⟨byte, listed, zero⟩ := (hasBit_modeMask (by decide)).mp bit
        have off : AE_MODE_OFF ∈ device.modes .ae := by
          have same : byte = AE_MODE_OFF := UInt8.toNat_inj.mp zero
          exact same ▸ listed
        split
        · exact .refused (by decide)
        · simp only
          split
          · exact .sent cam.captures set queried
              (.sensitivity iso (some iso) request off (.inl rfl))
              (fun _ => .inl rfl)
              ⟨update_mode request.mode .ae (some AE_MODE_OFF), rfl⟩ (.inl rfl)
          · exact .kept set queried (.sensitivity iso request.sensitivity request off (.inr rfl))
              (fun _ => .inl rfl)
              (by decide)

theorem perform_effect (ndk : Ndk) {cam : NdkCamera2} {device : Characteristics} (call : Call)
    (queried : cam.queriedDevice = some device) :
    Effect ndk.setIdle call cam (cam.perform ndk call) := by
  cases call with
  | exposureCompensation value => exact setExposureCompensation_effect ndk value queried
  | mode kind value => exact setMode_effect ndk cam kind value
  | zoom zoom100 => exact setZoom_effect ndk cam zoom100
  | sensitivity iso => exact setSensitivity_effect ndk cam iso

/-! ### Runs -/

section Runs

variable {asI32 : UInt32 → Int32} {statusError : NdkCameraStatus → String → CameraError}

theorem setControl_cases (asI32 : UInt32 → Int32)
    (statusError : NdkCameraStatus → String → CameraError) (ndk : Ndk) (cam : NdkCamera2)
    (control : CameraControlType) (value : CameraControlValue) :
    (∃ error, callOf asI32 control value = .error error ∧
      setControl asI32 statusError ndk cam control value = (cam, .error error)) ∨
    ∃ call, callOf asI32 control value = .ok call ∧
      (setControl asI32 statusError ndk cam control value).1 = (cam.perform ndk call).1 ∧
      ((setControl asI32 statusError ndk cam control value).2 = .ok () ↔
        (cam.perform ndk call).2 = .ok) := by
  unfold setControl
  cases callOf asI32 control value with
  | error error => exact .inl ⟨error, rfl, rfl⟩
  | ok call =>
      refine .inr ⟨call, rfl, rfl, ?_⟩
      simp only
      split_ifs
      · next accepted => exact ⟨fun _ => accepted, fun _ => rfl⟩
      · next refused => exact ⟨fun ok => (nomatch ok), fun ok => absurd ok refused⟩

theorem run_keeps (asI32 : UInt32 → Int32)
    (statusError : NdkCameraStatus → String → CameraError) {P : NdkCamera2 → Prop}
    {ops : List Op} (kept : ∀ op ∈ ops, ∀ cam, P cam → P (step asI32 statusError cam op))
    {cam : NdkCamera2} (start : P cam) : P (run asI32 statusError cam ops) := by
  induction ops generalizing cam with
  | nil => exact start
  | cons op rest inductionHypothesis =>
      have first := kept op List.mem_cons_self cam start
      exact inductionHypothesis (fun op listed => kept op (List.mem_cons_of_mem _ listed)) first

namespace NdkCamera2

/-- The requests of a session: the one that calls change, the repeated one, and the single ones. -/
def requests (cam : NdkCamera2) : List CaptureRequest :=
  cam.captureRequest.toList ++ cam.repeating.toList ++ cam.captures

end NdkCamera2

/-- A request that `template` was changed into on a device: modes are advertised, a crop lies
within the active array, and a sensitivity needs that exposure can be off. The trigger and the
compensation are left open: no call checks the compensation that it writes. -/
structure CaptureRequest.Within (template : CaptureRequest) (device : Characteristics)
    (request : CaptureRequest) : Prop where
  mode : ∀ kind, request.mode kind = template.mode kind ∨
    ∃ mode ∈ device.modes kind, request.mode kind = some mode
  cropRegion : request.cropRegion = template.cropRegion ∨
    ∃ sensor crop, device.activeArray = some sensor ∧ request.cropRegion = some crop ∧
      crop.Inside sensor
  sensitivity : request.sensitivity = template.sensitivity ∨ AE_MODE_OFF ∈ device.modes .ae

theorem Change.within {template request changed : CaptureRequest} {device : Characteristics}
    {call : Call} (change : Change device call request changed)
    (within : template.Within device request) : template.Within device changed := by
  have updated (kind : Kind) (mode : UInt8) (listed : mode ∈ device.modes kind) (other : Kind) :
      Function.update request.mode kind (some mode) other = template.mode other ∨
        ∃ mode' ∈ device.modes other,
          Function.update request.mode kind (some mode) other = some mode' := by
    by_cases same : other = kind
    · subst same
      exact .inr ⟨mode, listed, update_mode ..⟩
    · rw [Function.update_of_ne same]
      exact within.mode other
  cases change with
  | exposureCompensation => exact ⟨within.mode, within.cropRegion, within.sensitivity⟩
  | mode kind value byte trigger _ listed _ =>
      exact ⟨updated kind byte listed, within.cropRegion, within.sensitivity⟩
  | zoom zoom100 sensor crop _ active cropped =>
      exact ⟨within.mode, .inr ⟨sensor, crop, active, rfl, (zoomCrop_inside cropped).2⟩,
        within.sensitivity⟩
  | sensitivity iso value _ off _ =>
      exact ⟨updated .ae AE_MODE_OFF off, within.cropRegion, .inr off⟩

/-- Every answer that nobody looks at is fine. -/
def Op.setsIdle : Op → Bool
  | .setControl ndk _ _ => ndk.setIdle
  | _ => true

/-- The session that `start index template` began, and what calls have made of it. -/
structure Serves (ops : List Op) (cam : NdkCamera2) (index : Int32) (template : CaptureRequest)
    (device : Characteristics) : Prop where
  started : Op.start index template ∈ ops
  chosen : cam.activeDeviceIndex = index
  known : 0 ≤ index ∧ cam.devices[index.toInt.toNat]? = some device
  live : cam.captureSession = true ∧ ∃ request, cam.captureRequest = some request
  within : ∀ request ∈ cam.requests, template.Within device request
  captures : ∀ request ∈ cam.captures,
    request.mode .af = some 1 ∧ request.afTrigger = some AF_TRIGGER_START
  trigger : (∀ op ∈ ops, op.setsIdle = true) →
    ∀ request ∈ cam.captureRequest.toList ++ cam.repeating.toList, Resets template request

/-- There is no session, or one that a start of the run began. -/
def Begun (ops : List Op) (cam : NdkCamera2) : Prop :=
  cam.streaming = false ∧ cam.requests = [] ∨
    ∃ index template device, Serves ops cam index template device

theorem Serves.queried {ops : List Op} {cam : NdkCamera2} {index : Int32}
    {template : CaptureRequest} {device : Characteristics}
    (serves : Serves ops cam index template device) : cam.queriedDevice = some device := by
  unfold NdkCamera2.queriedDevice
  rw [serves.chosen, if_pos serves.known.1]
  exact serves.known.2

theorem mem_requests {cam : NdkCamera2} {request : CaptureRequest} :
    request ∈ cam.requests ↔ cam.captureRequest = some request ∨ cam.repeating = some request ∨
      request ∈ cam.captures := by
  simp only [NdkCamera2.requests, List.mem_append, Option.mem_toList, or_assoc]

theorem captureRequest_none {cam : NdkCamera2} (none : cam.requests = []) :
    cam.captureRequest = Option.none := by
  cases set : cam.captureRequest with
  | none => rfl
  | some request =>
      have here : request ∈ cam.requests := mem_requests.mpr (.inl set)
      rw [none] at here
      cases here

theorem perform_none (ndk : Ndk) {cam : NdkCamera2} (call : Call)
    (none : cam.captureRequest = none) : cam.perform ndk call = (cam, .notStreaming) := by
  cases call <;>
    simp only [NdkCamera2.perform, NdkCamera2.setExposureCompensation, NdkCamera2.setMode,
      NdkCamera2.setZoom, NdkCamera2.setSensitivity, none]

section Session

variable {ops : List Op} {cam : NdkCamera2} {index : Int32} {template : CaptureRequest}
  {device : Characteristics}

theorem Serves.changed {call : Call} {request changed : CaptureRequest}
    {device' : Characteristics} (serves : Serves ops cam index template device)
    (set : cam.captureRequest = some request) (queried : cam.queriedDevice = some device')
    (change : Change device' call request changed) : template.Within device changed := by
  have same : device = device' := Option.some.inj (serves.queried.symm.trans queried)
  subst same
  exact change.within (serves.within request (mem_requests.mpr (.inl set)))

theorem Resets.trans {first second third : CaptureRequest} (before : Resets first second)
    (after : Resets second third) : Resets first third := by
  rcases after with kept | reset
  · rcases before with kept' | reset'
    · exact .inl (kept.trans kept')
    · exact .inr (kept.trans reset')
  · exact .inr reset

theorem Serves.performed {idle : Bool} {call : Call} {performed : NdkCamera2 × NdkCameraStatus}
    (serves : Serves ops cam index template device)
    (allowed : (∀ op ∈ ops, op.setsIdle = true) → idle = true)
    (effect : Effect idle call cam performed) :
    Serves ops performed.1 index template device := by
  have current (request : CaptureRequest) (set : performed.1.captureRequest = some request) :
      template.Within device request := by
    rcases effect.request with kept | ⟨device', old, changed, before, queried, change, after⟩
    · exact serves.within request (mem_requests.mpr (.inl (kept ▸ set)))
    · rw [after] at set
      cases set
      exact serves.changed before queried change
  have reset (fine : ∀ op ∈ ops, op.setsIdle = true) (request : CaptureRequest)
      (set : performed.1.captureRequest = some request) : Resets template request := by
    have found : ∃ old, cam.captureRequest = some old := by
      rcases effect.request with kept | ⟨_, old, _, before, _⟩
      · exact ⟨request, kept ▸ set⟩
      · exact ⟨old, before⟩
    obtain ⟨old, before⟩ := found
    have first := serves.trigger fine old
      (List.mem_append_left _ (Option.mem_toList.mpr before))
    exact first.trans (effect.trigger (allowed fine) old request before set)
  obtain ⟨session, old, set⟩ := serves.live
  refine ⟨serves.started, effect.same.index ▸ serves.chosen, ?_,
    ⟨effect.same.session ▸ session, ?_⟩, ?_, ?_, ?_⟩
  · rw [effect.same.devices]
    exact serves.known
  · rcases effect.request with kept | ⟨_, _, changed, _, _, _, after⟩
    · exact ⟨old, kept.trans set⟩
    · exact ⟨changed, after⟩
  · intro request listed
    rcases mem_requests.mp listed with set | repeated | captured
    · exact current request set
    · rcases effect.repeating with kept | stopped | sent
      · exact serves.within request (mem_requests.mpr (.inr (.inl (kept ▸ repeated))))
      · rw [stopped] at repeated
        cases repeated
      · exact current request (sent ▸ repeated)
    · rcases effect.captures with
        kept | ⟨device', old, changed, before, queried, change, -, -, after⟩
      · exact serves.within request (mem_requests.mpr (.inr (.inr (kept ▸ captured))))
      · rw [after, List.mem_append, List.mem_singleton] at captured
        rcases captured with earlier | rfl
        · exact serves.within request (mem_requests.mpr (.inr (.inr earlier)))
        · exact serves.changed before queried change
  · intro request captured
    rcases effect.captures with kept | ⟨_, _, changed, _, _, _, focused, triggered, after⟩
    · exact serves.captures request (kept ▸ captured)
    · rw [after, List.mem_append, List.mem_singleton] at captured
      rcases captured with earlier | rfl
      · exact serves.captures request earlier
      · exact ⟨focused, triggered⟩
  · intro fine request listed
    rw [List.mem_append, Option.mem_toList, Option.mem_toList] at listed
    rcases listed with set | repeated
    · exact reset fine request set
    · rcases effect.repeating with kept | stopped | sent
      · exact serves.trigger fine request
          (List.mem_append_right _ (Option.mem_toList.mpr (kept ▸ repeated)))
      · rw [stopped] at repeated
        cases repeated
      · exact reset fine request (sent ▸ repeated)

theorem setControl_effect (asI32 : UInt32 → Int32)
    (statusError : NdkCameraStatus → String → CameraError) (ndk : Ndk)
    (control : CameraControlType) (value : CameraControlValue) (begun : Begun ops cam) :
    ((setControl asI32 statusError ndk cam control value).1 = cam ∧
      (setControl asI32 statusError ndk cam control value).2 ≠ .ok ()) ∨
    ∃ index template device call status, Serves ops cam index template device ∧
      callOf asI32 control value = .ok call ∧
      Effect ndk.setIdle call cam
        ((setControl asI32 statusError ndk cam control value).1, status) ∧
      ((setControl asI32 statusError ndk cam control value).2 = .ok () → status = .ok) := by
  rcases setControl_cases asI32 statusError ndk cam control value with
    ⟨error, -, same⟩ | ⟨call, made, same, fine⟩
  · rw [same]
    exact .inl ⟨rfl, fun ok => (nomatch ok)⟩
  · rw [same, fine]
    rcases begun with ⟨-, none⟩ | ⟨index, template, device, serves⟩
    · rw [perform_none ndk call (captureRequest_none none)]
      refine .inl ⟨rfl, fun ok => ?_⟩
      rw [fine, perform_none ndk call (captureRequest_none none)] at ok
      cases ok
    · exact .inr ⟨index, template, device, call, (cam.perform ndk call).2, serves, made,
        perform_effect ndk call serves.queried, id⟩

theorem Begun.setControl (asI32 : UInt32 → Int32)
    (statusError : NdkCameraStatus → String → CameraError) (ndk : Ndk)
    (control : CameraControlType) (value : CameraControlValue)
    (listed : Op.setControl ndk control value ∈ ops) (begun : Begun ops cam) :
    (step asI32 statusError cam (.setControl ndk control value)).devices = cam.devices ∧
      Begun ops (step asI32 statusError cam (.setControl ndk control value)) := by
  rcases setControl_effect asI32 statusError ndk control value begun with
    ⟨same, -⟩ | ⟨index, template, device, call, status, serves, -, effect, -⟩
  · have unchanged : step asI32 statusError cam (.setControl ndk control value) = cam := same
    rw [unchanged]
    exact ⟨rfl, begun⟩
  · exact ⟨effect.same.devices, .inr ⟨index, template, device,
      serves.performed (fun fine => fine _ listed) effect⟩⟩

theorem Begun.start (listed : Op.start index template ∈ ops) (begun : Begun ops cam) :
    Begun ops (cam.start index template) := by
  unfold NdkCamera2.start
  split
  · exact begun
  · next accepted =>
    rw [not_or, not_or] at accepted
    obtain ⟨positive, small, -⟩ := accepted
    rw [Int32.lt_iff_toInt_lt] at positive
    simp only [Int32.reduceToInt, Int.not_lt] at positive
    have inside : index.toInt.toNat < cam.devices.length := by omega
    refine .inr ⟨index, template, cam.devices[index.toInt.toNat], listed, rfl,
      ⟨?_, ?_⟩, ⟨rfl, template, rfl⟩, ?_, ?_, ?_⟩
    · exact Int32.le_iff_toInt_le.mpr positive
    · exact List.getElem?_eq_getElem inside
    · intro request listed
      have same : request = template := by
        simpa only [NdkCamera2.requests, Option.toList_some, List.append_nil, List.cons_append,
          List.nil_append, List.mem_cons, List.not_mem_nil, or_false, or_self] using listed
      subst same
      exact ⟨fun _ => .inl rfl, .inl rfl, .inl rfl⟩
    · intro request listed
      cases listed
    · intro _ request listed
      have same : request = template := by
        simpa only [Option.toList_some, List.cons_append, List.nil_append, List.mem_cons,
          List.not_mem_nil, or_false, or_self] using listed
      subst same
      exact .inl rfl

theorem Begun.step (asI32 : UInt32 → Int32)
    (statusError : NdkCameraStatus → String → CameraError) {op : Op} (listed : op ∈ ops)
    (begun : Begun ops cam) :
    (step asI32 statusError cam op).devices = cam.devices ∧
      Begun ops (step asI32 statusError cam op) := by
  cases op with
  | setControl ndk control value =>
      exact begun.setControl asI32 statusError ndk control value listed
  | start index template =>
      refine ⟨?_, begun.start listed⟩
      simp only [Controls.step, NdkCamera2.start]
      split <;> rfl
  | stop => exact ⟨rfl, .inl ⟨rfl, rfl⟩⟩
  | lost =>
      refine ⟨rfl, ?_⟩
      rcases begun with ⟨-, none⟩ | ⟨index, template, device, serves⟩
      · exact .inl ⟨rfl, none⟩
      · exact .inr ⟨index, template, device, serves.started, serves.chosen, serves.known,
          serves.live, serves.within, serves.captures, serves.trigger⟩

theorem run_begun (asI32 : UInt32 → Int32)
    (statusError : NdkCameraStatus → String → CameraError) (devices : List Characteristics)
    (ops : List Op) :
    (run asI32 statusError { devices := devices } ops).devices = devices ∧
      Begun ops (run asI32 statusError { devices := devices } ops) := by
  refine run_keeps asI32 statusError (P := fun cam => cam.devices = devices ∧ Begun ops cam) ?_
    ⟨rfl, .inl ⟨rfl, rfl⟩⟩
  rintro op listed cam ⟨same, begun⟩
  obtain ⟨kept, next⟩ := begun.step asI32 statusError listed
  exact ⟨kept.trans same, next⟩

end Session

/-- In every state of every run each request of the session is the template that one start of the
run was given, with nothing changed that the device does not advertise but the compensation; only
the single captures of a focus have the trigger set. -/
theorem requests_stay_supported (asI32 : UInt32 → Int32)
    (statusError : NdkCameraStatus → String → CameraError) (devices : List Characteristics)
    (ops : List Op) :
    let cam := run asI32 statusError { devices := devices } ops
    cam.requests = [] ∨ ∃ index template device, Op.start index template ∈ ops ∧
      cam.activeDeviceIndex = index ∧ devices[index.toInt.toNat]? = some device ∧
      (∀ request ∈ cam.requests, template.Within device request) ∧
      (∀ request ∈ cam.captures,
        request.mode .af = some 1 ∧ request.afTrigger = some AF_TRIGGER_START) ∧
      ((∀ op ∈ ops, op.setsIdle = true) →
        ∀ request ∈ cam.captureRequest.toList ++ cam.repeating.toList,
          Resets template request) := by
  obtain ⟨same, ⟨-, none⟩ | ⟨index, template, device, serves⟩⟩ :=
    run_begun asI32 statusError devices ops
  · exact .inl none
  · refine .inr ⟨index, template, device, serves.started, serves.chosen, ?_, serves.within,
      serves.captures, serves.trigger⟩
    have known := serves.known.2
    rwa [same] at known

/-! ### What a session keeps -/

/-- The entries of a request that calls write, the trigger apart. -/
inductive Entry
  | mode (kind : Kind)
  | compensation
  | cropRegion
  | sensitivity
deriving DecidableEq

def CaptureRequest.Agrees (first second : CaptureRequest) : Entry → Prop
  | .mode kind => first.mode kind = second.mode kind
  | .compensation => first.compensation = second.compensation
  | .cropRegion => first.cropRegion = second.cropRegion
  | .sensitivity => first.sensitivity = second.sensitivity

def Call.entries : Call → List Entry
  | .exposureCompensation _ => [.compensation]
  | .mode kind _ => [.mode kind]
  | .zoom _ => [.cropRegion]
  | .sensitivity _ => [.mode .ae, .sensitivity]

/-- The entries that a control stands for; gain takes the exposure mode with it. -/
def entries : CameraControlType → List Entry
  | .brightness | .exposure => [.compensation]
  | .autoExposure => [.mode .ae]
  | .focus | .autoFocus => [.mode .af]
  | .whiteBalance | .autoWhiteBalance => [.mode .awb]
  | .zoom => [.cropRegion]
  | .gain => [.mode .ae, .sensitivity]
  | _ => []

/-- The session goes on, and the call is for other entries. -/
def Op.spares (kept : List Entry) : Op → Bool
  | .setControl _ control _ => (entries control).all fun entry => decide (entry ∉ kept)
  | .start _ _ => false
  | .stop | .lost => true

theorem callOf_entries {control : CameraControlType} {value : CameraControlValue} {call : Call}
    (made : callOf asI32 control value = .ok call) : call.entries = entries control := by
  cases control <;> cases made <;> rfl

theorem Change.agrees {device : Characteristics} {call : Call} {request changed : CaptureRequest}
    (change : Change device call request changed) {entry : Entry} (other : entry ∉ call.entries) :
    changed.Agrees request entry := by
  have spared (kind kind' : Kind) (mode : Option UInt8) (other : Entry.mode kind' ≠ .mode kind) :
      Function.update request.mode kind mode kind' = request.mode kind' :=
    Function.update_of_ne (fun same => other (congrArg Entry.mode same)) ..
  cases change with
  | exposureCompensation value =>
      cases entry with
      | compensation => exact absurd List.mem_cons_self other
      | mode | cropRegion | sensitivity => rfl
  | mode kind value byte =>
      cases entry with
      | mode kind' => exact spared kind kind' _ (List.ne_of_not_mem_cons other)
      | compensation | cropRegion | sensitivity => rfl
  | zoom zoom100 sensor crop =>
      cases entry with
      | cropRegion => exact absurd List.mem_cons_self other
      | mode | compensation | sensitivity => rfl
  | sensitivity iso value =>
      cases entry with
      | mode kind' => exact spared .ae kind' _ (List.ne_of_not_mem_cons other)
      | sensitivity => exact absurd (List.mem_cons_of_mem _ List.mem_cons_self) other
      | compensation | cropRegion => rfl

/-- Whatever is repeated, or will be, agrees with `request` on `kept`. -/
def Keeps (request : CaptureRequest) (kept : List Entry) (cam : NdkCamera2) : Prop :=
  ∀ later, cam.captureRequest = some later ∨ cam.repeating = some later →
    ∀ entry ∈ kept, later.Agrees request entry

theorem CaptureRequest.Agrees.trans {first second third : CaptureRequest} {entry : Entry}
    (one : first.Agrees second entry) (two : second.Agrees third entry) :
    first.Agrees third entry := by
  cases entry <;> exact Eq.trans one two

theorem Effect.keeps {idle : Bool} {call : Call} {cam : NdkCamera2}
    {performed : NdkCamera2 × NdkCameraStatus} {request : CaptureRequest} {kept : List Entry}
    (effect : Effect idle call cam performed) (spared : ∀ entry ∈ kept, entry ∉ call.entries)
    (keeps : Keeps request kept cam) : Keeps request kept performed.1 := by
  have current (later : CaptureRequest) (set : performed.1.captureRequest = some later) :
      ∀ entry ∈ kept, later.Agrees request entry := by
    intro entry listed
    rcases effect.request with same | ⟨device, old, changed, before, -, change, after⟩
    · exact keeps later (.inl (same ▸ set)) entry listed
    · rw [after] at set
      cases set
      exact (change.agrees (spared entry listed)).trans (keeps old (.inl before) entry listed)
  rintro later (set | repeated)
  · exact current later set
  · rcases effect.repeating with same | stopped | sent
    · exact keeps later (.inr (same ▸ repeated))
    · rw [stopped] at repeated
      cases repeated
    · exact current later (sent ▸ repeated)

theorem Begun.mono {ops more : List Op} {cam : NdkCamera2} (all : ∀ op ∈ ops, op ∈ more)
    (begun : Begun ops cam) : Begun more cam := by
  rcases begun with idle | ⟨index, template, device, serves⟩
  · exact .inl idle
  · exact .inr ⟨index, template, device, { serves with
      started := all _ serves.started
      trigger := fun fine => serves.trigger fun op listed => fine op (all op listed) }⟩

theorem CaptureRequest.Agrees.refl (request : CaptureRequest) (entry : Entry) :
    request.Agrees request entry := by
  cases entry <;> rfl

theorem Keeps.step {ops : List Op} {cam : NdkCamera2} {request : CaptureRequest}
    {kept : List Entry} {op : Op} (begun : Begun ops cam) (spares : op.spares kept = true)
    (keeps : Keeps request kept cam) :
    Keeps request kept (step asI32 statusError cam op) := by
  cases op with
  | setControl ndk control value =>
      rcases setControl_effect asI32 statusError ndk control value begun with
        ⟨same, -⟩ | ⟨index, template, device, call, status, serves, made, effect, -⟩
      · have unchanged :
            Controls.step asI32 statusError cam (.setControl ndk control value) = cam := same
        rw [unchanged]
        exact keeps
      · have spared : ∀ entry ∈ kept, entry ∉ call.entries := by
          intro entry listed written
          rw [callOf_entries made] at written
          exact of_decide_eq_true (List.all_eq_true.mp spares entry written) listed
        exact effect.keeps spared keeps
  | start index template => cases spares
  | stop =>
      rintro later (set | repeated)
      · cases set
      · cases repeated
  | lost => exact keeps

/-- A `set_control` that succeeds puts what it asked for into the request that is repeated, and as
long as the session lasts nothing but another call for the same entries takes it out again, whether
or not the calls in between succeed. -/
theorem accepted_setting_kept (devices : List Characteristics) (before : List Op) (ndk : Ndk)
    (control : CameraControlType) (value : CameraControlValue)
    (accepted : (setControl asI32 statusError ndk
      (run asI32 statusError { devices := devices } before) control value).2 = .ok ()) :
    let cam := run asI32 statusError { devices := devices } before
    let next := (setControl asI32 statusError ndk cam control value).1
    ∃ call device request, callOf asI32 control value = .ok call ∧
      cam.queriedDevice = some device ∧ next.captureRequest = some request ∧
      next.repeating = some request ∧ call.Holds device request ∧
      ∀ after : List Op, (∀ op ∈ after, op.spares (entries control) = true) →
        ∀ later, (run asI32 statusError next after).repeating = some later →
          ∀ entry ∈ entries control, later.Agrees request entry := by
  intro cam next
  obtain ⟨-, begun⟩ := run_begun asI32 statusError devices before
  rcases setControl_effect asI32 statusError ndk control value begun with
    ⟨-, refused⟩ | ⟨index, template, device, call, status, serves, made, effect, fine⟩
  · exact absurd accepted refused
  · obtain ⟨device', request, queried, set, repeated, holds⟩ := effect.accepted (fine accepted)
    refine ⟨call, device', request, made, queried, set, repeated, holds, ?_⟩
    intro after spares later found
    have started : Keeps request (entries control) next := by
      rintro first (set' | repeated') entry -
      · have same : first = request := Option.some.inj (set'.symm.trans set)
        exact same ▸ .refl first entry
      · have same : first = request := Option.some.inj (repeated'.symm.trans repeated)
        exact same ▸ .refl first entry
    have begun' : Begun (before ++ .setControl ndk control value :: after) next :=
      (Begun.step asI32 statusError (List.mem_append_right _ List.mem_cons_self)
        (begun.mono fun _ => List.mem_append_left _)).2
    have kept := run_keeps asI32 statusError
      (P := fun cam => Begun (before ++ .setControl ndk control value :: after) cam ∧
        Keeps request (entries control) cam)
      (fun op listed cam holds =>
        ⟨(holds.1.step asI32 statusError
            (List.mem_append_right _ (List.mem_cons_of_mem _ listed))).2,
          holds.2.step holds.1 (spares op listed)⟩)
      ⟨begun', started⟩
    exact kept.2 later (.inr found)

/-- A camera with the modes 0 and 1 of each kind. -/
def twoModes : Characteristics where
  activeArray := some ⟨8, 8, 4000, 3000⟩
  modes _ := [0, 1]

def twoModesStarted : NdkCamera2 :=
  run (fun _ => 0) (fun _ => CameraError.streamError) { devices := [twoModes] }
    [.start 0 { mode := fun _ => none }]

theorem accepted_setting_kept_gain : ∃ request : CaptureRequest,
    request.sensitivity = some 400 ∧ ∀ after : List Op,
      (∀ op ∈ after, op.spares [.mode .ae, .sensitivity] = true) →
        ∀ later, (run (fun _ => 0) (fun _ => CameraError.streamError)
            (setControl (fun _ => 0) (fun _ => CameraError.streamError) {} twoModesStarted .gain
              (.integer 400 false)).1 after).repeating = some later →
          later.sensitivity = request.sensitivity := by
  have accepted : (setControl (fun _ => 0) (fun _ => CameraError.streamError) {} twoModesStarted
      .gain (.integer 400 false)).2 = .ok () := rfl
  obtain ⟨call, device, request, made, -, -, -, holds, kept⟩ :=
    accepted_setting_kept [twoModes] [.start 0 { mode := fun _ => none }] {} .gain
      (.integer 400 false) accepted
  cases made
  exact ⟨request, holds.2, fun after spares later found =>
    kept after spares later found .sensitivity (by decide)⟩

/-! ### Which modes are taken -/

theorem callOf_auto (asI32 : UInt32 → Int32) {control : CameraControlType} {kind : Kind}
    (auto : kindOf control = some kind) (value : CameraControlValue) :
    callOf asI32 control value = .ok (.mode kind (valueAsI32 asI32 value)) := by
  cases control <;> cases auto <;> rfl

private theorem setMode_ok_iff {cam : NdkCamera2} {kind : Kind} {mask : BitVec 32} {value : Int32}
    (streaming : cam.streaming = true)
    (live : cam.captureSession = true ∧ ∃ request, cam.captureRequest = some request)
    (answered : cam.getControlModes {} kind = .ok mask) :
    (cam.setMode {} kind value).2 = .ok ↔
      ∃ mode : Nat, (mode < 32 ∧ hasBit mask mode = true) ∧ (mode : Int) = value.toInt := by
  obtain ⟨session, request, set⟩ := live
  have sent (changed : CaptureRequest) (captures : List CaptureRequest) :
      ({ cam.write changed with captures := captures }.updateRepeatingRequest {}).2 = .ok := by
    simp [NdkCamera2.updateRepeatingRequest, NdkCamera2.write, streaming, session]
  unfold NdkCamera2.setMode
  simp only [set, answered]
  split
  · next invalid =>
    refine ⟨fun ok => (nomatch ok), ?_⟩
    rintro ⟨mode, ⟨small, bit⟩, same⟩
    rw [Int32.lt_iff_toInt_lt, Int32.le_iff_toInt_le, ← same] at invalid
    simp only [Int32.reduceToInt, Int.toNat_natCast, bit, Bool.true_eq_false, or_false] at invalid
    omega
  · next valid =>
    rw [not_or, not_or, Bool.not_eq_false, Int32.lt_iff_toInt_lt, Int32.le_iff_toInt_le] at valid
    simp only [Int32.reduceToInt, Int.not_lt, Int.not_le] at valid
    obtain ⟨positive, small, bit⟩ := valid
    refine ⟨fun _ => ⟨value.toInt.toNat, ⟨by omega, bit⟩, by omega⟩, fun _ => ?_⟩
    rw [if_neg (by decide)]
    split
    · exact sent _ _
    · exact sent _ _

/-- `supported_modes` lists what the device advertises below 32, and of the values that
`set_control` is given the NDK gets to see just those. -/
theorem listed_modes_accepted (asI32 : UInt32 → Int32)
    (statusError : NdkCameraStatus → String → CameraError) (devices : List Characteristics)
    (ops : List Op) {control : CameraControlType} {kind : Kind} (auto : kindOf control = some kind)
    (streams : (run asI32 statusError { devices := devices } ops).streaming = true) :
    let cam := run asI32 statusError { devices := devices } ops
    ∃ device modes, cam.activeDevice = some device ∧
      supportedModes statusError {} cam control = .ok modes ∧
      (∀ mode, mode ∈ modes ↔ mode < 32 ∧ ∃ byte ∈ device.modes kind, byte.toNat = mode) ∧
      ∀ value, (setControl asI32 statusError {} cam control value).2 = .ok () ↔
        ∃ mode ∈ modes, (mode : Int) = (valueAsI32 asI32 value).toInt := by
  intro cam
  obtain ⟨-, ⟨still, -⟩ | ⟨index, template, device, serves⟩⟩ :=
    run_begun asI32 statusError devices ops
  · rw [streams] at still
    cases still
  · have active : cam.activeDevice = some device := by
      unfold NdkCamera2.activeDevice
      rw [serves.chosen, if_pos serves.known.1]
      exact serves.known.2
    have mask : cam.getControlModes {} kind = .ok (modeMask (device.modes kind)) := by
      unfold NdkCamera2.getControlModes
      rw [serves.queried]
      rfl
    have modes (mode : Nat) :
        mode ∈ (List.range 32).filter (hasBit (modeMask (device.modes kind))) ↔
          mode < 32 ∧ ∃ byte ∈ device.modes kind, byte.toNat = mode := by
      rw [List.mem_filter, List.mem_range]
      exact and_congr_right hasBit_modeMask
    refine ⟨device, _, active, ?_, modes, fun value => ?_⟩
    · unfold supportedModes
      rw [auto]
      simp only [mask]
    · rcases setControl_cases asI32 statusError {} cam control value with
        ⟨error, made, -⟩ | ⟨call, made, -, fine⟩
      · rw [callOf_auto asI32 auto] at made
        cases made
      · rw [callOf_auto asI32 auto] at made
        cases made
        simp only [fine, List.mem_filter, List.mem_range]
        exact setMode_ok_iff streams serves.live mask

theorem listed_modes_accepted_focus : ∃ modes,
    supportedModes (fun _ => CameraError.streamError) {} twoModesStarted .autoFocus = .ok modes ∧
      ∀ value, (setControl (fun _ => 0) (fun _ => CameraError.streamError) {} twoModesStarted
          .autoFocus value).2 = .ok () ↔
        ∃ mode ∈ modes, (mode : Int) = (valueAsI32 (fun _ => 0) value).toInt := by
  obtain ⟨device, modes, -, listed, -, taken⟩ :=
    listed_modes_accepted (fun _ => 0) (fun _ => CameraError.streamError) [twoModes]
      [.start 0 { mode := fun _ => none }] (rfl : kindOf .autoFocus = some .af) rfl
  exact ⟨modes, listed, taken⟩

end Runs

end CameraRs.Camera2.Controls

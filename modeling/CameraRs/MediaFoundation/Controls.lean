/-
The controls of a Media Foundation device: `IAMVideoProcAmp` and `IAMCameraControl`, and
`control.rs` above them.

A property has a number and says whether it is automatic. An automatic control is that flag of its
base control, and a call that switches it writes the number back that it has just read.
-/

import CameraRs.V4l2.ControlRuns

namespace CameraRs.MediaFoundation.Controls

open Uvc.Controls (CameraControlType controlNotSupported controlNotReadable)
open V4l2.Controls (CameraControlValue CameraControlRange)

/-! ### The two services -/

abbrev HResult := Int32

inductive Service
  | videoProcAmp
  | cameraControl
deriving DecidableEq

def Service.name : Service → String
  | .videoProcAmp => "VideoProcAmp"
  | .cameraControl => "CameraControl"

structure Property where
  service : Service
  id : Int32
deriving DecidableEq

/-- What `GetRange` fills in. -/
structure PropertyRange where
  min : Int32
  max : Int32
  step : Int32
  default : Int32
  flags : Int32

structure SourceReader (Device : Type) where
  getServiceForStream : Device → Service → Except HResult Unit
  get : Device → Property → Except HResult (Int32 × Int32)
  set : Device → Property → Int32 → Int32 → Device × Except HResult Unit
  getRange : Device → Property → Except HResult PropertyRange

def CameraControl_Flags_Auto : Int32 := 1
def CameraControl_Flags_Manual : Int32 := 2

def isAutomatic (flags : Int32) : Bool := decide (flags &&& CameraControl_Flags_Auto ≠ 0)

def flagsOf (isAuto : Bool) : Int32 :=
  if isAuto then CameraControl_Flags_Auto else CameraControl_Flags_Manual

/-! ### `control.rs` -/

inductive MFControlId
  | procAmpBoolean (id : Int32)
  | procAmpRange (id : Int32)
  | cameraControlValue (id : Int32)
  | cameraControlRange (id : Int32)

def MFControlId.property : MFControlId → Property
  | .procAmpBoolean id => ⟨.videoProcAmp, id⟩
  | .procAmpRange id => ⟨.videoProcAmp, id⟩
  | .cameraControlValue id => ⟨.cameraControl, id⟩
  | .cameraControlRange id => ⟨.cameraControl, id⟩

def controlTypeToMfId : CameraControlType → Option MFControlId
  | .brightness => some (.procAmpRange 0)
  | .contrast => some (.procAmpRange 1)
  | .hue => some (.procAmpRange 2)
  | .saturation => some (.procAmpRange 3)
  | .sharpness => some (.procAmpRange 4)
  | .gamma => some (.procAmpRange 5)
  | .whiteBalance => some (.procAmpRange 7)
  | .backlightCompensation => some (.procAmpBoolean 8)
  | .gain => some (.procAmpRange 9)
  | .pan => some (.cameraControlRange 0)
  | .tilt => some (.cameraControlRange 1)
  | .zoom => some (.cameraControlRange 3)
  | .exposure => some (.cameraControlValue 4)
  | .iris => some (.cameraControlValue 5)
  | .focus => some (.cameraControlValue 6)
  | .autoExposure => none
  | .autoFocus => none
  | .autoWhiteBalance => none

def automaticBase : CameraControlType → Option CameraControlType
  | .autoExposure => some .exposure
  | .autoFocus => some .focus
  | .autoWhiteBalance => some .whiteBalance
  | _ => none

def asBool : CameraControlValue → Option Bool
  | .boolean value => some value
  | .integer value _ => some (decide (value ≠ 0))
  | .float _ => none

section Calls

variable {Device : Type} (reader : SourceReader Device)
  (nativeError : String → HResult → CameraError) (asI32 : UInt32 → Int32)

/-- `get_video_proc_amp` and `get_camera_control`. -/
def getService (device : Device) (service : Service) : CameraResult Unit :=
  (reader.getServiceForStream device service).mapError (nativeError ("get IAM" ++ service.name))

def propertyOf (device : Device) (control : CameraControlType) : CameraResult Property := do
  match controlTypeToMfId control with
  | none => throw (controlNotSupported control.name)
  | some id =>
      getService reader nativeError device id.property.service
      return id.property

/-- `get_control` of a control that is no automatic one: its number, and whether it is automatic. -/
def getNumber (device : Device) (control : CameraControlType) : CameraResult (Int32 × Bool) := do
  let property ← propertyOf reader nativeError device control
  let answer ← (reader.get device property).mapError
    (nativeError ("get " ++ property.service.name ++ " value"))
  return (answer.1, isAutomatic answer.2)

def getControl (device : Device) (control : CameraControlType) :
    CameraResult CameraControlValue :=
  match automaticBase control with
  | some base => do
      let found ← getNumber reader nativeError device base
      return .boolean found.2
  | none => do
      let found ← getNumber reader nativeError device control
      return .integer found.1 found.2

def getNumberRange (device : Device) (control : CameraControlType) :
    CameraResult CameraControlRange := do
  let property ← propertyOf reader nativeError device control
  let range ← (reader.getRange device property).mapError
    (nativeError ("get " ++ property.service.name ++ " range"))
  return ⟨range.min, range.max, range.step, range.default, isAutomatic range.flags⟩

def getControlRange (device : Device) (control : CameraControlType) :
    CameraResult CameraControlRange :=
  match automaticBase control with
  | some base => do
      let range ← getNumberRange reader nativeError device base
      if range.supportsAuto then
        throw (controlNotReadable
          "Automatic mode default/range is not reported by Media Foundation")
      else throw (controlNotSupported "Automatic mode unavailable")
  | none => getNumberRange reader nativeError device control

def numberOf : CameraControlValue → Int32 × Bool
  | .integer value isAuto => (value, isAuto)
  | .boolean value => (if value then 1 else 0, false)
  | .float bits => (asI32 bits, false)

def setNumber (device : Device) (control : CameraControlType) (setting : Int32 × Bool) :
    Device × CameraResult Unit :=
  match propertyOf reader nativeError device control with
  | .error error => (device, .error error)
  | .ok property =>
      let answer := reader.set device property setting.1 (flagsOf setting.2)
      (answer.1,
        answer.2.mapError (nativeError ("set " ++ property.service.name ++ " value")))

/-- What an automatic control makes `set_control` write to its base. -/
def switched (device : Device) (base : CameraControlType) (value : CameraControlValue) :
    CameraResult (Int32 × Bool) := do
  match asBool value with
  | none => throw (CameraError.invalidConfig "Automatic control expects boolean")
  | some automatic =>
      let range ← getNumberRange reader nativeError device base
      if automatic && !range.supportsAuto then
        throw (controlNotSupported "Automatic mode unavailable")
      else
        let current ← getNumber reader nativeError device base
        return (current.1, automatic)

def setControl (device : Device) (control : CameraControlType) (value : CameraControlValue) :
    Device × CameraResult Unit :=
  match automaticBase control with
  | none => setNumber reader nativeError device control (numberOf asI32 value)
  | some base =>
      match switched reader nativeError device base value with
      | .error error => (device, .error error)
      | .ok setting => setNumber reader nativeError device base setting

def supportsControl (device : Device) (control : CameraControlType) : Bool :=
  match automaticBase control with
  | some base =>
      match getControlRange reader nativeError device base with
      | .ok range => range.supportsAuto
      | .error _ => false
  | none => (getControlRange reader nativeError device control).toBool

def runSets (device : Device) (calls : List (CameraControlType × CameraControlValue)) : Device :=
  calls.foldl
    (fun device call => (setControl reader nativeError asI32 device call.1 call.2).1) device

end Calls

/-! ### What is documented of a device -/

section Runs

variable {Device : Type} {reader : SourceReader Device}
  {nativeError : String → HResult → CameraError} {asI32 : UInt32 → Int32}

/-- A property is automatic, or has the number that it was given by hand. -/
def Reads (reader : SourceReader Device) (device : Device) (property : Property)
    (setting : Int32 × Bool) : Prop :=
  ∃ found, reader.get device property = .ok (found, flagsOf setting.2) ∧
    (setting.2 = false → found = setting.1)

/-- `Set` stores what it accepts, and leaves the other properties in their mode; those that are not
automatic keep their number. -/
structure SourceReader.Lawful (reader : SourceReader Device) : Prop where
  services : ∀ device property number flags service,
    reader.getServiceForStream (reader.set device property number flags).1 service =
      reader.getServiceForStream device service
  stored : ∀ device property setting,
    (reader.set device property setting.1 (flagsOf setting.2)).2 = .ok () →
      Reads reader (reader.set device property setting.1 (flagsOf setting.2)).1 property setting
  kept : ∀ device property number flags other setting, other ≠ property →
    Reads reader device other setting →
      Reads reader (reader.set device property number flags).1 other setting

/-! ### Controls and their properties -/

/-- The control whose property a call reads and writes. -/
def baseOf (control : CameraControlType) : CameraControlType :=
  (automaticBase control).getD control

private theorem property_injective {control other : CameraControlType} {id otherId : MFControlId}
    (known : controlTypeToMfId control = some id) (known' : controlTypeToMfId other = some otherId)
    (same : id.property = otherId.property) : control = other := by
  cases control <;> cases known <;> cases other <;> cases known' <;>
    first | rfl | exact absurd same (by decide)

theorem automaticBase_baseOf {control base : CameraControlType}
    (auto : automaticBase control = some base) :
    automaticBase base = none ∧ baseOf control = base := by
  cases control <;> cases auto <;> exact ⟨rfl, rfl⟩

private theorem isAutomatic_flagsOf (isAuto : Bool) : isAutomatic (flagsOf isAuto) = isAuto := by
  cases isAuto <;> rfl

/-! ### One call -/

private theorem propertyOf_ok {device : Device} {control : CameraControlType} {property : Property}
    (found : propertyOf reader nativeError device control = .ok property) :
    ∃ id, controlTypeToMfId control = some id ∧ id.property = property ∧
      reader.getServiceForStream device property.service = .ok () := by
  unfold propertyOf at found
  cases known : controlTypeToMfId control with
  | none =>
      rw [known] at found
      cases found
  | some id =>
      rw [known] at found
      simp only [getService] at found
      cases answer : reader.getServiceForStream device id.property.service with
      | error code =>
          rw [answer] at found
          cases found
      | ok =>
          rw [answer] at found
          cases found
          exact ⟨id, rfl, rfl, answer⟩

private theorem propertyOf_eq {device : Device} {control : CameraControlType} {id : MFControlId}
    (known : controlTypeToMfId control = some id)
    (served : reader.getServiceForStream device id.property.service = .ok ()) :
    propertyOf reader nativeError device control = .ok id.property := by
  unfold propertyOf
  rw [known]
  simp only [getService, served]
  rfl

variable (nativeError) in
private theorem getNumber_reads {device : Device} {control : CameraControlType} {id : MFControlId}
    {setting : Int32 × Bool} (known : controlTypeToMfId control = some id)
    (served : reader.getServiceForStream device id.property.service = .ok ())
    (reads : Reads reader device id.property setting) :
    ∃ found, getNumber reader nativeError device control = .ok (found, setting.2) ∧
      (setting.2 = false → found = setting.1) := by
  obtain ⟨found, answer, same⟩ := reads
  refine ⟨found, ?_, same⟩
  unfold getNumber
  rw [propertyOf_eq known served]
  change (do
    let answer ← (reader.get device id.property).mapError
      (nativeError ("get " ++ id.property.service.name ++ " value"))
    return (answer.1, isAutomatic answer.2)) = _
  rw [answer]
  exact congrArg (fun mode => Except.ok (found, mode)) (isAutomatic_flagsOf setting.2)

theorem setNumber_cases (reader : SourceReader Device)
    (nativeError : String → HResult → CameraError) (device : Device)
    (control : CameraControlType) (setting : Int32 × Bool) :
    (∃ error, setNumber reader nativeError device control setting = (device, .error error)) ∨
    ∃ id, controlTypeToMfId control = some id ∧
      reader.getServiceForStream device id.property.service = .ok () ∧
      (setNumber reader nativeError device control setting).1 =
        (reader.set device id.property setting.1 (flagsOf setting.2)).1 ∧
      ((setNumber reader nativeError device control setting).2 = .ok () →
        (reader.set device id.property setting.1 (flagsOf setting.2)).2 = .ok ()) := by
  unfold setNumber
  cases found : propertyOf reader nativeError device control with
  | error error => exact .inl ⟨error, rfl⟩
  | ok property =>
      obtain ⟨id, known, rfl, served⟩ := propertyOf_ok found
      exact .inr ⟨id, known, served, rfl, V4l2.Controls.ok_of_mapError⟩

/-- What `set_control` writes. -/
def settingOf (reader : SourceReader Device) (nativeError : String → HResult → CameraError)
    (asI32 : UInt32 → Int32) (device : Device) (control : CameraControlType)
    (value : CameraControlValue) : CameraResult (Int32 × Bool) :=
  if (automaticBase control).isSome then
    switched reader nativeError device (baseOf control) value
  else .ok (numberOf asI32 value)

theorem setControl_cases (reader : SourceReader Device)
    (nativeError : String → HResult → CameraError) (asI32 : UInt32 → Int32) (device : Device)
    (control : CameraControlType) (value : CameraControlValue) :
    (∃ error, setControl reader nativeError asI32 device control value =
      (device, .error error)) ∨
    ∃ setting, settingOf reader nativeError asI32 device control value = .ok setting ∧
      setControl reader nativeError asI32 device control value =
        setNumber reader nativeError device (baseOf control) setting := by
  unfold setControl settingOf baseOf
  cases automaticBase control with
  | none => exact .inr ⟨_, rfl, rfl⟩
  | some base =>
      cases made : switched reader nativeError device base value with
      | error error =>
          refine .inl ⟨error, ?_⟩
          simp only [made]
      | ok setting =>
          refine .inr ⟨setting, made, ?_⟩
          simp only [made, Option.getD_some]

variable (nativeError asI32) in
theorem setControl_keeps (value : CameraControlValue) (lawful : reader.Lawful) {device : Device}
    {control kept : CameraControlType} {id : MFControlId}
    {setting : Int32 × Bool} (known : controlTypeToMfId kept = some id)
    (apart : baseOf control ≠ kept)
    (served : reader.getServiceForStream device id.property.service = .ok ())
    (reads : Reads reader device id.property setting) :
    let later := (setControl reader nativeError asI32 device control value).1
    reader.getServiceForStream later id.property.service = .ok () ∧
      Reads reader later id.property setting := by
  intro later
  rcases setControl_cases reader nativeError asI32 device control value with
    ⟨error, refused⟩ | ⟨written, -, made⟩
  · have same : later = device := congrArg Prod.fst refused
    rw [same]
    exact ⟨served, reads⟩
  · rcases setNumber_cases reader nativeError device (baseOf control) written with
      ⟨error, refused⟩ | ⟨id', known', -, stored, -⟩
    · have same : later = device := congrArg Prod.fst (made.trans refused)
      rw [same]
      exact ⟨served, reads⟩
    · have same : later =
          (reader.set device id'.property written.1 (flagsOf written.2)).1 :=
        (congrArg Prod.fst made).trans stored
      have other : id.property ≠ id'.property := fun equal =>
        apart (property_injective known' known equal.symm)
      rw [same]
      exact ⟨(lawful.services ..).trans served, lawful.kept _ _ _ _ _ _ other reads⟩

variable (nativeError asI32) in
private theorem runSets_keeps (lawful : reader.Lawful) {kept : CameraControlType} {id : MFControlId}
    {setting : Int32 × Bool} (known : controlTypeToMfId kept = some id)
    {calls : List (CameraControlType × CameraControlValue)}
    (apart : ∀ call ∈ calls, baseOf call.1 ≠ kept) {device : Device}
    (served : reader.getServiceForStream device id.property.service = .ok ())
    (reads : Reads reader device id.property setting) :
    reader.getServiceForStream (runSets reader nativeError asI32 device calls)
        id.property.service = .ok () ∧
      Reads reader (runSets reader nativeError asI32 device calls) id.property setting := by
  induction calls generalizing device with
  | nil => exact ⟨served, reads⟩
  | cons call rest inductionHypothesis =>
      obtain ⟨served', reads'⟩ := setControl_keeps nativeError asI32 call.2 lawful known
        (apart call List.mem_cons_self) served reads
      exact inductionHypothesis (fun other member => apart other (List.mem_cons_of_mem _ member))
        served' reads'

/-! ### Runs -/

theorem switched_ok {device : Device} {base : CameraControlType} {value : CameraControlValue}
    {setting : Int32 × Bool}
    (made : switched reader nativeError device base value = .ok setting) :
    asBool value = some setting.2 ∧
      (∃ auto, getNumber reader nativeError device base = .ok (setting.1, auto)) ∧
      ∃ range, getNumberRange reader nativeError device base = .ok range ∧
        (setting.2 = true → range.supportsAuto = true) := by
  unfold switched at made
  cases mode : asBool value with
  | none =>
      rw [mode] at made
      cases made
  | some automatic =>
      rw [mode] at made
      cases answer : getNumberRange reader nativeError device base with
      | error error =>
          rw [answer] at made
          cases made
      | ok range =>
          rw [answer] at made
          change (if automatic && !range.supportsAuto then
              throw (controlNotSupported "Automatic mode unavailable")
            else do
              let current ← getNumber reader nativeError device base
              return (current.1, automatic)) = _ at made
          split at made
          · cases made
          · next able =>
            cases number : getNumber reader nativeError device base with
            | error error =>
                rw [number] at made
                cases made
            | ok current =>
                rw [number] at made
                cases made
                refine ⟨rfl, ⟨current.2, rfl⟩, range, rfl, fun on => ?_⟩
                have chosen : automatic = true := on
                rw [chosen, Bool.true_and, Bool.not_eq_true', Bool.not_eq_false] at able
                exact able

private theorem supportsControl_auto {device : Device} {control base : CameraControlType}
    (auto : automaticBase control = some base) {range : CameraControlRange}
    (found : getNumberRange reader nativeError device base = .ok range) :
    supportsControl reader nativeError device control = range.supportsAuto := by
  have own := (automaticBase_baseOf auto).1
  unfold supportsControl getControlRange
  rw [auto]
  simp only [own, found]

/-- A control that took a value reads it back, also after any calls on other properties, whether or
not those succeed: a number set by hand, the automatic flag of one that was not, and the switch of
an automatic control. One that is switched off leaves the number that was there, and one that is
switched on is reported as supported. -/
theorem setting_reads_back (lawful : reader.Lawful) (device : Device)
    (control : CameraControlType) (value : CameraControlValue)
    (accepted : (setControl reader nativeError asI32 device control value).2 = .ok ())
    (calls : List (CameraControlType × CameraControlValue))
    (apart : ∀ call ∈ calls, baseOf call.1 ≠ baseOf control) :
    let later := runSets reader nativeError asI32
      (setControl reader nativeError asI32 device control value).1 calls
    (automaticBase control = none → ∃ found,
      getControl reader nativeError later control =
        .ok (.integer found (numberOf asI32 value).2) ∧
      ((numberOf asI32 value).2 = false → found = (numberOf asI32 value).1)) ∧
    ∀ base, automaticBase control = some base → ∃ automatic number auto found,
      asBool value = some automatic ∧
      getNumber reader nativeError device base = .ok (number, auto) ∧
      getControl reader nativeError later control = .ok (.boolean automatic) ∧
      getControl reader nativeError later base = .ok (.integer found automatic) ∧
      (automatic = false → found = number) ∧
      (automatic = true → supportsControl reader nativeError device control = true) := by
  intro later
  rcases setControl_cases reader nativeError asI32 device control value with
    ⟨error, refused⟩ | ⟨setting, written, made⟩
  · rw [refused] at accepted
    cases accepted
  · rw [made] at accepted
    rcases setNumber_cases reader nativeError device (baseOf control) setting with
      ⟨error, refused⟩ | ⟨id, known, served, stored, fine⟩
    · rw [refused] at accepted
      cases accepted
    · have first := lawful.stored device id.property setting (fine accepted)
      have open' := (lawful.services device id.property setting.1 (flagsOf setting.2)
        id.property.service).trans served
      have start : (setControl reader nativeError asI32 device control value).1 =
          (reader.set device id.property setting.1 (flagsOf setting.2)).1 :=
        (congrArg Prod.fst made).trans stored
      rw [← start] at first open'
      obtain ⟨served', reads⟩ := runSets_keeps nativeError asI32 lawful known apart open' first
      obtain ⟨found, number, same⟩ := getNumber_reads nativeError known served' reads
      constructor
      · intro own
        have base : baseOf control = control := by rw [baseOf, own]; rfl
        have plain : numberOf asI32 value = setting := by
          rw [settingOf, own] at written
          exact Except.ok.inj written
        rw [plain]
        refine ⟨found, ?_, same⟩
        rw [base] at number
        unfold getControl
        rw [own]
        simp only [later, number]
        rfl
      · intro base auto
        obtain ⟨own, chosen⟩ := automaticBase_baseOf auto
        rw [settingOf, auto, chosen] at written
        obtain ⟨mode, ⟨before, current⟩, range, supported, able⟩ := switched_ok written
        rw [chosen] at number
        refine ⟨setting.2, setting.1, before, found, mode, current, ?_, ?_, same, fun on => ?_⟩
        · unfold getControl
          rw [auto]
          simp only [later, number]
          rfl
        · unfold getControl
          rw [own]
          simp only [later, number]
          rfl
        · rw [supportsControl_auto auto supported]
          exact able on

end Runs

/-- A device that keeps what it is given, in a table. -/
def tableReader : SourceReader (Property → Int32 × Int32) where
  getServiceForStream _ _ := .ok ()
  get device property := .ok (device property)
  set device property number flags :=
    (Function.update device property (number, flags), .ok ())
  getRange _ _ := .ok ⟨0, 255, 1, 128, 3⟩

private theorem tableReader_lawful : tableReader.Lawful where
  services _ _ _ _ _ := rfl
  stored device property setting _ :=
    ⟨setting.1, congrArg Except.ok (Function.update_self ..), fun _ => rfl⟩
  kept _ _ _ _ _ _ other := by
    rintro ⟨found, answer, same⟩
    exact ⟨found, (congrArg Except.ok (Function.update_of_ne other ..)).trans answer, same⟩

/-- The focus is switched to automatic, and stays so while the gain is set and a float refused. -/
theorem setting_reads_back_focus :
    getControl tableReader (fun text _ => CameraError.streamError text)
      (runSets tableReader (fun text _ => CameraError.streamError text) (fun _ => 0)
        (setControl tableReader (fun text _ => CameraError.streamError text) (fun _ => 0)
          (fun _ => (3, 2)) .autoFocus (.boolean true)).1
        [(.gain, .integer 7 false), (.autoExposure, .float 0)])
      .autoFocus = .ok (.boolean true) := by
  have accepted : (setControl tableReader (fun text _ => CameraError.streamError text)
      (fun _ => 0) (fun _ => (3, 2)) .autoFocus (.boolean true)).2 = .ok () := rfl
  obtain ⟨-, switched⟩ := setting_reads_back tableReader_lawful (fun _ => (3, 2)) .autoFocus
    (.boolean true) accepted [(.gain, .integer 7 false), (.autoExposure, .float 0)] (by decide)
  obtain ⟨automatic, _, _, _, mode, -, shown, -⟩ := switched .focus rfl
  cases mode
  exact shown

end CameraRs.MediaFoundation.Controls

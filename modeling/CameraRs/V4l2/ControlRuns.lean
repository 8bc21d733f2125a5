/-
What runs of `set_control` do to a V4L2 device.

One lemma says which `VIDIOC_S_CTRL` calls a `set_control` makes; what is read back, what is
left alone and what is in bounds follow from it for every run.
-/

import CameraRs.V4l2.Controls

namespace CameraRs.V4l2.Controls

open Uvc.Controls (CameraControlType controlNotSupported)
open CameraRs.V4l2.Stream (Errno EINVAL)

/-! ### What is documented of a driver -/

/-- `reaches id other` is that a write of `id` may change the value of `other`, as one of a
control with `V4L2_CTRL_FLAG_UPDATE` may. -/
structure Driver.Lawful {Device : Type} (driver : Driver Device)
    (reaches : UInt32 → UInt32 → Prop) : Prop where
  info : ∀ device id value other,
    driver.queryctrl (driver.sCtrl device id value).1 other = driver.queryctrl device other
  menu : ∀ device id value other index,
    driver.querymenu (driver.sCtrl device id value).1 other index =
      driver.querymenu device other index
  stored : ∀ device id value info, driver.queryctrl device id = .ok info →
    info.Admits value → (driver.sCtrl device id value).2 = .ok () →
    driver.gCtrl (driver.sCtrl device id value).1 id = .ok value
  kept : ∀ device id value other, other ≠ id → ¬reaches id other →
    driver.gCtrl (driver.sCtrl device id value).1 other = driver.gCtrl device other
  menuStep : ∀ device id info, driver.queryctrl device id = .ok info → info.type = .menu →
    info.step = 1
  switch : ∀ device control info, control = .autoFocus ∨ control = .autoWhiteBalance →
    driver.queryctrl device (controlId control) = .ok info →
    info.minimum = 0 ∧ info.maximum = 1 ∧ info.step = 1

/-- The driver beside a list of the `VIDIOC_S_CTRL` calls that it got, each with the device
before it. -/
def Driver.recorded {Device : Type} (driver : Driver Device) :
    Driver (Device × List (Device × UInt32 × Int32)) where
  queryctrl state := driver.queryctrl state.1
  querymenu state := driver.querymenu state.1
  gCtrl state := driver.gCtrl state.1
  sCtrl state id value :=
    (((driver.sCtrl state.1 id value).1, state.2 ++ [(state.1, id, value)]),
      (driver.sCtrl state.1 id value).2)

theorem Driver.Lawful.recorded {Device : Type} {driver : Driver Device}
    {reaches : UInt32 → UInt32 → Prop} (lawful : driver.Lawful reaches) :
    driver.recorded.Lawful reaches where
  info state id value other := lawful.info state.1 id value other
  menu state id value other index := lawful.menu state.1 id value other index
  stored state id value info := lawful.stored state.1 id value info
  kept state id value other := lawful.kept state.1 id value other
  menuStep state id info := lawful.menuStep state.1 id info
  switch state control info := lawful.switch state.1 control info

/-! ### Controls and their numbers -/

theorem controlId_injective : Function.Injective controlId := by
  intro first second same
  cases first <;> cases second <;> first | rfl | exact absurd same (by decide)

theorem autoControl_isAutoControl {control auto : CameraControlType}
    (found : autoControl control = some auto) : auto.isAutoControl = true := by
  cases control <;> simp only [autoControl, reduceCtorEq, Option.some.injEq] at found <;>
    subst found <;> rfl

def touched (control : CameraControlType) : List CameraControlType :=
  control :: (autoControl control).toList

namespace CameraControlValue

def number : CameraControlValue → Int32
  | .integer value _ => value
  | .boolean value => if value then 1 else 0
  | .float _ => 0

def auto : CameraControlValue → Bool
  | .integer _ isAuto => isAuto
  | _ => false

end CameraControlValue

/-- What the value of an automatic control says, as `read_auto` reads it. -/
def automaticMode (control : CameraControlType) (value : Int32) : Bool :=
  if control = .autoExposure then decide (value ≠ 1) else decide (value ≠ 0)

theorem ok_of_mapError {ε ε' α : Type} {convert : ε → ε'} {result : Except ε α} {value : α}
    (ok : result.mapError convert = .ok value) : result = .ok value := by
  cases result with
  | error error => cases ok
  | ok found => exact congrArg Except.ok (Except.ok.inj ok)

section Runs

variable {Device : Type} {driver : Driver Device} {ioError : Errno → CameraError}

/-! ### Queries -/

private theorem queryControl_ok {device : Device} {id : UInt32} {range : Control}
    (found : queryControl driver device id = .ok range) :
    ∃ info, driver.queryctrl device id = .ok info ∧ info.disabled = false ∧
      info.writeOnly = false ∧
      range = ⟨info.minimum, info.maximum, info.step, info.defaultValue, info.readOnly⟩ := by
  unfold queryControl at found
  split at found
  case h_1 => cases found
  case h_2 info answered =>
    split at found
    · cases found
    · next usable =>
      split at found
      · cases found
      · rw [Bool.or_eq_true, not_or, Bool.not_eq_true, Bool.not_eq_true] at usable
        cases found
        exact ⟨info, answered, usable.1, usable.2, rfl⟩

theorem query_ok {device : Device} {control : CameraControlType} {range : Control}
    (found : query driver ioError device control = .ok range) :
    ∃ info, driver.queryctrl device (controlId control) = .ok info ∧ info.disabled = false ∧
      info.writeOnly = false ∧
      range = ⟨info.minimum, info.maximum, info.step, info.defaultValue, info.readOnly⟩ := by
  unfold query at found
  cases answered : queryControl driver device (controlId control) with
  | error errno =>
      rw [answered] at found
      cases found
  | ok answer =>
      rw [answered] at found
      cases found
      exact queryControl_ok answered

theorem automatic_some {device : Device} {control auto : CameraControlType}
    (found : automatic driver ioError device control = some auto) :
    autoControl control = some auto ∧ ∃ range, query driver ioError device auto = .ok range := by
  obtain ⟨mode, known⟩ := Option.filter_eq_some_iff.mp found
  refine ⟨mode, ?_⟩
  cases answer : query driver ioError device auto with
  | error error =>
      rw [answer] at known
      cases known
  | ok range => exact ⟨range, rfl⟩

/-- Two states of one device that answer every query alike. -/
structure SameInfo (driver : Driver Device) (device later : Device) : Prop where
  info : ∀ id, driver.queryctrl later id = driver.queryctrl device id
  menu : ∀ id index, driver.querymenu later id index = driver.querymenu device id index

theorem SameInfo.query {device later : Device} (same : SameInfo driver device later)
    (control : CameraControlType) :
    query driver ioError later control = query driver ioError device control := by
  simp only [Controls.query, queryControl, same.info]

variable (ioError) in
theorem SameInfo.automatic {device later : Device} (same : SameInfo driver device later)
    (control : CameraControlType) :
    automatic driver ioError later control = automatic driver ioError device control := by
  simp only [Controls.automatic, same.query]

/-! ### The exposure menu -/

structure ExposureMenu.Sound (found : ExposureMenu) (info : Queryctrl) : Prop where
  manual : found.manual = -1 ∨ found.manual = 1
  automatic : found.automatic = -1 ∨ found.automatic = 0 ∨ found.automatic = 3
  manualWithin : 0 ≤ found.manual → info.minimum ≤ found.manual ∧ found.manual ≤ info.maximum
  automaticWithin : 0 ≤ found.automatic →
    info.minimum ≤ found.automatic ∧ found.automatic ≤ info.maximum

private theorem probeMode_sound {device : Device} {id : UInt32} {info : Queryctrl}
    {found next : ExposureMenu} {index : UInt32} (candidate : index ∈ candidates)
    (sound : found.Sound info) (probed : probeMode driver device id info found index = .ok next) :
    next.Sound info := by
  unfold probeMode at probed
  split at probed
  · cases probed
    exact sound
  · next within =>
    rw [not_or, Int.not_lt, gt_iff_lt, Int.not_lt] at within
    split at probed
    · split at probed
      · cases probed
        exact sound
      · cases probed
    · have bounds : info.minimum ≤ index.toInt32 ∧ index.toInt32 ≤ info.maximum := by
        simp only [candidates, List.mem_cons, List.not_mem_nil, or_false] at candidate
        rcases candidate with rfl | rfl | rfl <;>
          exact ⟨Int32.le_iff_toInt_le.mpr within.1, Int32.le_iff_toInt_le.mpr within.2⟩
      split at probed
      · next manual =>
        cases probed
        exact ⟨.inr (by rw [manual]; rfl), sound.automatic, fun _ => bounds,
          sound.automaticWithin⟩
      · next automatic =>
        cases probed
        simp only [candidates, List.mem_cons, List.not_mem_nil, or_false] at candidate
        refine ⟨sound.manual, ?_, sound.manualWithin, fun _ => bounds⟩
        rcases candidate with rfl | rfl | rfl
        · exact absurd rfl automatic
        · exact .inr (.inl rfl)
        · exact .inr (.inr rfl)

private theorem probeModes_sound {device : Device} {id : UInt32} {info : Queryctrl}
    (indices : List UInt32) (subset : ∀ index ∈ indices, index ∈ candidates) :
    ∀ {found next : ExposureMenu}, found.Sound info →
      indices.foldlM (probeMode driver device id info) found = .ok next → next.Sound info := by
  induction indices with
  | nil =>
      intro found next sound folded
      cases folded
      exact sound
  | cons index indices ih =>
      intro found next sound folded
      rw [List.foldlM_cons] at folded
      cases probed : probeMode driver device id info found index with
      | error errno =>
          rw [probed] at folded
          cases folded
      | ok middle =>
          rw [probed] at folded
          exact ih (fun index member => subset index (List.mem_cons_of_mem _ member))
            (probeMode_sound (subset index List.mem_cons_self) sound probed) folded

theorem exposureMenu_ok {device : Device} {found : ExposureMenu}
    (probed : exposureMenu driver device = .ok found) :
    ∃ info, driver.queryctrl device (controlId .autoExposure) = .ok info ∧
      info.disabled = false ∧ info.type = .menu ∧ found.Sound info ∧
      (0 ≤ found.manual ∨ 0 ≤ found.automatic) := by
  unfold exposureMenu at probed
  split at probed
  case h_1 => cases probed
  case h_2 info answered =>
    split at probed
    · cases probed
    · next usable =>
      rw [Bool.or_eq_true, not_or, Bool.not_eq_true, decide_eq_true_eq, not_not] at usable
      split at probed
      case h_1 => cases probed
      case h_2 modes folded =>
        split at probed
        · next some =>
          cases probed
          have start : (⟨-1, -1⟩ : ExposureMenu).Sound info :=
            ⟨.inl rfl, .inl rfl, fun positive => absurd positive (by decide),
              fun positive => absurd positive (by decide)⟩
          exact ⟨info, answered, usable.1, usable.2,
            probeModes_sound candidates (fun _ member => member) start folded, some⟩
        · cases probed

/-! ### The calls that reach the driver -/

/-- A step to `value` that a `set_control` of `control` may take: the control is one that it
touches, and the value is in bounds. -/
def Issued (driver : Driver Device) (control : CameraControlType) (device : Device)
    (id : UInt32) (value : Int32) : Prop :=
  (∃ written ∈ touched control, id = controlId written) ∧
    ∃ info, driver.queryctrl device id = .ok info ∧ info.disabled = false ∧ info.Admits value

/-- The states after a number of `VIDIOC_S_CTRL` calls, each of which is `allowed`. -/
inductive Writes (driver : Driver Device) (allowed : Device → UInt32 → Int32 → Prop)
    (start : Device) : Device → Prop
  | refl : Writes driver allowed start start
  | write {device : Device} (before : Writes driver allowed start device) (id : UInt32)
      (value : Int32) (allow : allowed device id value) :
      Writes driver allowed start (driver.sCtrl device id value).1

theorem Writes.single {allowed : Device → UInt32 → Int32 → Prop} {start : Device} {id : UInt32}
    {value : Int32} (allow : allowed start id value) :
    Writes driver allowed start (driver.sCtrl start id value).1 :=
  .write .refl id value allow

variable {reaches : UInt32 → UInt32 → Prop}

theorem Writes.sameInfo (lawful : driver.Lawful reaches)
    {allowed : Device → UInt32 → Int32 → Prop} {start later : Device}
    (writes : Writes driver allowed start later) : SameInfo driver start later := by
  induction writes with
  | refl => exact ⟨fun _ => rfl, fun _ _ => rfl⟩
  | write _ id value _ ih =>
      exact ⟨fun other => (lawful.info _ id value other).trans (ih.info other),
        fun other index => (lawful.menu _ id value other index).trans (ih.menu other index)⟩

theorem Writes.kept (lawful : driver.Lawful reaches)
    {allowed : Device → UInt32 → Int32 → Prop} {start later : Device}
    (writes : Writes driver allowed start later) (other : UInt32)
    (apart : ∀ device id value, allowed device id value → other ≠ id ∧ ¬reaches id other) :
    driver.gCtrl later other = driver.gCtrl start other := by
  induction writes with
  | refl => rfl
  | write _ id value allow ih =>
      obtain ⟨different, unreached⟩ := apart _ id value allow
      exact (lawful.kept _ id value other different unreached).trans ih

theorem menu_admits {info : Queryctrl} {value : Int32} (step : info.step = 1)
    (above : info.minimum ≤ value) (below : value ≤ info.maximum) : info.Admits value := by
  unfold Queryctrl.Admits outside
  rw [step, Bool.or_eq_false_iff, Bool.or_eq_false_iff, decide_eq_false_iff_not,
    decide_eq_false_iff_not, decide_eq_false_iff_not]
  refine ⟨⟨Int32.not_lt.mpr above, Int32.not_lt.mpr below⟩, ?_⟩
  rw [not_not]
  exact Int.tmod_one _

theorem writeAuto_cases (lawful : driver.Lawful reaches) {device : Device}
    {control : CameraControlType} (auto : control.isAutoControl = true) {range : Control}
    (known : query driver ioError device control = .ok range) (enabled : Bool) :
    (∃ error, writeAuto driver ioError device control enabled = (device, .error error)) ∨
      ∃ value info, driver.queryctrl device (controlId control) = .ok info ∧
        info.disabled = false ∧ info.Admits value ∧ automaticMode control value = enabled ∧
        (writeAuto driver ioError device control enabled).1 =
          (driver.sCtrl device (controlId control) value).1 ∧
        ((writeAuto driver ioError device control enabled).2 = .ok () →
          (driver.sCtrl device (controlId control) value).2 = .ok ()) := by
  by_cases exposure : control = .autoExposure
  · subst exposure
    simp only [writeAuto, autoExposure, if_true]
    cases probed : exposureMenu driver device with
    | error errno => exact .inl ⟨_, rfl⟩
    | ok found =>
        obtain ⟨info, answered, usable, menu, sound, -⟩ := exposureMenu_ok probed
        by_cases absent : (if enabled then found.automatic else found.manual) < 0
        · simp only [absent, if_true]
          exact .inl ⟨_, rfl⟩
        · simp only [absent, if_false]
          have present := Int32.not_lt.mp absent
          refine .inr ⟨_, info, answered, usable, ?_, ?_, rfl, ?_⟩
          · cases enabled with
            | false =>
                have bounds := sound.manualWithin present
                exact menu_admits (lawful.menuStep _ _ _ answered menu) bounds.1 bounds.2
            | true =>
                have bounds := sound.automaticWithin present
                exact menu_admits (lawful.menuStep _ _ _ answered menu) bounds.1 bounds.2
          · simp only [automaticMode, if_true]
            cases enabled with
            | false =>
                simp only [Bool.false_eq_true, if_false] at present ⊢
                rcases sound.manual with manual | manual
                · rw [manual] at present
                  exact absurd present (by decide)
                · rw [manual]
                  rfl
            | true =>
                simp only [if_true] at present ⊢
                rcases sound.automatic with automatic | automatic | automatic
                · rw [automatic] at present
                  exact absurd present (by decide)
                · rw [automatic]
                  rfl
                · rw [automatic]
                  rfl
          · exact ok_of_mapError
  · obtain ⟨info, answered, usable, -, -⟩ := query_ok known
    have named : control = .autoFocus ∨ control = .autoWhiteBalance := by
      cases control <;> simp_all [CameraControlType.isAutoControl]
    obtain ⟨minimum, maximum, step⟩ := lawful.switch device control info named answered
    simp only [writeAuto, exposure, if_false]
    refine .inr ⟨_, info, answered, usable, ?_, ?_, rfl, ?_⟩
    · refine menu_admits step ?_ ?_
      · rw [minimum]
        cases enabled <;> decide
      · rw [maximum]
        cases enabled <;> decide
    · rw [automaticMode, if_neg exposure]
      cases enabled <;> rfl
    · exact ok_of_mapError

theorem writeAuto_writes (lawful : driver.Lawful reaches) {device : Device}
    (control : CameraControlType) {written : CameraControlType}
    (auto : written.isAutoControl = true) {range : Control}
    (known : query driver ioError device written = .ok range) (enabled : Bool)
    (touches : written ∈ touched control) :
    Writes driver (Issued driver control) device
      (writeAuto driver ioError device written enabled).1 := by
  rcases writeAuto_cases lawful auto known enabled with ⟨error, refused⟩ | ⟨value, info, answered,
      usable, admits, -, next, -⟩
  · rw [refused]
    exact .refl
  · rw [next]
    exact .single ⟨⟨written, touches, rfl⟩, info, answered, usable, admits⟩

theorem self_touched (control : CameraControlType) : control ∈ touched control :=
  List.mem_cons_self

theorem auto_touched {control auto : CameraControlType} (found : autoControl control = some auto) :
    auto ∈ touched control := by
  rw [touched, found]
  exact List.mem_cons_of_mem _ List.mem_cons_self

theorem setNumber_writes (lawful : driver.Lawful reaches) {device : Device}
    {control : CameraControlType} {range : Control}
    (known : query driver ioError device control = .ok range) (value : Int32) (auto : Bool) :
    Writes driver (Issued driver control) device
      (setNumber driver ioError device control range value auto).1 := by
  unfold setNumber
  split
  · next isAuto =>
    split
    · exact .refl
    · exact writeAuto_writes lawful control isAuto known _ (self_touched control)
  · split
    · split
      · next mode found =>
        obtain ⟨named, autoRange, autoKnown⟩ := automatic_some found
        exact writeAuto_writes lawful control (autoControl_isAutoControl named) autoKnown true
          (auto_touched named)
      · exact .refl
    · split
      · exact .refl
      · next inside =>
        obtain ⟨info, answered, usable, -, rangeAt⟩ := query_ok known
        have admits : info.Admits value := by
          rw [rangeAt, Bool.not_eq_true] at inside
          exact inside
        split
        · next mode found =>
          obtain ⟨named, autoRange, autoKnown⟩ := automatic_some found
          have switched := writeAuto_writes lawful control
            (autoControl_isAutoControl named) autoKnown false (auto_touched named)
          dsimp only
          split
          · exact switched
          · exact .write switched _ _ ⟨⟨control, self_touched control, rfl⟩, info,
              ((switched.sameInfo lawful).info _).trans answered, usable, admits⟩
        · exact .single ⟨⟨control, self_touched control, rfl⟩, info, answered, usable, admits⟩

variable (ioError) in
theorem setControl_writes (lawful : driver.Lawful reaches) (device : Device)
    (control : CameraControlType) (value : CameraControlValue) :
    Writes driver (Issued driver control) device
      (setControl driver ioError device control value).1 := by
  unfold setControl
  split
  case h_1 => exact .refl
  case h_2 range known =>
    split
    · exact .refl
    · cases value with
      | integer value isAuto => exact setNumber_writes lawful known value isAuto
      | boolean value => exact setNumber_writes lawful known _ false
      | float bits => exact .refl

/-! ### A driver over a table -/

def ERANGE : Errno := 34

/-- A device that holds a value for each control of a table, and refuses those out of bounds. -/
def tableDriver (infos : UInt32 → Option Queryctrl) (modes : List UInt32) :
    Driver (UInt32 → Int32) where
  queryctrl _ id :=
    match infos id with
    | some info => .ok info
    | none => .error EINVAL
  querymenu _ _ index := if index ∈ modes then .ok () else .error EINVAL
  gCtrl device id := if (infos id).isSome then .ok (device id) else .error EINVAL
  sCtrl device id value :=
    match infos id with
    | some info =>
      if outside info.minimum info.maximum info.step value then (device, .error ERANGE)
      else (Function.update device id value, .ok ())
    | none => (device, .error EINVAL)

private theorem tableDriver_lawful {infos : UInt32 → Option Queryctrl} (modes : List UInt32)
    (menuStep : ∀ id info, infos id = some info → info.type = .menu → info.step = 1)
    (switch : ∀ control info, control = .autoFocus ∨ control = .autoWhiteBalance →
      infos (controlId control) = some info →
      info.minimum = 0 ∧ info.maximum = 1 ∧ info.step = 1) :
    (tableDriver infos modes).Lawful fun _ _ => False := by
  have answer : ∀ {device : UInt32 → Int32} {id : UInt32} {info : Queryctrl},
      (tableDriver infos modes).queryctrl device id = .ok info → infos id = some info := by
    intro device id info answered
    simp only [tableDriver] at answered
    split at answered
    · next found => rw [found, Except.ok.inj answered]
    · cases answered
  refine ⟨fun _ _ _ _ => rfl, fun _ _ _ _ _ => rfl, ?_, ?_, ?_, ?_⟩
  · intro device id value info answered admits _
    have found := answer answered
    have within : outside info.minimum info.maximum info.step value = false := admits
    simp only [tableDriver, found, within, Bool.false_eq_true, if_false, Option.isSome_some,
      if_true, Function.update_self]
  · intro device id value other different _
    have value : ((tableDriver infos modes).sCtrl device id value).1 other = device other := by
      simp only [tableDriver]
      split
      · split
        · rfl
        · exact Function.update_of_ne different _ _
      · rfl
    simp only [tableDriver] at value ⊢
    rw [value]
  · exact fun device id info answered => menuStep id info (answer answered)
  · exact fun device control info named answered => switch control info named (answer answered)

/-- A camera with a brightness and an exposure that may be automatic. -/
def webcamInfos (id : UInt32) : Option Queryctrl :=
  if id = controlId .brightness then some ⟨.integer, 0, 255, 1, 128, false, false, false⟩
  else if id = controlId .exposure then some ⟨.integer, 1, 1000, 1, 156, false, false, false⟩
  else if id = controlId .autoExposure then some ⟨.menu, 0, 3, 1, 3, false, false, false⟩
  else none

theorem webcam_lawful : (tableDriver webcamInfos [1, 3]).Lawful fun _ _ => False := by
  refine tableDriver_lawful [1, 3] ?_ ?_
  · intro id info found menu
    unfold webcamInfos at found
    split at found
    · cases found
      cases menu
    · split at found
      · cases found
        cases menu
      · split at found
        · cases found
          rfl
        · cases found
  · rintro control info (rfl | rfl) found <;> cases found

def ioFailure (errno : Errno) : CameraError := ⟨.io, "errno " ++ toString errno⟩

/-! ### Reading back -/

/-- What a device shows of `control` once it has taken `value`: the mode that was asked for, the
value that was set, or whatever the automatic mode holds. -/
def shown (ioError : Errno → CameraError) (control : CameraControlType)
    (value : CameraControlValue) (held : Except Errno Int32) : CameraResult CameraControlValue :=
  if control.isAutoControl then .ok (.boolean (decide (value.number ≠ 0)))
  else if value.auto then
    match held with
    | .ok held => .ok (.integer held true)
    | .error errno => .error (ioError errno)
  else .ok (.integer value.number false)

/-- The ways in which a `set_control` succeeds. -/
inductive Taken (driver : Driver Device) (ioError : Errno → CameraError) (device : Device)
    (control : CameraControlType) (value : CameraControlValue) : Device × CameraResult Unit → Prop
  | mode (auto : control.isAutoControl = true) (zeroOne : value.number = 0 ∨ value.number = 1) :
      Taken driver ioError device control value
        (writeAuto driver ioError device control (decide (value.number ≠ 0)))
  | automatic (manual : control.isAutoControl = false) (auto : value.auto = true)
      {mode : CameraControlType}
      (found : automatic driver ioError device control = some mode) :
      Taken driver ioError device control value (writeAuto driver ioError device mode true)
  | switched (manual : control.isAutoControl = false) (number : value.auto = false)
      {mode : CameraControlType}
      (found : automatic driver ioError device control = some mode)
      (off : (writeAuto driver ioError device mode false).2 = .ok ()) :
      Taken driver ioError device control value
        (writeValue driver ioError (writeAuto driver ioError device mode false).1 control
          value.number)
  | plain (manual : control.isAutoControl = false) (number : value.auto = false)
      (found : Controls.automatic driver ioError device control = none) :
      Taken driver ioError device control value
        (writeValue driver ioError device control value.number)

theorem setNumber_taken {device : Device} {control : CameraControlType} {range : Control}
    (value : CameraControlValue)
    (accepted : (setNumber driver ioError device control range value.number value.auto).2 =
      .ok ()) :
    (control.isAutoControl = false → value.auto = false →
      outside range.min range.max range.step value.number = false) ∧
    Taken driver ioError device control value
      (setNumber driver ioError device control range value.number value.auto) := by
  unfold setNumber at accepted ⊢
  split at accepted
  · next isAuto =>
    split at accepted
    · cases accepted
    · next zeroOne =>
      rw [if_pos isAuto, if_neg zeroOne]
      refine ⟨fun manual => absurd (manual.symm.trans isAuto) Bool.false_ne_true, .mode isAuto ?_⟩
      by_cases zero : value.number = 0
      · exact .inl zero
      · exact .inr (not_not.mp fun one => zeroOne ⟨zero, one⟩)
  · next manual =>
    have manual := Bool.not_eq_true _ ▸ manual
    rw [if_neg (Bool.not_eq_true _ ▸ manual)]
    split at accepted
    · next auto =>
      rw [if_pos auto]
      refine ⟨fun _ number => absurd (number.symm.trans auto) Bool.false_ne_true, ?_⟩
      split at accepted
      · next mode found =>
        exact .automatic manual auto found
      · cases accepted
    · next number =>
      rw [if_neg number]
      have number := Bool.not_eq_true _ ▸ number
      split at accepted
      · cases accepted
      · next inside =>
        rw [if_neg inside]
        refine ⟨fun _ _ => Bool.not_eq_true _ ▸ inside, ?_⟩
        split at accepted
        · next mode found =>
          dsimp only at accepted ⊢
          split at accepted
          · cases accepted
          · next off => exact .switched manual number found off
        · next found =>
          exact .plain manual number found

private theorem setControl_taken {device : Device} {control : CameraControlType}
    {value : CameraControlValue}
    (accepted : (setControl driver ioError device control value).2 = .ok ()) :
    ∃ range, query driver ioError device control = .ok range ∧
      (control.isAutoControl = false → value.auto = false →
        outside range.min range.max range.step value.number = false) ∧
      Taken driver ioError device control value
        (setControl driver ioError device control value) := by
  unfold setControl at accepted ⊢
  split at accepted
  case h_1 => cases accepted
  case h_2 range known =>
    split at accepted
    · cases accepted
    · next writable =>
      simp only [known, writable]
      cases value with
      | integer value isAuto => exact ⟨range, rfl, setNumber_taken (.integer value isAuto) accepted⟩
      | boolean value => exact ⟨range, rfl, setNumber_taken (.boolean value) accepted⟩
      | float bits => cases accepted

theorem writeAuto_stored (lawful : driver.Lawful reaches) {device : Device}
    {control : CameraControlType} (auto : control.isAutoControl = true) {range : Control}
    (known : query driver ioError device control = .ok range) {enabled : Bool}
    (accepted : (writeAuto driver ioError device control enabled).2 = .ok ()) :
    ∃ value, driver.gCtrl (writeAuto driver ioError device control enabled).1
      (controlId control) = .ok value ∧ automaticMode control value = enabled := by
  rcases writeAuto_cases lawful auto known enabled with ⟨error, refused⟩ | ⟨value, info, answered,
      -, admits, modeIs, next, result⟩
  · rw [refused] at accepted
    cases accepted
  · rw [next]
    exact ⟨value, lawful.stored device _ value info answered admits (result accepted), modeIs⟩

/-! ### `get_control` -/

private theorem getControl_mode {device : Device} {control : CameraControlType} {range : Control}
    {value : Int32} (auto : control.isAutoControl = true)
    (known : query driver ioError device control = .ok range)
    (held : driver.gCtrl device (controlId control) = .ok value) :
    getControl driver ioError device control =
      .ok (.boolean (automaticMode control value)) := by
  simp only [getControl, known, auto, readAuto, held, automaticMode, bind, Except.bind, if_true,
    pure, Except.pure]

private theorem getControl_plain {device : Device} {control : CameraControlType} {range : Control}
    {value : Int32} (manual : control.isAutoControl = false)
    (known : query driver ioError device control = .ok range)
    (held : driver.gCtrl device (controlId control) = .ok value)
    (found : automatic driver ioError device control = none) :
    getControl driver ioError device control = .ok (.integer value false) := by
  simp only [getControl, known, manual, held, found, bind, Except.bind, Bool.false_eq_true,
    if_false, pure, Except.pure, Except.mapError]

theorem getControl_switched {device : Device} {control mode : CameraControlType}
    {range : Control} {setting : Int32} (manual : control.isAutoControl = false)
    (known : query driver ioError device control = .ok range)
    (found : automatic driver ioError device control = some mode)
    (modeHeld : driver.gCtrl device (controlId mode) = .ok setting) :
    getControl driver ioError device control =
      match driver.gCtrl device (controlId control) with
      | .ok value => .ok (.integer value (automaticMode mode setting))
      | .error errno => .error (ioError errno) := by
  cases held : driver.gCtrl device (controlId control) with
  | ok value =>
      simp only [getControl, known, manual, held, found, readAuto, modeHeld, automaticMode, bind,
        Except.bind, Bool.false_eq_true, if_false, pure, Except.pure, Except.mapError]
  | error errno =>
      simp only [getControl, known, manual, held, bind, Except.bind, Bool.false_eq_true, if_false,
        Except.mapError, pure, Except.pure]

private theorem setControl_shows (lawful : driver.Lawful reaches) {device : Device}
    {control : CameraControlType} {value : CameraControlValue}
    (accepted : (setControl driver ioError device control value).2 = .ok ())
    (quiet : ∀ mode, autoControl control = some mode →
      ¬reaches (controlId control) (controlId mode)) {later : Device}
    (same : SameInfo driver device later)
    (held : ∀ shown ∈ touched control, driver.gCtrl later (controlId shown) =
      driver.gCtrl (setControl driver ioError device control value).1 (controlId shown)) :
    getControl driver ioError later control =
      shown ioError control value (driver.gCtrl later (controlId control)) := by
  obtain ⟨range, known, inside, taken⟩ := setControl_taken accepted
  have laterKnown := (same.query control).trans known
  have laterAutomatic := same.automatic ioError control
  generalize outcome : setControl driver ioError device control value = result at *
  cases taken with
  | mode auto zeroOne =>
      obtain ⟨setting, stored, modeIs⟩ := writeAuto_stored lawful auto known accepted
      have reading := getControl_mode auto laterKnown
        ((held control (self_touched control)).trans stored)
      rw [reading, modeIs, shown.eq_def, if_pos auto]
  | @automatic manual auto mode found =>
      obtain ⟨named, modeRange, modeKnown⟩ := automatic_some found
      obtain ⟨setting, stored, modeIs⟩ :=
        writeAuto_stored lawful (autoControl_isAutoControl named) modeKnown accepted
      have reading := getControl_switched manual laterKnown (laterAutomatic.trans found)
        ((held mode (auto_touched named)).trans stored)
      rw [reading, modeIs, shown.eq_def, manual, auto]
      rfl
  | @switched manual number mode found off =>
      obtain ⟨named, modeRange, modeKnown⟩ := automatic_some found
      obtain ⟨setting, stored, modeIs⟩ :=
        writeAuto_stored lawful (autoControl_isAutoControl named) modeKnown off
      have before := writeAuto_writes lawful control
        (autoControl_isAutoControl named) modeKnown false (auto_touched named)
      obtain ⟨info, answered, -, -, rangeAt⟩ := query_ok known
      have admits : info.Admits value.number := by
        have within := inside manual number
        rw [rangeAt] at within
        exact within
      have valueStored := lawful.stored _ (controlId control) value.number info
        (((before.sameInfo lawful).info _).trans answered) admits (ok_of_mapError accepted)
      have different : controlId mode ≠ controlId control := fun same =>
        absurd ((congrArg CameraControlType.isAutoControl (controlId_injective same)).symm.trans
          (autoControl_isAutoControl named)) (by rw [manual]; exact Bool.false_ne_true)
      have modeStored := (lawful.kept _ (controlId control) value.number (controlId mode) different
        (quiet mode named)).trans stored
      have reading := getControl_switched manual laterKnown (laterAutomatic.trans found)
        ((held mode (auto_touched named)).trans modeStored)
      have valueHeld := (held control (self_touched control)).trans valueStored
      rw [reading, modeIs, shown.eq_def, manual, number, valueHeld]
      rfl
  | plain manual number found =>
      obtain ⟨info, answered, -, -, rangeAt⟩ := query_ok known
      have admits : info.Admits value.number := by
        have within := inside manual number
        rw [rangeAt] at within
        exact within
      have valueStored := lawful.stored _ (controlId control) value.number info answered admits
        (ok_of_mapError accepted)
      have reading := getControl_plain manual laterKnown
        ((held control (self_touched control)).trans valueStored) (laterAutomatic.trans found)
      rw [reading, shown.eq_def, manual, number]
      rfl

/-! ### Runs -/

theorem Writes.mono {allowed more : Device → UInt32 → Int32 → Prop} {start later : Device}
    (writes : Writes driver allowed start later)
    (weaker : ∀ device id value, allowed device id value → more device id value) :
    Writes driver more start later := by
  induction writes with
  | refl => exact .refl
  | write _ id value allow ih => exact .write ih id value (weaker _ id value allow)

theorem Writes.trans {allowed : Device → UInt32 → Int32 → Prop} {start middle later : Device}
    (first : Writes driver allowed start middle) (second : Writes driver allowed middle later) :
    Writes driver allowed start later := by
  induction second with
  | refl => exact first
  | write _ id value allow ih => exact .write ih id value allow

variable (ioError) in
theorem runSets_writes (lawful : driver.Lawful reaches)
    (calls : List (CameraControlType × CameraControlValue)) :
    ∀ device, Writes driver
      (fun device id value => ∃ call ∈ calls, Issued driver call.1 device id value) device
      (runSets driver ioError device calls) := by
  induction calls with
  | nil => exact fun device => .refl
  | cons call calls ih =>
      intro device
      refine Writes.trans ((setControl_writes ioError lawful device call.1 call.2).mono ?_)
        ((ih _).mono ?_)
      · exact fun _ _ _ issued => ⟨call, List.mem_cons_self, issued⟩
      · rintro _ _ _ ⟨other, member, issued⟩
        exact ⟨other, List.mem_cons_of_mem _ member, issued⟩

/-- A control that took a value reads it back, also after any calls that set other controls,
whether or not those succeed. -/
theorem control_reads_back (lawful : driver.Lawful reaches) (device : Device)
    (control : CameraControlType) (value : CameraControlValue)
    (accepted : (setControl driver ioError device control value).2 = .ok ())
    (quiet : ∀ mode, autoControl control = some mode →
      ¬reaches (controlId control) (controlId mode))
    (calls : List (CameraControlType × CameraControlValue))
    (apart : ∀ call ∈ calls, ∀ written ∈ touched call.1, ∀ shown ∈ touched control,
      written ≠ shown ∧ ¬reaches (controlId written) (controlId shown)) :
    let later := runSets driver ioError (setControl driver ioError device control value).1 calls
    getControl driver ioError later control =
      shown ioError control value (driver.gCtrl later (controlId control)) := by
  intro later
  have own := setControl_writes ioError lawful device control value
  have others := runSets_writes ioError lawful calls
    (setControl driver ioError device control value).1
  have first := own.sameInfo lawful
  have rest := others.sameInfo lawful
  refine setControl_shows lawful accepted quiet
    ⟨fun id => (rest.info id).trans (first.info id),
      fun id index => (rest.menu id index).trans (first.menu id index)⟩ fun shown member => ?_
  refine others.kept lawful (controlId shown) ?_
  rintro _ id _ ⟨call, called, ⟨written, touches, rfl⟩, -⟩
  obtain ⟨different, unreached⟩ := apart call called written touches shown member
  exact ⟨fun same => different (controlId_injective same).symm, unreached⟩

/-- The exposure is set by hand, and stays while the brightness is set and a float is refused. -/
theorem control_reads_back_exposure :
    getControl (tableDriver webcamInfos [1, 3]) ioFailure
      (runSets (tableDriver webcamInfos [1, 3]) ioFailure
        (setControl (tableDriver webcamInfos [1, 3]) ioFailure (fun _ => 3) .exposure
          (.integer 500 false)).1
        [(.brightness, .integer 7 false), (.gain, .float 0)])
      .exposure = .ok (.integer 500 false) :=
  control_reads_back webcam_lawful (fun _ => 3) .exposure (.integer 500 false) rfl
    (fun _ _ impossible => impossible) [(.brightness, .integer 7 false), (.gain, .float 0)]
    (by decide)

/-! ### The calls that a run makes -/

/-- A call to the recorded driver comes out as one to the driver itself. -/
def Agrees {ε : Type} (recorded : (Device × List (Device × UInt32 × Int32)) × Except ε Unit)
    (direct : Device × Except ε Unit) : Prop :=
  recorded.1.1 = direct.1 ∧ recorded.2 = direct.2

variable (driver) in
theorem autoExposure_recorded (state : Device × List (Device × UInt32 × Int32)) (enabled : Bool) :
    Agrees (autoExposure driver.recorded state enabled) (autoExposure driver state.1 enabled) := by
  have menu : exposureMenu driver.recorded state = exposureMenu driver state.1 := rfl
  unfold autoExposure
  rw [menu]
  cases exposureMenu driver state.1 with
  | error errno => exact ⟨rfl, rfl⟩
  | ok found =>
      by_cases absent : (if enabled then found.automatic else found.manual) < 0
      · simp only [absent, if_true]
        exact ⟨rfl, rfl⟩
      · simp only [absent, if_false]
        exact ⟨rfl, rfl⟩

variable (driver ioError) in
theorem writeAuto_recorded (state : Device × List (Device × UInt32 × Int32))
    (control : CameraControlType) (enabled : Bool) :
    Agrees (writeAuto driver.recorded ioError state control enabled)
      (writeAuto driver ioError state.1 control enabled) := by
  by_cases exposure : control = .autoExposure
  · obtain ⟨device, result⟩ := autoExposure_recorded driver state enabled
    simp only [writeAuto, exposure, if_true]
    exact ⟨device, congrArg (Except.mapError _) result⟩
  · simp only [writeAuto, exposure, if_false]
    exact ⟨rfl, rfl⟩

theorem setNumber_recorded (state : Device × List (Device × UInt32 × Int32))
    (control : CameraControlType) (range : Control) (value : Int32) (auto : Bool) :
    Agrees (setNumber driver.recorded ioError state control range value auto)
      (setNumber driver ioError state.1 control range value auto) := by
  have modes : automatic driver.recorded ioError state control =
      automatic driver ioError state.1 control := rfl
  unfold setNumber
  rw [modes]
  split
  · split
    · exact ⟨rfl, rfl⟩
    · exact writeAuto_recorded driver ioError state control _
  · split
    · split
      · exact writeAuto_recorded driver ioError state _ true
      · exact ⟨rfl, rfl⟩
    · split
      · exact ⟨rfl, rfl⟩
      · split
        · next mode found =>
          obtain ⟨device, result⟩ :=
            writeAuto_recorded driver ioError state mode false
          dsimp only
          rw [result]
          cases (writeAuto driver ioError state.1 mode false).2 with
          | error error => exact ⟨device, rfl⟩
          | ok _ =>
              dsimp only
              rw [← device]
              exact ⟨rfl, rfl⟩
        · exact ⟨rfl, rfl⟩

variable (driver ioError) in
private theorem setControl_recorded (state : Device × List (Device × UInt32 × Int32))
    (control : CameraControlType) (value : CameraControlValue) :
    Agrees (setControl driver.recorded ioError state control value)
      (setControl driver ioError state.1 control value) := by
  have answer : query driver.recorded ioError state control =
      query driver ioError state.1 control := rfl
  unfold setControl
  rw [answer]
  split
  · exact ⟨rfl, rfl⟩
  · split
    · exact ⟨rfl, rfl⟩
    · cases value with
      | integer value isAuto => exact setNumber_recorded state control _ value isAuto
      | boolean value => exact setNumber_recorded state control _ _ false
      | float bits => exact ⟨rfl, rfl⟩

private theorem runSets_recorded (calls : List (CameraControlType × CameraControlValue)) :
    ∀ state, (runSets driver.recorded ioError state calls).1 =
      runSets driver ioError state.1 calls := by
  induction calls with
  | nil => exact fun state => rfl
  | cons call calls ih =>
      intro state
      have first := (setControl_recorded driver ioError state call.1 call.2).1
      exact (ih _).trans (congrArg (runSets driver ioError · calls) first)

theorem Writes.recorded (allowed : Device → UInt32 → Int32 → Prop)
    {start later : Device × List (Device × UInt32 × Int32)}
    (writes : Writes driver.recorded (fun state => allowed state.1) start later) :
    ∀ entry ∈ later.2, entry ∈ start.2 ∨ allowed entry.1 entry.2.1 entry.2.2 := by
  induction writes with
  | refl => exact fun entry member => .inl member
  | write _ id value allow ih =>
      intro entry member
      rcases List.mem_append.mp member with old | new
      · exact ih entry old
      · rw [List.mem_singleton.mp new]
        exact .inr allow

/-- Every call that a run makes names a control that one of its `set_control`s touches, and
carries a value within the bounds that the driver gave. -/
theorem runs_write_in_bounds (lawful : driver.Lawful reaches) (device : Device)
    (calls : List (CameraControlType × CameraControlValue)) :
    let run := runSets driver.recorded ioError (device, []) calls
    run.1 = runSets driver ioError device calls ∧
      ∀ entry ∈ run.2, ∃ call ∈ calls, Issued driver call.1 entry.1 entry.2.1 entry.2.2 := by
  refine ⟨runSets_recorded calls (device, []), fun entry member => ?_⟩
  have writes := runSets_writes ioError lawful.recorded calls (device, [])
  rcases writes.recorded (fun device id value =>
    ∃ call ∈ calls, Issued driver call.1 device id value) entry member with old | issued
  · cases old
  · exact issued

/-- Two calls are made for the exposure, and none for a brightness that is too large. -/
theorem runs_write_in_bounds_exposure :
    let calls := [(.exposure, CameraControlValue.integer 500 false),
      (.brightness, .integer 300 false)]
    let run := runSets (tableDriver webcamInfos [1, 3]).recorded ioFailure ((fun _ => 3), []) calls
    run.2.length = 2 ∧ ∀ entry ∈ run.2, ∃ call ∈ calls,
      Issued (tableDriver webcamInfos [1, 3]) call.1 entry.1 entry.2.1 entry.2.2 :=
  ⟨rfl, (runs_write_in_bounds webcam_lawful (fun _ => 3) _).2⟩

/-! ### What a range promises -/

def CameraControlRange.Admits (range : CameraControlRange) (value : Int32) : Prop :=
  outside range.min range.max range.step value = false

instance (range : CameraControlRange) (value : Int32) : Decidable (range.Admits value) :=
  inferInstanceAs (Decidable (_ = _))

theorem exposureRange_admits {found : ExposureMenu} {info : Queryctrl} (sound : found.Sound info)
    (some : 0 ≤ found.manual ∨ 0 ≤ found.automatic) (default : Int32) :
    let bits : UInt32 :=
      (if 0 ≤ found.manual then 1 else 0) ||| (if 0 ≤ found.automatic then 2 else 0)
    let min : Int32 := if bits &&& 1 = 0 then 1 else 0
    let max : Int32 := if bits &&& 2 ≠ 0 then 1 else 0
    min ≤ max ∧ (min = 0 ∨ min = 1) ∧ (max = 0 ∨ max = 1) ∧
      ((⟨min, max, 1, default, false⟩ : CameraControlRange).Admits 0 ↔ 0 ≤ found.manual) ∧
      ((⟨min, max, 1, default, false⟩ : CameraControlRange).Admits 1 ↔ 0 ≤ found.automatic) := by
  obtain ⟨manual, automatic⟩ := found
  have manualIs := sound.manual
  have automaticIs := sound.automatic
  simp only at manualIs automaticIs some ⊢
  unfold CameraControlRange.Admits
  dsimp only
  rcases manualIs with rfl | rfl <;> rcases automaticIs with rfl | rfl | rfl <;> revert some <;>
    decide

theorem admits_zeroOne {min max default value : Int32} (low : min = 0 ∨ min = 1)
    (high : max = 0 ∨ max = 1)
    (admits : (⟨min, max, 1, default, false⟩ : CameraControlRange).Admits value) :
    value = 0 ∨ value = 1 := by
  unfold CameraControlRange.Admits outside at admits
  rw [Bool.or_eq_false_iff, Bool.or_eq_false_iff, decide_eq_false_iff_not,
    decide_eq_false_iff_not] at admits
  have above := Int32.le_iff_toInt_le.mp (Int32.not_lt.mp admits.1.1)
  have below := Int32.le_iff_toInt_le.mp (Int32.not_lt.mp admits.1.2)
  have least : 0 ≤ min.toInt := by rcases low with rfl | rfl <;> decide
  have most : max.toInt ≤ 1 := by rcases high with rfl | rfl <;> decide
  dsimp only at above below
  have number : value.toInt = 0 ∨ value.toInt = 1 := by omega
  rcases number with zero | one
  · exact .inl (Int32.toInt_inj.mp zero)
  · exact .inr (Int32.toInt_inj.mp one)

private theorem autoExposure_writes_iff (device : Device) (enabled : Bool) :
    (autoExposure driver.recorded (device, []) enabled).1.2 ≠ [] ↔
      ∃ found, exposureMenu driver device = .ok found ∧
        0 ≤ (if enabled then found.automatic else found.manual) := by
  have menu : exposureMenu driver.recorded (device, []) = exposureMenu driver device := rfl
  unfold autoExposure
  rw [menu]
  cases probed : exposureMenu driver device with
  | error errno =>
      refine ⟨fun written => absurd rfl written, ?_⟩
      rintro ⟨found, impossible, -⟩
      cases impossible
  | ok found =>
      by_cases absent : (if enabled then found.automatic else found.manual) < 0
      · simp only [absent, if_true]
        refine ⟨fun written => absurd rfl written, ?_⟩
        rintro ⟨same, probedSame, present⟩
        cases probedSame
        exact absurd absent (Int32.not_lt.mpr present)
      · simp only [absent, if_false]
        exact ⟨fun _ => ⟨found, rfl, Int32.not_lt.mp absent⟩, fun _ => List.cons_ne_nil _ _⟩

theorem modeRange (lawful : driver.Lawful reaches) {device : Device}
    {control : CameraControlType} (auto : control.isAutoControl = true) {range : Control}
    (known : query driver ioError device control = .ok range) :
    ∃ answer, getControlRange driver ioError device control = some answer ∧
      (∀ modes, answer = .ok modes → ∀ value, modes.Admits value → value = 0 ∨ value = 1) ∧
      ∀ enabled, (writeAuto driver.recorded ioError (device, []) control enabled).1.2 ≠ [] ↔
        ∃ modes, answer = .ok modes ∧ modes.Admits (if enabled then 1 else 0) := by
  by_cases exposure : control = .autoExposure
  · subst exposure
    simp only [getControlRange, known, if_true, exposureModes, writeAuto, autoExposure_writes_iff]
    cases probed : exposureMenu driver device with
    | error errno =>
        refine ⟨_, rfl, ?_, fun enabled => ⟨?_, ?_⟩⟩
        · intro modes impossible
          cases impossible
        · rintro ⟨found, impossible, -⟩
          cases impossible
        · rintro ⟨modes, impossible, -⟩
          cases impossible
    | ok found =>
        obtain ⟨info, -, -, -, sound, some⟩ := exposureMenu_ok probed
        have clamped := exposureRange_admits sound some
        dsimp only at clamped ⊢
        rw [clamp, if_pos (clamped 0).1]
        refine ⟨_, rfl, ?_, fun enabled => ⟨?_, ?_⟩⟩
        · intro modes same value admits
          cases same
          exact admits_zeroOne (clamped 0).2.1 (clamped 0).2.2.1 admits
        · rintro ⟨same, probedSame, present⟩
          cases probedSame
          refine ⟨_, rfl, ?_⟩
          cases enabled with
          | false => exact (clamped _).2.2.2.1.mpr present
          | true => exact (clamped _).2.2.2.2.mpr present
        · rintro ⟨modes, same, admits⟩
          cases same
          refine ⟨found, rfl, ?_⟩
          cases enabled with
          | false => exact (clamped _).2.2.2.1.mp admits
          | true => exact (clamped _).2.2.2.2.mp admits
  · obtain ⟨info, answered, -, -, rangeAt⟩ := query_ok known
    have named : control = .autoFocus ∨ control = .autoWhiteBalance := by
      cases control <;> simp_all [CameraControlType.isAutoControl]
    obtain ⟨minimum, maximum, step⟩ := lawful.switch device control info named answered
    have ordered : info.minimum ≤ info.maximum := by
      rw [minimum, maximum]
      decide
    simp only [getControlRange, known, exposure, auto, if_true, if_false, rangeAt, clamp, ordered,
      Option.map_some, writeAuto]
    refine ⟨_, rfl, ?_, fun enabled => ?_⟩
    · intro modes same value admits
      cases same
      exact admits_zeroOne (.inl minimum) (.inr maximum) admits
    · refine ⟨fun _ => ⟨_, rfl, ?_⟩, fun _ => List.cons_ne_nil _ _⟩
      unfold CameraControlRange.Admits
      dsimp only
      rw [minimum, maximum]
      cases enabled <;> decide

/-- What `write_auto` passes on for a mode: a menu item for the exposure, else 0 or 1. -/
def Means (control : CameraControlType) (enabled : Bool) (setting : Int32) : Prop :=
  if control = .autoExposure then automaticMode control setting = enabled
  else setting = if enabled then 1 else 0

private theorem writeAuto_calls (lawful : driver.Lawful reaches) {device : Device}
    {control : CameraControlType} (auto : control.isAutoControl = true) {range : Control}
    (known : query driver ioError device control = .ok range) (enabled : Bool) :
    writeAuto driver.recorded ioError (device, []) control enabled =
        ((device, []), (writeAuto driver ioError device control enabled).2) ∧
      (writeAuto driver ioError device control enabled).2 ≠ .ok () ∨
    ∃ setting, (writeAuto driver.recorded ioError (device, []) control enabled).1.2 =
      [(device, controlId control, setting)] ∧ Means control enabled setting := by
  have same := (writeAuto_recorded driver ioError (device, []) control enabled).2
  have recordedKnown : query driver.recorded ioError (device, []) control = .ok range := known
  rcases writeAuto_cases lawful.recorded auto recordedKnown enabled with ⟨error, refused⟩ |
    ⟨setting, info, -, -, -, mode, next, -⟩
  · refine .inl ⟨?_, ?_⟩
    · rw [← same, refused]
    · rw [← same, refused]
      exact fun impossible => by cases impossible
  · refine .inr ⟨setting, by rw [next]; rfl, ?_⟩
    unfold Means
    split
    · exact mode
    · next other =>
        rw [writeAuto, if_neg other] at next
        have calls := congrArg Prod.snd next
        exact ((Prod.mk.inj (Prod.mk.inj (List.cons.inj calls).1).2).2).symm

private theorem outside_step (min max step value : Int32) :
    outside min max (Max.max step 1) value = outside min max step value := by
  have idempotent : Max.max (Max.max step 1) 1 = Max.max step 1 := by
    by_cases low : step ≤ 1
    · rw [show Max.max step 1 = 1 from if_pos low]
      rfl
    · rw [show Max.max step 1 = step from if_neg low]
      exact if_neg low
  unfold outside
  rw [idempotent]

theorem getControlRange_plain {device : Device} {control : CameraControlType} {range : Control}
    (manual : ¬control.isAutoControl = true)
    (known : query driver ioError device control = .ok range) :
    getControlRange driver ioError device control =
      some (.ok ⟨range.min, range.max, Max.max range.step 1, range.default,
        (automatic driver ioError device control).isSome⟩) := by
  have exposure : control ≠ .autoExposure := fun same => manual (by rw [same]; rfl)
  rw [getControlRange, known]
  simp only [exposure, manual, if_false]
  rfl

/-- The call that carries a value set by hand, or for an automatic control the mode. -/
def Carries (control : CameraControlType) (value setting : Int32) : Prop :=
  if control.isAutoControl then Means control (decide (value ≠ 0)) setting else setting = value

/-- The call for the value itself is among the calls. -/
def Passes (control : CameraControlType) (value : Int32)
    (calls : List (Device × UInt32 × Int32)) : Prop :=
  ∃ before setting, (before, controlId control, setting) ∈ calls ∧ Carries control value setting

private theorem not_passes_nil {control : CameraControlType} {value : Int32} :
    ¬Passes control value ([] : List (Device × UInt32 × Int32)) := by
  rintro ⟨_, _, impossible, -⟩
  cases impossible

/-- The automatic mode of a control can be left: its range tells so, and the driver takes it. -/
structure Leaves (driver : Driver Device) (ioError : Errno → CameraError) (device : Device)
    (mode : CameraControlType) : Prop where
  range : ∃ modes, getControlRange driver ioError device mode = some (.ok modes) ∧ modes.Admits 0
  taken : (writeAuto driver ioError device mode false).2 = .ok ()

private theorem passes_auto_iff (lawful : driver.Lawful reaches) {device : Device}
    {control : CameraControlType} (auto : control.isAutoControl = true) {found : Control}
    (known : query driver ioError device control = .ok found) {range : CameraControlRange}
    (ranged : getControlRange driver ioError device control = some (.ok range)) (value : Int32) :
    Passes control value
        (setNumber driver.recorded ioError (device, []) control found value false).1.2 ↔
      range.Admits value := by
  obtain ⟨answer, same, binary, writes⟩ := modeRange lawful auto known
  obtain rfl := Option.some.inj (same.symm.trans ranged)
  simp only [setNumber, auto, if_true]
  by_cases zeroOne : value ≠ 0 ∧ value ≠ 1
  · rw [if_pos zeroOne]
    refine iff_of_false not_passes_nil fun admits => ?_
    rcases binary range rfl value admits with zero | one
    · exact zeroOne.1 zero
    · exact zeroOne.2 one
  · rw [if_neg zeroOne]
    have number : (if decide (value ≠ 0) = true then 1 else 0) = value := by
      by_cases zero : value = 0
      · rw [zero]
        rfl
      · rw [if_pos (decide_eq_true zero)]
        exact (not_not.mp fun one => zeroOne ⟨zero, one⟩).symm
    have written := writes (decide (value ≠ 0))
    rw [number] at written
    have admits_iff : (∃ modes, Except.ok range = (.ok modes : CameraResult CameraControlRange) ∧
        modes.Admits value) ↔ range.Admits value := by
      constructor
      · rintro ⟨modes, is, admits⟩
        rw [Except.ok.inj is]
        exact admits
      · exact fun admits => ⟨range, rfl, admits⟩
    rw [← admits_iff, ← written]
    rcases writeAuto_calls lawful auto known (decide (value ≠ 0)) with ⟨refused, -⟩ |
      ⟨setting, calls, means⟩
    · rw [refused]
      exact iff_of_false not_passes_nil (not_not.mpr rfl)
    · rw [calls]
      refine iff_of_true ⟨device, setting, List.mem_singleton_self _, ?_⟩ (List.cons_ne_nil _ _)
      rw [Carries, if_pos auto]
      exact means

private theorem leaves_iff_taken (lawful : driver.Lawful reaches) {device : Device}
    {mode : CameraControlType} (auto : mode.isAutoControl = true) {range : Control}
    (known : query driver ioError device mode = .ok range) :
    Leaves driver ioError device mode ↔
      (writeAuto driver ioError device mode false).2 = .ok () := by
  refine ⟨Leaves.taken, fun taken => ⟨?_, taken⟩⟩
  obtain ⟨answer, ranged, -, writes⟩ := modeRange lawful auto known
  have called : (writeAuto driver.recorded ioError (device, []) mode false).1.2 ≠ [] := by
    rcases writeAuto_calls lawful auto known false with ⟨-, refused⟩ | ⟨_, calls, -⟩
    · exact absurd taken refused
    · rw [calls]
      exact List.cons_ne_nil _ _
  obtain ⟨modes, is, admits⟩ := (writes false).mp called
  exact ⟨modes, by rw [ranged, is], admits⟩

private theorem writeAuto_elsewhere (lawful : driver.Lawful reaches) {device : Device}
    {mode control : CameraControlType} (auto : mode.isAutoControl = true) {range : Control}
    (known : query driver ioError device mode = .ok range)
    (other : controlId mode ≠ controlId control) {value : Int32} :
    ¬Passes control value (writeAuto driver.recorded ioError (device, []) mode false).1.2 := by
  rintro ⟨before, setting, there, -⟩
  rcases writeAuto_calls lawful auto known false with ⟨refused, -⟩ | ⟨_, calls, -⟩
  · rw [refused] at there
    cases there
  · rw [calls] at there
    exact other (Prod.mk.inj (Prod.mk.inj (List.mem_singleton.mp there)).2).1.symm

private theorem passes_plain_iff (lawful : driver.Lawful reaches) {device : Device}
    {control : CameraControlType} (manual : ¬control.isAutoControl = true) {found : Control}
    (value : Int32) :
    Passes control value
        (setNumber driver.recorded ioError (device, []) control found value false).1.2 ↔
      outside found.min found.max found.step value = false ∧
        ∀ mode, automatic driver ioError device control = some mode →
          Leaves driver ioError device mode := by
  have modes : automatic driver.recorded ioError (device, []) control =
      automatic driver ioError device control := rfl
  have carried : Carries control value value := by
    rw [Carries, if_neg manual]
  simp only [setNumber, manual, Bool.false_eq_true, if_false, modes]
  by_cases within : outside found.min found.max found.step value = true
  · rw [if_pos within]
    exact iff_of_false not_passes_nil fun both =>
      Bool.false_ne_true (both.1.symm.trans within)
  · rw [if_neg within, and_iff_right (Bool.not_eq_true _ ▸ within)]
    cases automaticMode : automatic driver ioError device control with
    | none =>
        refine iff_of_true ⟨device, value, List.mem_singleton_self _, carried⟩ ?_
        intro mode impossible
        cases impossible
    | some mode =>
        obtain ⟨named, modeFound, modeKnown⟩ := automatic_some automaticMode
        have auto := autoControl_isAutoControl named
        have other : controlId mode ≠ controlId control := by
          intro same
          exact manual (controlId_injective same ▸ auto)
        have result := (writeAuto_recorded driver ioError (device, []) mode false).2
        have leaves := leaves_iff_taken lawful auto modeKnown
        dsimp only
        cases taken : (writeAuto driver ioError device mode false).2 with
        | error error =>
            rw [result, taken]
            refine iff_of_false (writeAuto_elsewhere lawful auto modeKnown other) fun all => ?_
            have accepted := leaves.mp (all mode rfl)
            rw [taken] at accepted
            cases accepted
        | ok _ =>
            rw [result, taken]
            refine iff_of_true ⟨_, value, List.mem_append_right _ (List.mem_singleton_self _),
              carried⟩ ?_
            intro mode same
            cases same
            exact leaves.mpr taken

variable (ioError) in
/-- `get_control_range` never panics, and its range tells which values set by hand are passed on
to the driver: those within it, as long as the automatic mode, if there is one, can be left. -/
theorem range_tells_writes (lawful : driver.Lawful reaches) (device : Device)
    (control : CameraControlType) :
    ∃ answer, getControlRange driver ioError device control = some answer ∧
      ∀ range, answer = .ok range →
        controlWritable driver ioError device control = .ok true →
        ∀ value, Passes control value (setControl driver.recorded ioError (device, []) control
            (.integer value false)).1.2 ↔
          range.Admits value ∧ ∀ mode, automatic driver ioError device control = some mode →
            Leaves driver ioError device mode := by
  cases known : query driver ioError device control with
  | error error =>
      refine ⟨.error error, by rw [getControlRange, known], fun range impossible => ?_⟩
      cases impossible
  | ok found =>
      have set (writable : controlWritable driver ioError device control = .ok true)
          (value : Int32) :
          setControl driver.recorded ioError (device, []) control (.integer value false) =
            setNumber driver.recorded ioError (device, []) control found value false := by
        have recordedKnown : query driver.recorded ioError (device, []) control = .ok found :=
          known
        rw [controlWritable, known] at writable
        have editable : found.readOnly = false := Bool.not_eq_true' _ ▸ Except.ok.inj writable
        simp only [setControl, recordedKnown, editable, Bool.false_eq_true, if_false]
      by_cases auto : control.isAutoControl = true
      · obtain ⟨answer, ranged, -⟩ := modeRange lawful auto known
        refine ⟨answer, ranged, ?_⟩
        rintro range rfl writable value
        have none : automatic driver ioError device control = none := by
          cases control <;> first | rfl | cases auto
        rw [set writable, passes_auto_iff lawful auto known ranged value, none,
          and_iff_left (by rintro mode impossible; cases impossible)]
      · refine ⟨_, getControlRange_plain auto known, ?_⟩
        rintro range is writable value
        cases is
        rw [set writable, passes_plain_iff lawful auto value, CameraControlRange.Admits,
          outside_step]

/-- The exposure is written in steps of one between 1 and 1000 after the mode is left. -/
theorem range_tells_writes_exposure :
    Passes .exposure 500 (setControl (tableDriver webcamInfos [1, 3]).recorded ioFailure
        ((fun _ => 3), []) .exposure (.integer 500 false)).1.2 ∧
      ¬Passes .exposure 1001 (setControl (tableDriver webcamInfos [1, 3]).recorded ioFailure
        ((fun _ => 3), []) .exposure (.integer 1001 false)).1.2 := by
  obtain ⟨answer, ranged, tells⟩ :=
    range_tells_writes ioFailure webcam_lawful (fun _ => 3) .exposure
  have is : answer = .ok ⟨1, 1000, 1, 156, true⟩ := Option.some.inj (ranged.symm.trans rfl)
  refine ⟨(tells _ is rfl 500).mpr ⟨by decide, ?_⟩, fun passes => ?_⟩
  · intro mode same
    obtain rfl : .autoExposure = mode := Option.some.inj same
    exact ⟨⟨⟨0, 1, 1, 1, false⟩, rfl, by decide⟩, rfl⟩
  · exact absurd ((tells _ is rfl 1001).mp passes).1 (by decide)

end Runs

end CameraRs.V4l2.Controls

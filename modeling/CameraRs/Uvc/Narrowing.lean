/-
Control values on their way into C types.

The session checks a number against the range that the device reports. Such a range lies within
the C type of the control, so a number that passes is not changed by the cast. Where the device
reports no range, only the cast is left, and it wraps.
-/

import CameraRs.Uvc.Controls
import Mathlib.Data.Rat.Lemmas

namespace CameraRs.Uvc.Controls

namespace CType

def lowest : CType → Int
  | .i16 => -2 ^ 15
  | .u16 | .u32 => 0

def highest : CType → Int
  | .i16 => 2 ^ 15 - 1
  | .u16 => 2 ^ 16 - 1
  | .u32 => 2 ^ 32 - 1

def Fits (type : CType) (value : Int) : Prop := type.lowest ≤ value ∧ value ≤ type.highest

end CType

/-- A range is reported: all four requests are answered in numbers of `i32`, the bounds are in
order and the step is positive. -/
def Reported (handle : DeviceHandle) (type : CType) (control : CameraControlType) : Prop :=
  ∃ min max step default,
    handle.query type control .getMin 0 = .ok min ∧ handle.query type control .getMax 0 = .ok max ∧
    handle.query type control .getRes 0 = .ok step ∧
    handle.query type control .getDef 0 = .ok default ∧
    (∀ value ∈ [min, max, step, default], value.toInt < 2 ^ 31) ∧
    min.toInt ≤ max.toInt ∧ 0 < step.toInt

/-- The number reaches the cast unchecked: the session has an open camera with this control,
which answers for it and reports no range. -/
structure Unchecked (session : CaptureSession) (id : ControlId) (type : CType) : Prop where
  running : session.stopping = false
  reached : ∃ camera handle raw unit numeric answer,
    session.source = .native (some camera) ∧ camera.handle = some handle ∧
    mapping .uvc id = .ok (raw, unit) ∧ raw.numeric = some numeric ∧ numeric.type = type ∧
    handle.query type raw .getCur 0 = .ok answer ∧ ¬Reported handle type raw

/-- A write of a whole number reaches the device unchanged or not at all. -/
structure Delivered (session : CaptureSession) (id : ControlId) (v : Int32) : Prop where
  unchanged : ∀ setting ∈ (session.setControl id (.number (some v.toInt))).settings,
    setting.value.toInt = v.toInt
  recorded : (session.setControl id (.number (some v.toInt))).result = .ok () →
    (∃ setting, (session.setControl id (.number (some v.toInt))).settings = [setting]) ∧
    (session.setControl id (.number (some v.toInt))).session =
      session.recordControl id (.number (some v.toInt))
  refused : (session.setControl id (.number (some v.toInt))).settings = [] →
    (∃ e, (session.setControl id (.number (some v.toInt))).result = .error e) ∧
    (session.setControl id (.number (some v.toInt))).session = session

/-! ### Casts -/

variable {type : CType} {control : CameraControlType} {handle : DeviceHandle} {v : Int32}

private theorem toInt_eq (v : Int32) : v.toInt =
    if v.toUInt32.toNat < 2 ^ 31 then (v.toUInt32.toNat : Int)
    else (v.toUInt32.toNat : Int) - 2 ^ 32 := by
  have value := BitVec.toInt_eq_toNat_cond v.toBitVec
  change v.toInt = if 2 * v.toUInt32.toNat < 2 ^ 32 then (v.toUInt32.toNat : Int)
    else (v.toUInt32.toNat : Int) - ((2 ^ 32 : Nat) : Int) at value
  rw [value]
  split <;> split <;> omega

theorem toInt_cast_iff (type : CType) (v : Int32) :
    (type.cast v).toInt = v.toInt ↔ type.Fits v.toInt := by
  have value := toInt_eq v
  have bound := v.toUInt32.toNat_lt
  cases type with
  | i16 =>
      change v.toInt16.toInt = v.toInt ↔ -2 ^ 15 ≤ v.toInt ∧ v.toInt ≤ 2 ^ 15 - 1
      have low := v.toInt16.le_toInt
      have high := v.toInt16.toInt_lt
      rw [Int32.toInt_toInt16] at low high ⊢
      constructor
      · intro same
        omega
      · rintro ⟨above, below⟩
        exact Int.bmod_eq_of_le (by omega) (by omega)
  | u16 =>
      change ((v.toUInt32.toUInt16.toNat : Int)) = v.toInt ↔ 0 ≤ v.toInt ∧ v.toInt ≤ 2 ^ 16 - 1
      rw [UInt32.toNat_toUInt16]
      split at value <;> omega
  | u32 =>
      change ((v.toUInt32.toNat : Int)) = v.toInt ↔ 0 ≤ v.toInt ∧ v.toInt ≤ 2 ^ 32 - 1
      split at value <;> omega

theorem map_ok {α β : Type} {f : α → β} {answer : Except Int32 α} {value : β}
    (mapped : answer.map f = .ok value) : ∃ raw, answer = .ok raw ∧ f raw = value := by
  cases answer with
  | error code => contradiction
  | ok raw => exact ⟨raw, rfl, Except.ok.inj mapped⟩

theorem fits_query {request : UvcReqCode} {nth : Nat} {value : CValue}
    (answered : handle.query type control request nth = .ok value) : type.Fits value.toInt := by
  cases type with
  | i16 =>
      obtain ⟨raw, -, rfl⟩ := map_ok answered
      exact ⟨raw.le_toInt, Int.le_sub_one_of_lt raw.toInt_lt⟩
  | u16 =>
      obtain ⟨raw, -, rfl⟩ := map_ok answered
      have bound := raw.toNat_lt
      change 0 ≤ (raw.toNat : Int) ∧ (raw.toNat : Int) ≤ 2 ^ 16 - 1
      omega
  | u32 =>
      obtain ⟨raw, -, rfl⟩ := map_ok answered
      have bound := raw.toNat_lt
      change 0 ≤ (raw.toNat : Int) ∧ (raw.toNat : Int) ≤ 2 ^ 32 - 1
      omega

/-! ### Ranges -/

variable {camera : UvcCamera} {numeric : NumericControl} {range : CameraControlRange}
  {request : UvcReqCode} {value : Int}

theorem bound_ok_iff : UvcCamera.bound handle type control request = .ok value ↔
    ∃ raw, handle.query type control request 0 = .ok raw ∧ raw.toInt < 2 ^ 31 ∧
      raw.toInt = value := by
  unfold UvcCamera.bound
  cases answer : handle.query type control request 0 with
  | error code => simp [checked, bind, Except.bind]
  | ok raw =>
      change tryI32 raw = .ok value ↔ _
      simp only [Except.ok.injEq, exists_eq_left']
      unfold tryI32
      split
      · next small =>
          rw [Except.ok.injEq]
          exact ⟨fun same => ⟨by omega, same⟩, fun both => both.2⟩
      · next large => exact iff_of_false (by simp) fun both => by omega

theorem getControlRange_ok_iff (opened : camera.handle = some handle)
    (numbered : control.numeric = some numeric) :
    camera.getControlRange control = .ok range ↔
      UvcCamera.bound handle numeric.type control .getMin = .ok range.min ∧
      UvcCamera.bound handle numeric.type control .getMax = .ok range.max ∧
      UvcCamera.bound handle numeric.type control .getRes = .ok range.step ∧
      UvcCamera.bound handle numeric.type control .getDef = .ok range.default ∧
      range.min ≤ range.max ∧ 0 < range.step := by
  obtain ⟨low, high, size, usual⟩ := range
  unfold UvcCamera.getControlRange UvcCamera.opened
  simp only [opened, numbered, bind, Except.bind]
  cases UvcCamera.bound handle numeric.type control .getMin with
  | error e => simp
  | ok min =>
      cases UvcCamera.bound handle numeric.type control .getMax with
      | error e => simp
      | ok max =>
          cases UvcCamera.bound handle numeric.type control .getRes with
          | error e => simp
          | ok step =>
              cases UvcCamera.bound handle numeric.type control .getDef with
              | error e => simp
              | ok default =>
                  dsimp only
                  split
                  · next invalid =>
                      refine iff_of_false (by simp) ?_
                      simp only [Except.ok.injEq]
                      rintro ⟨rfl, rfl, rfl, rfl, ordered, positive⟩
                      omega
                  · next valid =>
                      simp only [pure, Except.pure, Except.ok.injEq, CameraControlRange.mk.injEq]
                      constructor
                      · rintro ⟨rfl, rfl, rfl, rfl⟩
                        omega
                      · rintro ⟨low, high, size, usual, -⟩
                        exact ⟨low, high, size, usual⟩

theorem reported_iff (opened : camera.handle = some handle)
    (numbered : control.numeric = some numeric) :
    (∃ range, camera.getControlRange control = .ok range) ↔
      Reported handle numeric.type control := by
  simp only [getControlRange_ok_iff opened numbered, bound_ok_iff]
  constructor
  · rintro ⟨range, ⟨min, least, lowest⟩, ⟨max, most, highest⟩, ⟨step, size, fine⟩,
      ⟨default, usual, plain⟩, ordered, positive⟩
    refine ⟨min, max, step, default, least, most, size, usual, ?_, by omega, by omega⟩
    simp only [List.forall_mem_cons, List.not_mem_nil, false_implies, implies_true, and_true]
    exact ⟨lowest.1, highest.1, fine.1, plain.1⟩
  · rintro ⟨min, max, step, default, least, most, size, usual, small, ordered, positive⟩
    simp only [List.forall_mem_cons, List.not_mem_nil, false_implies, implies_true, and_true]
      at small
    obtain ⟨lowest, highest, fine, plain⟩ := small
    exact ⟨⟨min.toInt, max.toInt, step.toInt, default.toInt⟩, ⟨min, least, lowest, rfl⟩,
      ⟨max, most, highest, rfl⟩, ⟨step, size, fine, rfl⟩, ⟨default, usual, plain, rfl⟩, ordered,
      positive⟩

private theorem fits_of_range (opened : camera.handle = some handle)
    (numbered : control.numeric = some numeric)
    (reported : camera.getControlRange control = .ok range) (above : range.min ≤ value)
    (below : value ≤ range.max) : numeric.type.Fits value := by
  obtain ⟨least, most, -⟩ := (getControlRange_ok_iff opened numbered).mp reported
  obtain ⟨min, answered, -, lowest⟩ := bound_ok_iff.mp least
  obtain ⟨max, answered', -, highest⟩ := bound_ok_iff.mp most
  have low := (fits_query answered).1
  have high := (fits_query answered').2
  exact ⟨by omega, by omega⟩

/-! ### One call -/

variable {id : ControlId} {raw : CameraControlType} {unit : ControlUnit}

/-- The number passes the checks of the session and is cast. -/
structure Passes (camera : UvcCamera) (id : ControlId) (v : Int32) (handle : DeviceHandle)
    (raw : CameraControlType) (numeric : NumericControl) : Prop where
  opened : camera.handle = some handle
  mapped : ∃ unit, mapping .uvc id = .ok (raw, unit)
  numbered : raw.numeric = some numeric
  answers : ∃ answer, handle.query numeric.type raw .getCur 0 = .ok answer
  within : ∀ range, camera.getControlRange raw = .ok range →
    range.min ≤ v.toInt ∧ v.toInt ≤ range.max ∧ (v.toInt - range.min) % range.step = 0

private theorem unit_of_numeric (mapped : mapping .uvc id = .ok (raw, unit))
    (numbered : raw.numeric = some numeric) : unit ≠ .mode := by
  rintro rfl
  cases id <;> simp [mapping] at mapped <;> subst mapped <;> contradiction

theorem numeric_of_unit (mapped : mapping .uvc id = .ok (raw, unit)) (plain : unit ≠ .mode) :
    (∃ numeric, raw.numeric = some numeric) ∨ raw = .pan ∨ raw = .tilt ∨ raw = .iris := by
  cases id <;> simp [mapping] at mapped <;> obtain ⟨rfl, rfl⟩ := mapped <;>
    simp [CameraControlType.numeric] at plain ⊢

theorem getControl_numeric (opened : camera.handle = some handle)
    (numbered : raw.numeric = some numeric) (nth : Nat) :
    (camera.getControl raw nth).isOk = true ↔
      ∃ answer, handle.query numeric.type raw .getCur nth = .ok answer := by
  unfold UvcCamera.getControl UvcCamera.opened
  simp only [opened, numbered, bind, Except.bind]
  cases handle.query numeric.type raw .getCur nth with
  | error code => simp [checked, Except.isOk, Except.toBool]
  | ok answer => simp [checked, Except.isOk, Except.toBool, pure, Except.pure]

theorem numeric_of_supports (mapped : mapping .uvc id = .ok (raw, unit)) (plain : unit ≠ .mode)
    (supported : camera.supportsControl raw = true) :
    ∃ handle numeric, camera.handle = some handle ∧ raw.numeric = some numeric ∧
      ∃ answer, handle.query numeric.type raw .getCur 0 = .ok answer := by
  unfold UvcCamera.supportsControl at supported
  cases opened : camera.handle with
  | none =>
      simp [UvcCamera.getControl, UvcCamera.opened, opened, bind, Except.bind, Except.isOk,
        Except.toBool] at supported
  | some handle =>
      rcases numeric_of_unit mapped plain with ⟨numeric, numbered⟩ | bare
      · exact ⟨handle, numeric, rfl, numbered, (getControl_numeric opened numbered 0).mp supported⟩
      · exfalso
        rcases bare with rfl | rfl | rfl <;>
          simp [UvcCamera.getControl, UvcCamera.opened, CameraControlType.numeric, opened, bind,
            Except.bind, Except.isOk, Except.toBool, throw, throwThe, MonadExceptOf.throw]
            at supported

theorem descriptor_ok {desc : ControlDescriptor} (described : camera.descriptor id = .ok desc)
    (mapped : mapping .uvc id = .ok (raw, unit)) :
    camera.supportsControl raw = true ∧ desc.writable = none ∧
      desc.range = (camera.getControlRange raw).toOption.map (describeRange id raw) := by
  unfold UvcCamera.descriptor at described
  simp only [mapped, bind, Except.bind] at described
  split at described
  · contradiction
  · next supported =>
      have known : camera.supportsControl raw = true := by simpa using supported
      split at described
      · cases modes : camera.exposureModes with
        | error e =>
            rw [modes] at described
            contradiction
        | ok modes' =>
            rw [modes] at described
            obtain rfl := Except.ok.inj described
            exact ⟨known, rfl, rfl⟩
      · obtain rfl := Except.ok.inj described
        exact ⟨known, rfl, rfl⟩

theorem descriptor_exists (mapped : mapping .uvc id = .ok (raw, unit)) (plain : unit ≠ .mode)
    (supported : camera.supportsControl raw = true) :
    ∃ desc, camera.descriptor id = .ok desc := by
  have other : id ≠ .exposureMode := by
    rintro rfl
    exact plain (congrArg Prod.snd (Except.ok.inj mapped)).symm
  unfold UvcCamera.descriptor
  simp only [mapped, supported, if_neg other, bind, Except.bind]
  exact ⟨_, rfl⟩

theorem admits_iff (positive : 0 < range.step) :
    (describeRange id raw range).admits value = true ↔
      range.min ≤ value ∧ value ≤ range.max ∧ (value - range.min) % range.step = 0 := by
  simp [ControlRange.admits, describeRange, positive, and_assoc]

private theorem step_positive (opened : camera.handle = some handle)
    (numbered : raw.numeric = some numeric) (reported : camera.getControlRange raw = .ok range) :
    0 < range.step :=
  ((getControlRange_ok_iff opened numbered).mp reported).2.2.2.2.2

theorem range_check_iff (opened : camera.handle = some handle)
    (numbered : raw.numeric = some numeric) :
    (((camera.getControlRange raw).toOption.map (describeRange id raw)).all (·.admits value)) =
        true ↔
      ∀ range, camera.getControlRange raw = .ok range →
        range.min ≤ value ∧ value ≤ range.max ∧ (value - range.min) % range.step = 0 := by
  cases reported : camera.getControlRange raw with
  | error e => simp [Except.toOption]
  | ok range =>
      have positive := step_positive opened numbered reported
      simp only [Except.toOption, Option.map_some, Option.all_some, admits_iff positive,
        Except.ok.injEq, forall_eq']

theorem rawValue_number {desc : ControlDescriptor} (mapped : mapping .uvc id = .ok (raw, unit))
    (plain : unit ≠ .mode) (described : camera.descriptor id = .ok desc)
    (writable : desc.writable = none) (v : Int32) :
    camera.rawValue id (.number (some v.toInt)) =
      if desc.range.all (·.admits v.toInt) then .ok (raw, .manual v)
      else .error (.invalidConfig "Control value outside native range/step") := by
  have low := v.le_toInt
  have high := v.toInt_lt
  have whole : ¬(((v.toInt : ℚ)).den ≠ 1 ∨ ((v.toInt : ℚ)).num < -2147483648 ∨
      2147483647 < ((v.toInt : ℚ)).num) := by
    rw [Rat.num_intCast, Rat.den_intCast]
    omega
  unfold UvcCamera.rawValue
  simp only [mapped, described, writable, bind, Except.bind, if_neg plain, reduceCtorEq, if_false]
  rw [if_neg whole, Rat.num_intCast, Int32.ofInt_toInt]
  rfl

private theorem described_of_rawValue {number : ℚ} {value : RawValue}
    (given : camera.rawValue id (.number (some number)) = .ok (raw, value)) :
    ∃ unit desc, mapping .uvc id = .ok (raw, unit) ∧ unit ≠ .mode ∧
      camera.descriptor id = .ok desc := by
  unfold UvcCamera.rawValue at given
  cases mapped : mapping .uvc id with
  | error e =>
      rw [mapped] at given
      contradiction
  | ok target =>
      obtain ⟨raw', unit⟩ := target
      cases described : camera.descriptor id with
      | error e =>
          simp only [mapped, described, bind, Except.bind] at given
          contradiction
      | ok desc =>
          simp only [mapped, described, bind, Except.bind] at given
          split at given
          · contradiction
          · split at given
            · contradiction
            · next plain =>
                split at given
                · contradiction
                · split at given
                  · obtain ⟨rfl, -⟩ := Prod.mk.inj (Except.ok.inj given)
                    exact ⟨unit, desc, rfl, plain, rfl⟩
                  · contradiction

theorem rawValue_ok_iff {value : RawValue} :
    camera.rawValue id (.number (some v.toInt)) = .ok (raw, value) ↔
      value = .manual v ∧ ∃ handle numeric, Passes camera id v handle raw numeric := by
  constructor
  · intro given
    obtain ⟨unit, desc, mapped, plain, described⟩ := described_of_rawValue given
    obtain ⟨supported, writable, range⟩ := descriptor_ok described mapped
    obtain ⟨handle, numeric, opened, numbered, answers⟩ :=
      numeric_of_supports mapped plain supported
    rw [rawValue_number mapped plain described writable] at given
    split at given
    · next inside =>
        obtain ⟨-, rfl⟩ := Prod.mk.inj (Except.ok.inj given)
        rw [range] at inside
        exact ⟨rfl, handle, numeric, opened, ⟨unit, mapped⟩, numbered, answers,
          (range_check_iff opened numbered).mp inside⟩
    · contradiction
  · rintro ⟨rfl, handle, numeric, passes⟩
    obtain ⟨unit, mapped⟩ := passes.mapped
    have plain := unit_of_numeric mapped passes.numbered
    have supported : camera.supportsControl raw = true :=
      (getControl_numeric passes.opened passes.numbered 0).mpr passes.answers
    obtain ⟨desc, described⟩ := descriptor_exists mapped plain supported
    obtain ⟨-, writable, range⟩ := descriptor_ok described mapped
    have inside : desc.range.all (·.admits v.toInt) = true := by
      rw [range]
      exact (range_check_iff passes.opened passes.numbered).mpr passes.within
    rw [rawValue_number mapped plain described writable, if_pos inside]

private theorem setControl_numeric (opened : camera.handle = some handle)
    (numbered : raw.numeric = some numeric) (v : Int32) :
    camera.setControl raw (.manual v) = ([⟨raw, numeric.type.cast v⟩],
      if handle.set raw (numeric.type.cast v) = 0 then .ok ()
      else .error (uvcError (handle.set raw (numeric.type.cast v))
        ("Failed to set control parameter: " ++ raw.name))) := by
  unfold UvcCamera.setControl UvcCamera.opened
  simp only [opened, numbered, RawValue.manual, RawValue.asI32]

private theorem apply_cases (camera : UvcCamera) (id : ControlId) (v : Int32) :
    (∃ handle raw numeric, Passes camera id v handle raw numeric ∧
      (camera.apply id (.number (some v.toInt))).1 = [⟨raw, numeric.type.cast v⟩]) ∨
    (¬∃ handle raw numeric, Passes camera id v handle raw numeric) ∧
      ∃ e, camera.apply id (.number (some v.toInt)) = ([], .error e) := by
  unfold UvcCamera.apply
  cases given : camera.rawValue id (.number (some v.toInt)) with
  | error e =>
      refine .inr ⟨?_, e, rfl⟩
      rintro ⟨handle, raw, numeric, passes⟩
      rw [rawValue_ok_iff.mpr ⟨rfl, handle, numeric, passes⟩] at given
      contradiction
  | ok target =>
      obtain ⟨raw, value⟩ := target
      obtain ⟨rfl, handle, numeric, passes⟩ := rawValue_ok_iff.mp given
      refine .inl ⟨handle, raw, numeric, passes, ?_⟩
      dsimp only
      rw [setControl_numeric passes.opened passes.numbered]

/-! ### One session -/

variable {session : CaptureSession}

private theorem withNative_cases (session : CaptureSession)
    (operation : UvcCamera → List Setting × CameraResult Unit) :
    (∃ camera, session.stopping = false ∧ session.source = .native (some camera) ∧
      session.withNative operation = operation camera) ∨
    (session.stopping = true ∨ ∀ camera, session.source ≠ .native (some camera)) ∧
      ∃ e, session.withNative operation = ([], .error e) := by
  unfold CaptureSession.withNative
  cases stopping : session.stopping with
  | true => exact .inr ⟨.inl rfl, _, rfl⟩
  | false =>
      cases source : session.source with
      | synthetic => exact .inr ⟨.inr (by simp), _, rfl⟩
      | native current =>
          cases current with
          | none => exact .inr ⟨.inr (by simp), _, rfl⟩
          | some camera => exact .inl ⟨camera, rfl, rfl, rfl⟩

private theorem write_cases (session : CaptureSession) (id : ControlId) (v : Int32) :
    (∃ camera handle raw numeric, session.stopping = false ∧
      session.source = .native (some camera) ∧ Passes camera id v handle raw numeric ∧
      (session.withNative (·.apply id (.number (some v.toInt)))).1 =
        [⟨raw, numeric.type.cast v⟩]) ∨
    (¬∃ camera handle raw numeric, session.stopping = false ∧
      session.source = .native (some camera) ∧ Passes camera id v handle raw numeric) ∧
      ∃ e, session.withNative (·.apply id (.number (some v.toInt))) = ([], .error e) := by
  rcases withNative_cases session (·.apply id (.number (some v.toInt))) with
    ⟨camera, running, source, applied⟩ | ⟨idle, e, refused⟩
  · rcases apply_cases camera id v with ⟨handle, raw, numeric, passes, called⟩ | ⟨stuck, e, refused⟩
    · refine .inl ⟨camera, handle, raw, numeric, running, source, passes, ?_⟩
      rw [applied]
      exact called
    · refine .inr ⟨?_, e, applied.trans refused⟩
      rintro ⟨camera', handle, raw, numeric, -, source', passes⟩
      rw [source] at source'
      obtain rfl := Option.some.inj (Source.native.inj source')
      exact stuck ⟨handle, raw, numeric, passes⟩
  · refine .inr ⟨?_, e, refused⟩
    rintro ⟨camera, handle, raw, numeric, running, source, -⟩
    rcases idle with stopping | other
    · rw [running] at stopping
      contradiction
    · exact other camera source

private theorem settings_setControl (value : ControlValue) :
    (session.setControl id value).settings = (session.withNative (·.apply id value)).1 := by
  unfold CaptureSession.setControl
  split <;> next called => rw [called]

private theorem session_setControl (value : ControlValue) :
    (session.setControl id value).result = (session.withNative (·.apply id value)).2 ∧
      (session.setControl id value).session =
        if (session.setControl id value).result.isOk then session.recordControl id value
        else session := by
  unfold CaptureSession.setControl
  split
  · next called =>
      rw [called]
      exact ⟨rfl, rfl⟩
  · next called =>
      rw [called]
      exact ⟨rfl, rfl⟩

theorem fits_of_passes {camera : UvcCamera} {raw : CameraControlType} {handle : DeviceHandle}
    {numeric : NumericControl} (passes : Passes camera id v handle raw numeric)
    (reported : Reported handle numeric.type raw) : numeric.type.Fits v.toInt := by
  obtain ⟨range, known⟩ := (reported_iff passes.opened passes.numbered).mpr reported
  obtain ⟨above, below, -⟩ := passes.within range known
  exact fits_of_range passes.opened passes.numbered known above below

theorem passes_of_unchecked {type : CType} (unchecked : Unchecked session id type) (v : Int32) :
    ∃ camera handle raw numeric, session.stopping = false ∧
      session.source = .native (some camera) ∧ Passes camera id v handle raw numeric ∧
      numeric.type = type := by
  obtain ⟨camera, handle, raw, unit, numeric, answer, source, opened, mapped, numbered, rfl,
    answers, silent⟩ := unchecked.reached
  refine ⟨camera, handle, raw, numeric, unchecked.running, source, ?_, rfl⟩
  refine ⟨opened, ⟨unit, mapped⟩, numbered, ⟨answer, answers⟩, ?_⟩
  intro range reported
  exact absurd ((reported_iff opened numbered).mp ⟨range, reported⟩) silent

private theorem Passes.type_unique {camera camera' : UvcCamera} {handle handle' : DeviceHandle}
    {raw raw' : CameraControlType} {numeric numeric' : NumericControl}
    (passes : Passes camera id v handle raw numeric)
    (other : Passes camera' id v handle' raw' numeric') : numeric = numeric' := by
  obtain ⟨unit, mapped⟩ := passes.mapped
  obtain ⟨unit', mapped'⟩ := other.mapped
  rw [mapped] at mapped'
  obtain ⟨rfl, -⟩ := Prod.mk.inj (Except.ok.inj mapped')
  exact Option.some.inj (passes.numbered.symm.trans other.numbered)

theorem Passes.unchecked {camera : UvcCamera} {handle : DeviceHandle} {raw : CameraControlType}
    {numeric : NumericControl} (passes : Passes camera id v handle raw numeric)
    (running : session.stopping = false) (source : session.source = .native (some camera))
    (silent : ¬Reported handle numeric.type raw) : Unchecked session id numeric.type := by
  obtain ⟨unit, mapped⟩ := passes.mapped
  obtain ⟨answer, answers⟩ := passes.answers
  exact ⟨running, camera, handle, raw, unit, numeric, answer, source, passes.opened, mapped,
    passes.numbered, rfl, answers, silent⟩

/-- A whole number reaches a UVC camera unchanged or not at all, except where the camera reports
no range for a control that it has, and the number is none of the setter's type. -/
theorem delivered_iff (session : CaptureSession) (id : ControlId) (v : Int32) :
    Delivered session id v ↔ ∀ type, Unchecked session id type → type.Fits v.toInt := by
  have told := @settings_setControl id session (.number (some v.toInt))
  obtain ⟨answer, after⟩ := @session_setControl id session (.number (some v.toInt))
  rcases write_cases session id v with
    ⟨camera, handle, raw, numeric, running, source, passes, called⟩ | ⟨stuck, e, refused⟩
  · rw [called] at told
    constructor
    · intro delivered type unchecked
      obtain ⟨camera', handle', raw', numeric', -, -, passes', rfl⟩ :=
        passes_of_unchecked unchecked v
      rw [← passes.type_unique passes']
      have same := delivered.unchanged ⟨raw, numeric.type.cast v⟩ (by rw [told]; simp)
      exact (toInt_cast_iff numeric.type v).mp same
    · intro fits
      have fit : numeric.type.Fits v.toInt := by
        by_cases reported : Reported handle numeric.type raw
        · exact fits_of_passes passes reported
        · exact fits _ (passes.unchecked running source reported)
      constructor
      · intro setting there
        rw [told, List.mem_singleton] at there
        rw [there]
        exact (toInt_cast_iff numeric.type v).mpr fit
      · intro succeeded
        rw [succeeded] at after
        exact ⟨⟨_, told⟩, after⟩
      · intro silent
        rw [told] at silent
        contradiction
  · rw [refused] at told answer
    rw [answer] at after
    refine iff_of_true ?_ ?_
    · constructor
      · intro setting there
        rw [told] at there
        contradiction
      · intro succeeded
        rw [answer] at succeeded
        contradiction
      · exact fun _ => ⟨⟨e, answer⟩, after⟩
    · intro type unchecked
      obtain ⟨camera, handle, raw, numeric, running, source, passes, -⟩ :=
        passes_of_unchecked unchecked v
      exact absurd ⟨camera, handle, raw, numeric, running, source, passes⟩ stuck

/-- A camera that answers for its contrast and stalls on its range. -/
def rangeless : UvcCamera where
  handle := some
    { u8 := fun _ _ _ => .error (-9)
      i16 := fun _ _ _ => .error (-9)
      u16 := fun _ request _ => match request with
        | .getCur => .ok 32
        | _ => .error (-9)
      u32 := fun _ _ _ => .error (-9)
      set := fun _ _ => 0 }

/-- 70000 is told to the camera as 4464. -/
theorem not_always_delivered :
    ¬ ∀ (session : CaptureSession) (id : ControlId) (v : Int32), Delivered session id v := by
  intro always
  have told : (CaptureSession.setControl ⟨false, .native (some rangeless), fun _ => none⟩ .contrast
      (.number (some (70000 : Int32).toInt))).settings = [⟨.contrast, .u16 4464⟩] := rfl
  have same := (always ⟨false, .native (some rangeless), fun _ => none⟩ .contrast 70000).unchanged
    ⟨.contrast, .u16 4464⟩ (by rw [told]; exact List.mem_singleton_self _)
  exact absurd same (by decide)

end CameraRs.Uvc.Controls

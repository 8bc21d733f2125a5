/-
Devices that are selected and reopened by identifier.

Both searches refuse an identifier that two devices of one enumeration have. The serial number
of one device and the number of another stand in the same place of their identifiers.
-/

import CameraRs.Negotiation.Identity

namespace CameraRs.Negotiation

open Lib.Text
open Fallback (DeviceSelector)

/-- The filter of `resolve_selector`. -/
def selects (selector : DeviceSelector) (device : DeviceInfo) : Bool :=
  match selector with
  | .default => true
  | .id id => decide (device.id = id)
  | .facing facing => decide (device.facing = facing)
  | .usb vendorId productId serialNumber =>
      device.usb.any fun usb =>
        decide (usb.vendorId = vendorId) && decide (usb.productId = productId) &&
          serialNumber.all fun serial => decide (usb.serialNumber = some serial)
  | .name name => contains device.name name

def isDefault : DeviceSelector → Bool
  | .default => true
  | _ => false

def resolveSelector (debug : DeviceSelector → String) (devices : CameraResult (List DeviceInfo))
    (selector : DeviceSelector) : CameraResult DeviceInfo := do
  let devices ← devices
  match devices.filter (selects selector) with
  | [] => .error (.deviceNotFound (debug selector))
  | selected :: rest =>
      if !isDefault selector && !rest.isEmpty then .error (.ambiguousDevice (debug selector))
      else .ok selected

def display (id : DeviceId) : String := id.backend.asStr ++ ":" ++ id.native

def reopenedDevice (list : BackendId → CameraResult (List DescribedDevice))
    (id : Option DeviceId) : CameraResult DescribedDevice :=
  match id with
  | none => .error (.disconnected "USB permission descriptor requires explicit reopening")
  | some id => do
      let devices ← list id.backend
      match devices.filter fun d => decide (d.uniqueId = id.native) with
      | [] => .error (.disconnected (display id))
      | device :: rest =>
          if !rest.isEmpty then .error (.ambiguousDevice (display id)) else .ok device

/-! ### Ambiguity -/

def Ambiguous {α : Type} (result : CameraResult α) : Prop :=
  ∃ error, result = .error error ∧ error.kind = .ambiguousDevice

/-- Every device of an enumeration can be told from the others. -/
structure Unambiguous (backend : BackendType) (devices : List DescribedDevice) : Prop where
  injective : ∀ d ∈ devices, ∀ e ∈ devices, d.uniqueId = e.uniqueId → d = e
  selected : ∀ debug id,
    ¬Ambiguous (resolveSelector debug (.ok (devices.map (deviceInfo backend))) (.id id))
  reopened : ∀ id, ¬Ambiguous (reopenedDevice (fun _ => .ok devices) id)

def SameModel (d e : CameraDeviceInfo) : Prop :=
  ∃ vid pid, (d.vendorId = some vid ∧ d.productId = some pid) ∧
    e.vendorId = some vid ∧ e.productId = some pid

/-- Numbers are distinct, and so are the serial numbers that devices of one model have. -/
structure Enumerates (devices : List DescribedDevice) : Prop where
  numbers : (devices.map fun d => d.index).Nodup
  serials : ∀ d ∈ devices, ∀ e ∈ devices, d ≠ e →
    SameModel d.toCameraDeviceInfo e.toCameraDeviceInfo →
      ∀ serial, d.serialNumber = some serial → e.serialNumber ≠ some serial

structure NamedByNumber (d e : CameraDeviceInfo) : Prop where
  model : SameModel d e
  serial : d.serialNumber = some (toString e.index)
  bare : e.serialNumber = none

/-- The fields of two devices are never written alike. Without paths this is about serial
numbers only. -/
structure Distinguished (devices : List DescribedDevice) : Prop where
  serials : ∀ d ∈ devices, ∀ e ∈ devices, d.path = none → e.path = none →
    ¬NamedByNumber d.toCameraDeviceInfo e.toCameraDeviceInfo
  paths : ∀ d ∈ devices, ∀ e ∈ devices, d ≠ e → d.path ≠ none → d.path ≠ e.path
  spelled : ∀ d ∈ devices, ∀ e ∈ devices, e.path = none → d.path ≠ some e.spelled

/-! ### Identifiers without a path -/

variable {d e : CameraDeviceInfo}

theorem hex4_inj {m n : UInt16} (same : (hex4 m).toList = (hex4 n).toList) : m = n := by
  have digits := congrArg asBytes (String.toList_inj.mp same)
  rw [hex4, hex4, asBytes_hexString, asBytes_hexString] at digits
  have bytes := DeviceId.hexBytes_inj digits
  have high := congrArg UInt8.toNat (List.cons.inj bytes).1
  have low := congrArg UInt8.toNat (List.cons.inj (List.cons.inj bytes).2).1
  rw [UInt8.toNat_ofNat', UInt8.toNat_ofNat'] at high low
  have := m.toNat_lt
  have := n.toNat_lt
  exact UInt16.toNat_inj.mp (by omega)

private theorem spelled_parts {vid pid vid' pid' : UInt16} {text text' : String}
    (same : hex4 vid ++ ":" ++ hex4 pid ++ ":" ++ text =
      hex4 vid' ++ ":" ++ hex4 pid' ++ ":" ++ text') :
    vid = vid' ∧ pid = pid' ∧ text = text' := by
  rw [← String.toList_inj] at same
  simp only [String.toList_append, List.append_assoc] at same
  obtain ⟨vendor, same⟩ := List.append_inj same (by rw [length_hex4, length_hex4])
  obtain ⟨product, same⟩ := List.append_inj (List.append_cancel_left same)
    (by rw [length_hex4, length_hex4])
  exact ⟨hex4_inj vendor, hex4_inj product, String.toList_inj.mp (List.append_cancel_left same)⟩

theorem spelled_kinds {vid pid : UInt16} {text number : String} :
    hex4 vid ++ ":" ++ hex4 pid ++ ":" ++ text ≠ "device:" ++ number := by
  intro same
  have front : "device:".toList = ['d', 'e', 'v', 'i'] ++ "ce:".toList := rfl
  rw [← String.toList_inj] at same
  simp only [String.toList_append, front, List.append_assoc] at same
  have rest := (List.append_inj same (length_hex4 vid)).2
  have colon := (List.cons.inj rest).1
  cases colon

/-- Fields that are written alike are those of one model and name the device in the same way,
or they are one number. -/
private theorem spelled_alike (same : d.spelled = e.spelled) :
    (SameModel d e ∧ d.serialNumber.getD (toString d.index) =
        e.serialNumber.getD (toString e.index)) ∨
      d.index = e.index := by
  by_cases first : d.vendorId ≠ none ∧ d.productId ≠ none
  · obtain ⟨vid, vendor⟩ := Option.ne_none_iff_exists'.mp first.1
    obtain ⟨pid, product⟩ := Option.ne_none_iff_exists'.mp first.2
    rw [spelled_of_model vendor product] at same
    by_cases second : e.vendorId ≠ none ∧ e.productId ≠ none
    · obtain ⟨vid', vendor'⟩ := Option.ne_none_iff_exists'.mp second.1
      obtain ⟨pid', product'⟩ := Option.ne_none_iff_exists'.mp second.2
      rw [spelled_of_model vendor' product'] at same
      obtain ⟨rfl, rfl, texts⟩ := spelled_parts same
      exact .inl ⟨⟨vid, pid, ⟨vendor, product⟩, vendor', product'⟩, texts⟩
    · rw [spelled_of_unknown second] at same
      exact absurd same spelled_kinds
  · rw [spelled_of_unknown first] at same
    by_cases second : e.vendorId ≠ none ∧ e.productId ≠ none
    · obtain ⟨vid', vendor'⟩ := Option.ne_none_iff_exists'.mp second.1
      obtain ⟨pid', product'⟩ := Option.ne_none_iff_exists'.mp second.2
      rw [spelled_of_model vendor' product'] at same
      exact absurd same.symm spelled_kinds
    · rw [spelled_of_unknown second, String.append_right_inj, toString_inj] at same
      exact .inr same

theorem spelled_of_namedByNumber (named : NamedByNumber d e) : d.spelled = e.spelled := by
  obtain ⟨vid, pid, ⟨vendor, product⟩, vendor', product'⟩ := named.model
  rw [spelled_of_model vendor product, spelled_of_model vendor' product', named.serial, named.bare]
  rfl

/-! ### Enumerations -/

variable {backend : BackendType} {devices : List DescribedDevice}

theorem Enumerates.eq_of_index (listed : Enumerates devices) {d e : DescribedDevice}
    (first : d ∈ devices) (second : e ∈ devices) (same : d.index = e.index) : d = e :=
  List.inj_on_of_nodup_map listed.numbers first second same

private theorem Enumerates.spelled_inj (listed : Enumerates devices) {d e : DescribedDevice}
    (first : d ∈ devices) (second : e ∈ devices)
    (forth : ¬NamedByNumber d.toCameraDeviceInfo e.toCameraDeviceInfo)
    (back : ¬NamedByNumber e.toCameraDeviceInfo d.toCameraDeviceInfo)
    (same : d.spelled = e.spelled) : d = e := by
  obtain ⟨model, texts⟩ | same := spelled_alike same
  · have reversed : SameModel e.toCameraDeviceInfo d.toCameraDeviceInfo := by
      obtain ⟨vid, pid, left, right⟩ := model
      exact ⟨vid, pid, right, left⟩
    cases own : d.serialNumber with
    | none =>
        cases other : e.serialNumber with
        | none =>
            rw [own, other, Option.getD_none, Option.getD_none, toString_inj] at texts
            exact listed.eq_of_index first second texts
        | some serial =>
            rw [own, other, Option.getD_none, Option.getD_some] at texts
            exact absurd ⟨reversed, by rw [other, texts], own⟩ back
    | some serial =>
        cases other : e.serialNumber with
        | none =>
            rw [own, other, Option.getD_none, Option.getD_some] at texts
            exact absurd ⟨model, by rw [own, texts], other⟩ forth
        | some serial' =>
            rw [own, other, Option.getD_some, Option.getD_some] at texts
            by_contra different
            exact listed.serials d first e second different model serial own (by rw [other, texts])
  · exact listed.eq_of_index first second same

private theorem injective_iff (listed : Enumerates devices) :
    (∀ d ∈ devices, ∀ e ∈ devices, d.uniqueId = e.uniqueId → d = e) ↔ Distinguished devices := by
  constructor
  · intro injective
    refine ⟨fun d first e second pathless bare named => ?_,
      fun d first e second different some_path same => ?_, fun d first e second bare same => ?_⟩
    · have equal := injective d first e second (by
        rw [uniqueId_of_pathless pathless, uniqueId_of_pathless bare]
        exact spelled_of_namedByNumber named)
      have none := named.bare
      rw [← equal, named.serial] at none
      cases none
    · obtain ⟨path, named⟩ := Option.ne_none_iff_exists'.mp some_path
      exact different (injective d first e second (by
        rw [uniqueId_of_path named, uniqueId_of_path (same ▸ named)]))
    · have equal := injective d first e second (by
        rw [uniqueId_of_path same, uniqueId_of_pathless bare])
      rw [equal, bare] at same
      cases same
  · intro distinguished d first e second same
    cases named : d.path with
    | some path =>
        rw [uniqueId_of_path named] at same
        cases other : e.path with
        | some path' =>
            rw [uniqueId_of_path other] at same
            by_contra different
            refine distinguished.paths d first e second different ?_ (by rw [named, other, same])
            rw [named]
            exact Option.some_ne_none path
        | none =>
            rw [uniqueId_of_pathless other] at same
            exact absurd (same ▸ named) (distinguished.spelled d first e second other)
    | none =>
        rw [uniqueId_of_pathless named] at same
        cases other : e.path with
        | some path' =>
            rw [uniqueId_of_path other] at same
            exact absurd (same ▸ other) (distinguished.spelled e second d first named)
        | none =>
            rw [uniqueId_of_pathless other] at same
            exact listed.spelled_inj first second
              (distinguished.serials d first e second named other)
              (distinguished.serials e second d first other named) same

theorem filter_of_unique {α : Type} {items : List α} {has : α → Bool} (nodup : items.Nodup)
    (unique : ∀ a ∈ items, ∀ b ∈ items, has a = true → has b = true → a = b) {first : α}
    {rest : List α} (found : items.filter has = first :: rest) : rest = [] := by
  cases rest with
  | nil => rfl
  | cons second rest =>
      have one : first ∈ items.filter has := found ▸ List.mem_cons_self
      have other : second ∈ items.filter has :=
        found ▸ List.mem_cons_of_mem _ List.mem_cons_self
      rw [List.mem_filter] at one other
      have same := unique first one.1 second other.1 one.2 other.2
      have distinct := nodup.filter has
      rw [found, same] at distinct
      exact absurd List.mem_cons_self (List.nodup_cons.mp distinct).1

theorem Enumerates.nodup (listed : Enumerates devices) : devices.Nodup :=
  List.Nodup.of_map _ listed.numbers

private theorem selected_of_injective (listed : Enumerates devices)
    (injective : ∀ d ∈ devices, ∀ e ∈ devices, d.uniqueId = e.uniqueId → d = e)
    (debug : DeviceSelector → String) (id : DeviceId) :
    ¬Ambiguous (resolveSelector debug (.ok (devices.map (deviceInfo backend))) (.id id)) := by
  have nodup : (devices.map (deviceInfo backend)).Nodup := by
    refine List.Nodup.of_map DeviceInfo.index ?_
    rw [List.map_map]
    exact listed.numbers
  have unique : ∀ a ∈ devices.map (deviceInfo backend), ∀ b ∈ devices.map (deviceInfo backend),
      selects (.id id) a = true → selects (.id id) b = true → a = b := by
    intro a first b second left right
    obtain ⟨d, inside, rfl⟩ := List.mem_map.mp first
    obtain ⟨e, inside', rfl⟩ := List.mem_map.mp second
    have same := (of_decide_eq_true left).trans (of_decide_eq_true right).symm
    rw [injective d inside e inside' (congrArg DeviceId.native same)]
  rintro ⟨error, refused, kind⟩
  simp only [resolveSelector, bind, Except.bind] at refused
  cases found : (devices.map (deviceInfo backend)).filter (selects (.id id)) with
  | nil =>
      rw [found] at refused
      obtain rfl := Except.error.inj refused
      cases kind
  | cons selected rest =>
      rw [found, filter_of_unique nodup unique found] at refused
      cases refused

private theorem reopened_of_injective (listed : Enumerates devices)
    (injective : ∀ d ∈ devices, ∀ e ∈ devices, d.uniqueId = e.uniqueId → d = e)
    (id : Option DeviceId) : ¬Ambiguous (reopenedDevice (fun _ => .ok devices) id) := by
  rintro ⟨error, refused, kind⟩
  cases id with
  | none =>
      obtain rfl := Except.error.inj refused
      cases kind
  | some id =>
      simp only [reopenedDevice, bind, Except.bind] at refused
      have unique : ∀ d ∈ devices, ∀ e ∈ devices, decide (d.uniqueId = id.native) = true →
          decide (e.uniqueId = id.native) = true → d = e :=
        fun d first e second left right =>
          injective d first e second ((of_decide_eq_true left).trans (of_decide_eq_true right).symm)
      cases found : devices.filter fun d => decide (d.uniqueId = id.native) with
      | nil =>
          rw [found] at refused
          obtain rfl := Except.error.inj refused
          cases kind
      | cons device rest =>
          rw [found, filter_of_unique listed.nodup unique found] at refused
          cases refused

/-- Devices are told apart by their identifiers if and only if nothing is written alike. -/
theorem unambiguous_iff (backend : BackendType) (listed : Enumerates devices) :
    Unambiguous backend devices ↔ Distinguished devices := by
  rw [← injective_iff listed]
  constructor
  · intro unambiguous
    exact unambiguous.injective
  · intro injective
    exact
      { injective := injective
        selected := selected_of_injective listed injective
        reopened := reopened_of_injective listed injective }

/-- Cameras of one model, without paths. -/
def webcam (index : Nat) (serialNumber : Option String) : DescribedDevice :=
  { index := index, vendorId := some 0x046d, productId := some 0x0825,
    serialNumber := serialNumber, name := "camera", description := "USB Video Device" }

theorem enumerates_webcams (serial : String) :
    Enumerates [webcam 0 (some serial), webcam 1 none] where
  numbers := by simp [webcam]
  serials := by
    intro d first e second different model text own
    rcases List.mem_pair.mp first with rfl | rfl
    · rcases List.mem_pair.mp second with rfl | rfl
      · exact absurd rfl different
      · exact Option.some_ne_none _ ∘ Eq.symm
    · cases own

theorem unambiguous_iff_webcams : Unambiguous .uvc [webcam 0 (some "A1"), webcam 1 none] := by
  refine (unambiguous_iff .uvc (enumerates_webcams "A1")).mpr ⟨?_, ?_, ?_⟩
  · intro d first e second _ _ named
    have serial := named.serial
    rcases List.mem_pair.mp first with rfl | rfl
    · rcases List.mem_pair.mp second with rfl | rfl
      · exact absurd serial (by decide)
      · exact absurd serial (by decide)
    · cases serial
  · intro d first e second _ some_path
    rcases List.mem_pair.mp first with rfl | rfl
    · exact absurd rfl some_path
    · exact absurd rfl some_path
  · intro d first e second _ same
    rcases List.mem_pair.mp first with rfl | rfl
    · cases same
    · cases same

/-- One camera has the serial number 1, the other has none and is enumerated second. -/
theorem not_always_unambiguous :
    ¬ ∀ devices, Enumerates devices → Unambiguous .uvc devices := by
  intro always
  have unambiguous := always _ (enumerates_webcams "1")
  have named : NamedByNumber (webcam 0 (some "1")).toCameraDeviceInfo
      (webcam 1 none).toCameraDeviceInfo :=
    ⟨⟨_, _, ⟨rfl, rfl⟩, rfl, rfl⟩, rfl, rfl⟩
  have same := unambiguous.injective (webcam 0 (some "1")) List.mem_cons_self (webcam 1 none)
    (List.mem_cons_of_mem _ List.mem_cons_self) (by
      rw [uniqueId_of_pathless rfl, uniqueId_of_pathless rfl]
      exact spelled_of_namedByNumber named)
  exact absurd (congrArg (fun device => device.index) same) (by decide)

end CameraRs.Negotiation

/-
Backend and device identifiers, and the form in which they are stored.

A device is named by its backend and by a native string of the backend's choice. The
stored form keeps the bytes of the native string in hexadecimal after the first bar.
-/

import CameraRs.Error
import CameraRs.Lib.Text

namespace CameraRs

open Lib.Text

namespace BackendId

def builtins : List String :=
  ["uvc", "v4l2", "avfoundation", "camera2", "media-foundation", "synthetic"]

def valid (part : String) : Bool :=
  !part.isEmpty && decide (part.utf8ByteSize ≤ 96) &&
    (asBytes part).all fun b => isAsciiAlphanumeric b || b == 46 || b == 45 || b == 95

end BackendId

/-- A built-in or custom identifier. The name that stands for no backend, which the
`Auto` choice has in messages, is not one. -/
@[ext] structure BackendId where
  asStr : String
  known : asStr ∈ BackendId.builtins ∨ ∃ scope name, BackendId.valid scope = true ∧
    BackendId.valid name = true ∧ asStr = scope ++ "/" ++ name

namespace BackendId

instance : DecidableEq BackendId := fun a b =>
  decidable_of_iff (a.asStr = b.asStr) ⟨BackendId.ext, fun same => by rw [same]⟩

def uvc : BackendId := ⟨"uvc", .inl (by simp [builtins])⟩
def v4l2 : BackendId := ⟨"v4l2", .inl (by simp [builtins])⟩
def avFoundation : BackendId := ⟨"avfoundation", .inl (by simp [builtins])⟩
def camera2 : BackendId := ⟨"camera2", .inl (by simp [builtins])⟩
def mediaFoundation : BackendId := ⟨"media-foundation", .inl (by simp [builtins])⟩
def synthetic : BackendId := ⟨"synthetic", .inl (by simp [builtins])⟩

def custom (scope name : String) : CameraResult BackendId :=
  if accepted : valid scope = true ∧ valid name = true then
    .ok ⟨scope ++ "/" ++ name, .inr ⟨scope, name, accepted.1, accepted.2, rfl⟩⟩
  else
    .error (.invalidConfig "Backend namespace and name must be non-empty ASCII identifiers")

def fromStr (value : String) : CameraResult BackendId :=
  if value = "uvc" then .ok uvc
  else if value = "v4l2" then .ok v4l2
  else if value = "avfoundation" then .ok avFoundation
  else if value = "camera2" then .ok camera2
  else if value = "media-foundation" then .ok mediaFoundation
  else if value = "synthetic" then .ok synthetic
  else
    match splitOnce '/' value with
    | none => .error (.invalidConfig "Invalid backend identifier")
    | some (scope, name) => custom scope name

end BackendId

/-- `DeviceId`; enumeration also builds values that `DeviceId::new` has not checked. -/
structure DeviceId where
  backend : BackendId
  native : String
deriving DecidableEq

namespace DeviceId

def new (backend : BackendId) (native : String) : CameraResult DeviceId :=
  if native.isEmpty ∨ native.utf8ByteSize > 4096 ∨ '\x00' ∈ native.toList then
    .error (.invalidConfig "Device native identifier is empty or invalid")
  else .ok ⟨backend, native⟩

def toPersistentString (id : DeviceId) : String :=
  id.backend.asStr ++ "|" ++ hexString (asBytes id.native)

/-- The value of a hexadecimal digit; any other byte reaches `unreachable!`. -/
def digit (byte : UInt8) : Option UInt8 :=
  if 48 ≤ byte ∧ byte ≤ 57 then some (byte - 48)
  else if 97 ≤ byte ∧ byte ≤ 102 then some (byte - 97 + 10)
  else if 65 ≤ byte ∧ byte ≤ 70 then some (byte - 65 + 10)
  else none

def chunksExactTwo : List UInt8 → List (UInt8 × UInt8)
  | first :: second :: rest => (first, second) :: chunksExactTwo rest
  | _ => []

def decodePair (pair : UInt8 × UInt8) : Option UInt8 := do
  let high ← digit pair.1
  let low ← digit pair.2
  some ((high <<< 4) ||| low)

/-- `none` is a panic. -/
def parse (value : String) : Option (CameraResult DeviceId) :=
  match splitOnce '|' value with
  | none => some (.error (.invalidConfig "Invalid persisted device ID"))
  | some (backend, encoded) =>
      if encoded.utf8ByteSize > 4096 * 2 ∨ encoded.utf8ByteSize % 2 ≠ 0 ∨
          (asBytes encoded).all isAsciiHexdigit = false then
        some (.error (.invalidConfig "Invalid persisted device ID payload"))
      else do
        let bytes ← (chunksExactTwo (asBytes encoded)).mapM decodePair
        match fromUtf8 bytes with
        | none => some (.error (.invalidConfig "Device ID payload is not UTF-8"))
        | some native => some (do new (← BackendId.fromStr backend) native)

end DeviceId

/-! ### Backend identifiers -/

namespace BackendId

theorem valid_fresh {part : String} (accepted : valid part = true) {b : UInt8}
    (ascii : b.toNat < 128)
    (other : (isAsciiAlphanumeric b || b == 46 || b == 45 || b == 95) = false) :
    Char.ofUInt8 b ∉ part.toList := by
  intro present
  have found := mem_asBytes (c := Char.ofUInt8 b) ascii present
  rw [toUInt8_ofUInt8] at found
  simp only [valid, Bool.and_eq_true] at accepted
  have allowed := List.all_eq_true.mp accepted.2 b found
  rw [other] at allowed
  contradiction

private theorem valid_slash {part : String} (accepted : valid part = true) : '/' ∉ part.toList :=
  valid_fresh accepted (b := 47) (by decide) (by decide)

theorem valid_bar {part : String} (accepted : valid part = true) : '|' ∉ part.toList :=
  valid_fresh accepted (b := 124) (by decide) (by decide)

private theorem asStr_bar (id : BackendId) : '|' ∉ id.asStr.toList := by
  rcases id.known with known | ⟨scope, name, first, second, same⟩
  · have fresh : ∀ value ∈ builtins, '|' ∉ value.toList := by decide
    exact fresh _ known
  · rw [same]
    simp [valid_bar first, valid_bar second]

private theorem custom_valid {scope name : String} (first : valid scope = true)
    (second : valid name = true) (id : BackendId) (same : id.asStr = scope ++ "/" ++ name) :
    custom scope name = .ok id := by
  rw [custom, dif_pos ⟨first, second⟩]
  exact congrArg Except.ok (BackendId.ext same.symm)

theorem fromStr_builtin :
    ∀ value ∈ builtins, ∃ builtin, fromStr value = .ok builtin ∧ builtin.asStr = value := by
  simp only [builtins, List.forall_mem_cons]
  exact ⟨⟨uvc, rfl, rfl⟩, ⟨v4l2, rfl, rfl⟩, ⟨avFoundation, rfl, rfl⟩, ⟨camera2, rfl, rfl⟩,
    ⟨mediaFoundation, rfl, rfl⟩, ⟨synthetic, rfl, rfl⟩, by simp⟩

theorem fromStr_other {value : String} (other : ∀ builtin ∈ builtins, value ≠ builtin) :
    fromStr value =
      match splitOnce '/' value with
      | none => .error (.invalidConfig "Invalid backend identifier")
      | some (scope, name) => custom scope name := by
  simp only [builtins, List.forall_mem_cons] at other
  obtain ⟨c1, c2, c3, c4, c5, c6, _⟩ := other
  rw [fromStr, if_neg c1, if_neg c2, if_neg c3, if_neg c4, if_neg c5, if_neg c6]

theorem asStr_of_fromStr {value : String} {id : BackendId} (named : fromStr value = .ok id) :
    id.asStr = value := by
  by_cases builtin : value ∈ builtins
  · obtain ⟨known, found, same⟩ := fromStr_builtin value builtin
    rw [found] at named
    rw [← Except.ok.inj named, same]
  · have other : ∀ known ∈ builtins, value ≠ known := by
      intro known present same
      rw [same] at builtin
      exact builtin present
    rw [fromStr_other other] at named
    split at named
    · contradiction
    · next scope name cut =>
        rw [splitOnce_some cut]
        simp only [custom] at named
        split at named
        · rw [← Except.ok.inj named]
          rfl
        · contradiction

theorem fromStr_of_asStr (id : BackendId) : fromStr id.asStr = .ok id := by
  rcases id.known with known | ⟨scope, name, first, second, same⟩
  · obtain ⟨builtin, found, same⟩ := fromStr_builtin id.asStr known
    rw [found, BackendId.ext same]
  · have slash : '/' ∈ id.asStr.toList := by
      rw [same]
      simp
    have custom : ∀ value ∈ builtins, id.asStr ≠ value := by
      intro value known equal
      have without : ∀ value ∈ builtins, '/' ∉ value.toList := by decide
      exact without value known (equal ▸ slash)
    rw [fromStr_other custom, same]
    rw [show scope ++ "/" ++ name = scope ++ '/'.toString ++ name from rfl,
      splitOnce_append scope name (valid_slash first)]
    exact custom_valid first second id same

end BackendId

/-! ### Stored identifiers -/

namespace DeviceId

theorem digit_some (byte : UInt8) : isAsciiHexdigit byte = true → ∃ n, digit byte = some n ∧
    n.toNat < 16 ∧ hexDigit n.toNat = toAsciiLowercase byte := by
  intro valid
  have found : (digit byte).any (fun n =>
      decide (n.toNat < 16 ∧ hexDigit n.toNat = toAsciiLowercase byte)) = true := by
    revert byte
    exact forall_byte (by decide +kernel)
  obtain ⟨n, value, fits⟩ := (Option.any_eq_true _ _).mp found
  exact ⟨n, value, of_decide_eq_true fits⟩

theorem digit_hexDigit {n : Nat} (small : n < 16) : digit (hexDigit n) = some (UInt8.ofNat n) := by
  revert n
  decide

theorem join_toNat {high low : UInt8} (first : high.toNat < 16) (second : low.toNat < 16) :
    ((high <<< 4) ||| low).toNat = 16 * high.toNat + low.toNat := by
  have each : ∀ n m : Fin 16, ((UInt8.ofNat n <<< 4) ||| UInt8.ofNat m).toNat = 16 * n + m := by
    decide +kernel
  have here := each ⟨high.toNat, first⟩ ⟨low.toNat, second⟩
  simpa using here

theorem decode_hexBytes (bytes : List UInt8) :
    (chunksExactTwo (hexBytes bytes)).mapM decodePair = some bytes := by
  induction bytes with
  | nil => rfl
  | cons b rest ih =>
      have below : b.toNat < 256 := b.toNat_lt
      have pair : decodePair (hexDigit (b.toNat / 16), hexDigit (b.toNat % 16)) = some b := by
        rw [decodePair, digit_hexDigit (by omega), digit_hexDigit (by omega)]
        refine congrArg some (UInt8.toNat_inj.mp ?_)
        have high : (UInt8.ofNat (b.toNat / 16)).toNat = b.toNat / 16 := by
          rw [UInt8.toNat_ofNat']
          omega
        have low : (UInt8.ofNat (b.toNat % 16)).toNat = b.toNat % 16 := by
          rw [UInt8.toNat_ofNat']
          omega
        rw [join_toNat (by omega) (by omega), high, low]
        omega
      rw [hexBytes_cons, chunksExactTwo, List.mapM_cons, pair, ih]
      rfl

theorem hexBytes_inj {first second : List UInt8} (same : hexBytes first = hexBytes second) :
    first = second := by
  have decoded := congrArg (fun digits => (chunksExactTwo digits).mapM decodePair) same
  simp only [decode_hexBytes] at decoded
  exact Option.some.inj decoded

private theorem decode_digits (digits : List UInt8) (even : digits.length % 2 = 0)
    (valid : ∀ b ∈ digits, isAsciiHexdigit b = true) :
    ∃ bytes, (chunksExactTwo digits).mapM decodePair = some bytes ∧
      hexBytes bytes = digits.map toAsciiLowercase := by
  fun_induction chunksExactTwo digits with
  | case1 first second rest ih =>
      obtain ⟨bytes, decoded, spelled⟩ := ih (by
        simp only [List.length_cons] at even
        omega) fun b present => valid b (List.mem_cons_of_mem _ (List.mem_cons_of_mem _ present))
      obtain ⟨high, highValue, highSmall, highSpelled⟩ := digit_some first (valid first (by simp))
      obtain ⟨low, lowValue, lowSmall, lowSpelled⟩ := digit_some second (valid second (by simp))
      have pair : decodePair (first, second) = some ((high <<< 4) ||| low) := by
        rw [decodePair, highValue, lowValue]
        rfl
      refine ⟨((high <<< 4) ||| low) :: bytes, ?_, ?_⟩
      · rw [List.mapM_cons, pair, decoded]
        rfl
      · have joined := join_toNat highSmall lowSmall
        have highPart : ((high <<< 4) ||| low).toNat / 16 = high.toNat := by omega
        have lowPart : ((high <<< 4) ||| low).toNat % 16 = low.toNat := by omega
        rw [hexBytes_cons, highPart, lowPart, highSpelled, lowSpelled, spelled, List.map_cons,
          List.map_cons]
  | case2 digits short =>
      cases digits with
      | nil => exact ⟨[], rfl, rfl⟩
      | cons first rest =>
          cases rest with
          | nil => simp at even
          | cons second rest => exact absurd rfl (short first second rest)

theorem new_ok {backend : BackendId} {native : String} {id : DeviceId}
    (made : new backend native = .ok id) :
    id = ⟨backend, native⟩ ∧ native.utf8ByteSize ≤ 4096 := by
  simp only [new] at made
  split at made
  · contradiction
  · next accepted =>
      refine ⟨(Except.ok.inj made).symm, ?_⟩
      rw [not_or, not_or] at accepted
      exact Nat.le_of_not_gt accepted.2.1

theorem parse_toPersistentString {backend : BackendId} {native : String} {id : DeviceId}
    (made : new backend native = .ok id) : parse id.toPersistentString = some (.ok id) := by
  obtain ⟨rfl, short⟩ := new_ok made
  have cut : splitOnce '|' (toPersistentString ⟨backend, native⟩) =
      some (backend.asStr, hexString (asBytes native)) :=
    splitOnce_append backend.asStr _ backend.asStr_bar
  have size : (hexString (asBytes native)).utf8ByteSize = 2 * native.utf8ByteSize := by
    rw [← length_asBytes, asBytes_hexString, length_hexBytes, length_asBytes]
  have digits : (hexBytes (asBytes native)).all isAsciiHexdigit = true :=
    List.all_eq_true.mpr (hexBytes_isAsciiHexdigit _)
  have accepted : ¬ ((hexString (asBytes native)).utf8ByteSize > 4096 * 2 ∨
      (hexString (asBytes native)).utf8ByteSize % 2 ≠ 0 ∨
      (asBytes (hexString (asBytes native))).all isAsciiHexdigit = false) := by
    rw [asBytes_hexString, digits, size]
    simp
    omega
  simp only [parse, cut]
  rw [if_neg accepted, asBytes_hexString, decode_hexBytes]
  simp only [Option.bind_eq_bind, Option.bind_some, fromUtf8_asBytes]
  rw [BackendId.fromStr_of_asStr]
  exact congrArg some made

theorem parse_spelled (value : String) : ∃ result, parse value = some result ∧
    ∀ id, result = .ok id → ∃ payload, value = id.backend.asStr ++ "|" ++ payload ∧
      eqIgnoreAsciiCase payload (hexString (asBytes id.native)) := by
  simp only [parse]
  split
  · exact ⟨_, rfl, fun id made => by contradiction⟩
  · next scope payload cut =>
      split
      · exact ⟨_, rfl, fun id made => by contradiction⟩
      · next accepted =>
          rw [not_or, not_or, Bool.not_eq_false, not_not] at accepted
          obtain ⟨_, even, digits⟩ := accepted
          obtain ⟨bytes, decoded, spelled⟩ :=
            decode_digits (asBytes payload) even (List.all_eq_true.mp digits)
          rw [decoded]
          simp only [Option.bind_eq_bind, Option.bind_some]
          split
          · exact ⟨_, rfl, fun id made => by contradiction⟩
          · next native text =>
              refine ⟨_, rfl, fun id made => ?_⟩
              cases named : BackendId.fromStr scope with
              | error error =>
                  rw [named] at made
                  contradiction
              | ok backend =>
                  rw [named] at made
                  obtain ⟨rfl, _⟩ := new_ok made
                  refine ⟨payload, ?_, ?_⟩
                  · rw [BackendId.asStr_of_fromStr named]
                    exact splitOnce_some cut
                  · rw [eqIgnoreAsciiCase, asBytes_hexString, asBytes_of_fromUtf8 text, spelled,
                      List.map_map]
                    exact List.map_congr_left fun b _ => (toAsciiLowercase_idem b).symm

/-- Stored identifiers and identifiers stand for each other. -/
theorem persistent_round_trip :
    (∀ backend native id, new backend native = .ok id →
      parse id.toPersistentString = some (.ok id)) ∧
    (∀ first second native other left right, new first native = .ok left →
      new second other = .ok right → left ≠ right →
      left.toPersistentString ≠ right.toPersistentString) ∧
    (∀ value, ∃ result, parse value = some result) ∧
    (∀ value id, parse value = some (.ok id) → ∃ payload,
      value = id.backend.asStr ++ "|" ++ payload ∧
      eqIgnoreAsciiCase payload (hexString (asBytes id.native))) ∧
    ∀ backend : BackendId, BackendId.fromStr backend.asStr = .ok backend := by
  refine ⟨?_, ?_, ?_, ?_, BackendId.fromStr_of_asStr⟩
  · intro backend native id made
    exact parse_toPersistentString made
  · intro first second native other left right made made' different same
    have read := parse_toPersistentString made
    rw [same, parse_toPersistentString made'] at read
    exact different (Except.ok.inj (Option.some.inj read)).symm
  · intro value
    obtain ⟨result, parsed, _⟩ := parse_spelled value
    exact ⟨result, parsed⟩
  · intro value id parsed
    obtain ⟨result, answered, spelled⟩ := parse_spelled value
    rw [answered] at parsed
    exact spelled id (Option.some.inj parsed)

theorem persistent_round_trip_synthetic :
    new .synthetic "摄像头-📷" = .ok ⟨.synthetic, "摄像头-📷"⟩ ∧
    parse (toPersistentString ⟨.synthetic, "摄像头-📷"⟩) =
      some (.ok ⟨.synthetic, "摄像头-📷"⟩) := by
  have made : new .synthetic "摄像头-📷" = .ok ⟨.synthetic, "摄像头-📷"⟩ := by decide +kernel
  exact ⟨made, persistent_round_trip.1 _ _ _ made⟩

end DeviceId

end CameraRs

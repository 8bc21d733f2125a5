/-
Strings as text and as UTF-8 bytes.

Text is split at its characters, measured and written in bytes. ASCII is where the two
views agree; the hexadecimal form of a list of bytes is ASCII and can be read back in
either letter case.
-/

import Mathlib.Data.List.Basic
import Mathlib.Data.Option.Basic

namespace CameraRs.Lib.Text

def asBytes (s : String) : List UInt8 := s.toByteArray.data.toList

theorem asBytes_ofList (cs : List Char) :
    asBytes (String.ofList cs) = cs.flatMap String.utf8EncodeChar := by
  simp [asBytes, List.utf8Encode]

theorem asBytes_toList (s : String) : asBytes s = s.toList.flatMap String.utf8EncodeChar := by
  rw [← asBytes_ofList, String.ofList_toList]

@[simp] theorem asBytes_append (s t : String) : asBytes (s ++ t) = asBytes s ++ asBytes t := by
  simp [asBytes]

theorem toString_inj {m n : Nat} : toString m = toString n ↔ m = n := by
  constructor
  · intro same
    have digits : Nat.toDigits 10 m = Nat.toDigits 10 n := by
      rw [← Nat.toList_repr, ← Nat.toList_repr, ← Nat.toString_eq_repr, ← Nat.toString_eq_repr, same]
    have read := congrArg (fun text => Nat.ofDigitChars 10 text 0) digits
    rwa [Nat.ofDigitChars_ten_toDigits, Nat.ofDigitChars_ten_toDigits] at read
  · intro same
    rw [same]

theorem length_asBytes (s : String) : (asBytes s).length = s.utf8ByteSize := rfl

def fromUtf8 (bytes : List UInt8) : Option String := String.fromUTF8? bytes.toByteArray

theorem fromUtf8_asBytes (s : String) : fromUtf8 (asBytes s) = some s := by
  have same : (asBytes s).toByteArray = s.toByteArray := by
    apply ByteArray.ext
    simp [asBytes]
  rw [fromUtf8, same, String.fromUTF8?, dif_pos s.isValidUTF8]
  rfl

theorem asBytes_of_fromUtf8 {bytes : List UInt8} {s : String}
    (decoded : fromUtf8 bytes = some s) : asBytes s = bytes := by
  simp only [fromUtf8, String.fromUTF8?] at decoded
  split at decoded
  · next valid =>
      obtain rfl := Option.some.inj decoded
      simp [asBytes, String.fromUTF8]
  · contradiction

/-! ### Splitting -/

/-- The parts before and after the first `c`. -/
def splitOnceChars (c : Char) : List Char → Option (List Char × List Char)
  | [] => none
  | x :: rest =>
      if x = c then some ([], rest)
      else (splitOnceChars c rest).map fun (front, back) => (x :: front, back)

def splitOnce (c : Char) (s : String) : Option (String × String) :=
  (splitOnceChars c s.toList).map fun (front, back) => (String.ofList front, String.ofList back)

private theorem splitOnceChars_some {c : Char} {cs front back : List Char}
    (found : splitOnceChars c cs = some (front, back)) : cs = front ++ c :: back := by
  induction cs generalizing front with
  | nil => contradiction
  | cons x rest ih =>
      simp only [splitOnceChars] at found
      split at found
      · next same =>
          obtain ⟨rfl, rfl⟩ := Prod.mk.inj (Option.some.inj found)
          rw [same, List.nil_append]
      · obtain ⟨⟨first, last⟩, here, same⟩ := Option.map_eq_some_iff.mp found
        obtain ⟨rfl, rfl⟩ := Prod.mk.inj same
        rw [ih here, List.cons_append]

private theorem splitOnceChars_of_notMem {c : Char} (front back : List Char) (fresh : c ∉ front) :
    splitOnceChars c (front ++ c :: back) = some (front, back) := by
  induction front with
  | nil => simp [splitOnceChars]
  | cons x rest ih =>
      rw [List.mem_cons, not_or] at fresh
      obtain ⟨different, fresh⟩ := fresh
      rw [List.cons_append, splitOnceChars, if_neg (Ne.symm different), ih fresh]
      rfl

theorem splitOnce_some {c : Char} {s front back : String}
    (found : splitOnce c s = some (front, back)) : s = front ++ c.toString ++ back := by
  obtain ⟨⟨first, last⟩, here, same⟩ := Option.map_eq_some_iff.mp found
  obtain ⟨rfl, rfl⟩ := Prod.mk.inj same
  rw [← String.toList_inj]
  simp [splitOnceChars_some here]

theorem splitOnce_append {c : Char} (front back : String) (fresh : c ∉ front.toList) :
    splitOnce c (front ++ c.toString ++ back) = some (front, back) := by
  have chars : (front ++ c.toString ++ back).toList = front.toList ++ c :: back.toList := by
    simp
  rw [splitOnce, chars, splitOnceChars_of_notMem _ _ fresh]
  simp

/-! ### ASCII -/

def isAsciiHexdigit (b : UInt8) : Bool :=
  (48 ≤ b && b ≤ 57) || (65 ≤ b && b ≤ 70) || (97 ≤ b && b ≤ 102)

def isAsciiAlphanumeric (b : UInt8) : Bool :=
  (48 ≤ b && b ≤ 57) || (65 ≤ b && b ≤ 90) || (97 ≤ b && b ≤ 122)

def toAsciiLowercase (b : UInt8) : UInt8 := if 65 ≤ b && b ≤ 90 then b + 32 else b

def eqIgnoreAsciiCase (s t : String) : Prop :=
  (asBytes s).map toAsciiLowercase = (asBytes t).map toAsciiLowercase

theorem utf8EncodeChar_ascii {c : Char} (ascii : c.toNat < 128) :
    String.utf8EncodeChar c = [c.toUInt8] := by
  have small : c.val.toNat ≤ 127 := Nat.le_of_lt_succ ascii
  simp only [String.utf8EncodeChar, if_pos small]
  rfl

theorem mem_asBytes {c : Char} {s : String} (ascii : c.toNat < 128) (present : c ∈ s.toList) :
    c.toUInt8 ∈ asBytes s := by
  rw [asBytes_toList, List.mem_flatMap]
  refine ⟨c, present, ?_⟩
  rw [utf8EncodeChar_ascii ascii]
  exact List.mem_singleton_self _

theorem toUInt8_ofUInt8 (b : UInt8) : (Char.ofUInt8 b).toUInt8 = b := by
  change b.toUInt32.toUInt8 = b
  exact UInt8.toUInt8_toUInt32 b

theorem forall_byte {P : UInt8 → Prop} (each : ∀ n : Fin 256, P (UInt8.ofFin n)) (b : UInt8) :
    P b :=
  each b.toFin

theorem toAsciiLowercase_idem (b : UInt8) :
    toAsciiLowercase (toAsciiLowercase b) = toAsciiLowercase b := by
  revert b
  exact forall_byte (by decide +kernel)

/-! ### Hexadecimal -/

/-- The lower-case digit of a number below sixteen. -/
def hexDigit (n : Nat) : UInt8 := UInt8.ofNat (if n < 10 then 48 + n else 87 + n)

def hexBytes (bytes : List UInt8) : List UInt8 :=
  bytes.flatMap fun b => [hexDigit (b.toNat / 16), hexDigit (b.toNat % 16)]

/-- Every byte as `{:02x}` writes it. -/
def hexString (bytes : List UInt8) : String :=
  String.ofList ((hexBytes bytes).map Char.ofUInt8)

theorem hexDigit_isAsciiHexdigit {n : Nat} (small : n < 16) :
    isAsciiHexdigit (hexDigit n) = true := by
  revert n
  decide

private theorem isAsciiHexdigit_lt (b : UInt8) : isAsciiHexdigit b = true → b.toNat < 128 := by
  revert b
  exact forall_byte (by decide +kernel)

theorem hexBytes_cons (b : UInt8) (rest : List UInt8) :
    hexBytes (b :: rest) = hexDigit (b.toNat / 16) :: hexDigit (b.toNat % 16) :: hexBytes rest :=
  rfl

theorem hexBytes_isAsciiHexdigit (bytes : List UInt8) :
    ∀ b ∈ hexBytes bytes, isAsciiHexdigit b = true := by
  induction bytes with
  | nil => simp [hexBytes]
  | cons x rest ih =>
      have below : x.toNat < 256 := x.toNat_lt
      rw [hexBytes_cons]
      intro b present
      rcases List.mem_cons.mp present with rfl | present
      · exact hexDigit_isAsciiHexdigit (by omega)
      · rcases List.mem_cons.mp present with rfl | present
        · exact hexDigit_isAsciiHexdigit (by omega)
        · exact ih b present

theorem length_hexBytes (bytes : List UInt8) : (hexBytes bytes).length = 2 * bytes.length := by
  induction bytes with
  | nil => rfl
  | cons b rest ih =>
      rw [hexBytes_cons, List.length_cons, List.length_cons, List.length_cons, ih]
      omega

theorem asBytes_hexString (bytes : List UInt8) : asBytes (hexString bytes) = hexBytes bytes := by
  have ascii : ∀ b ∈ hexBytes bytes, String.utf8EncodeChar (Char.ofUInt8 b) = [b] := by
    intro b present
    have small : (Char.ofUInt8 b).toNat < 128 :=
      isAsciiHexdigit_lt b (hexBytes_isAsciiHexdigit bytes b present)
    rw [utf8EncodeChar_ascii small, toUInt8_ofUInt8]
  rw [hexString, asBytes_ofList, List.flatMap_map]
  generalize hexBytes bytes = digits at ascii
  induction digits with
  | nil => rfl
  | cons b rest ih =>
      rw [List.flatMap_cons, ascii b (List.mem_cons_self ..),
        ih fun x present => ascii x (List.mem_cons_of_mem _ present)]
      rfl

theorem hexString_toList (bytes : List UInt8) :
    (hexString bytes).toList = (hexBytes bytes).map Char.ofUInt8 := by
  rw [hexString, String.toList_ofList]

end CameraRs.Lib.Text

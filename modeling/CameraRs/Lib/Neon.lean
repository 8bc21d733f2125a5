/-
Advanced SIMD registers as lanes, with the Arm instructions on them as their
reference gives them. Lane `0` is the lowest in memory. Structured loads and stores
take the elements of consecutive groups apart and put them back.

Lanes wrap. `Stands` says which integers they are modulo `2^w`; a widening product,
a shift and a saturation look at the value, so those rules ask that it fits.
-/

import Mathlib.Data.Fin.Basic
import CameraRs.Lib.Simd

namespace CameraRs.Lib.Neon

open Fill Simd

variable {σ ε : Type} {n w : Nat}

/-- `uint8x8_t`. -/
abbrev U8x8 := Lanes 8 UInt8

/-- `uint8x16_t`. -/
abbrev U8x16 := Lanes 16 UInt8

/-- `int16x4_t`. -/
abbrev I16x4 := Lanes 4 (BitVec 16)

/-- `int16x8_t`. -/
abbrev I16x8 := Lanes 8 (BitVec 16)

/-- `int32x4_t`. -/
abbrev I32x4 := Lanes 4 (BitVec 32)

/-- `uint8x8x3_t` and `uint8x16x3_t`. -/
structure Triple (n : Nat) where
  first : Lanes n UInt8
  second : Lanes n UInt8
  third : Lanes n UInt8

/-! ### Loads and stores -/

def vld1U8 (xs : List UInt8) (start : Nat) : Fill σ ε U8x8 := loadu 8 xs start

/-- `vld2_u8`, `vld4_u8` and `vld4q_u8` at `start`: register `j` has byte `j` of each of
`n` groups of `count` bytes. -/
def vldStructured (count n : Nat) (xs : List UInt8) (start : Nat) :
    Fill σ ε (Nat → Lanes n UInt8) := do
  assertThat (start + count * n ≤ xs.length)
  pure fun j i => xs.getD (start + count * i + j) 0

/-- `vst3_u8` and `vst3q_u8` at `start`: a byte of each register in turn. -/
def vst3 (start : Nat) (value : Triple n) : Fill (List UInt8) ε Unit :=
  within start (start + n * 3) <| copyFromSlice <| List.flatten <| List.ofFn fun i =>
    [value.first i, value.second i, value.third i]

def vcreateU8 (bits : BitVec 64) : U8x8 := fun i => UInt8.ofNat (bits.toNat / 256 ^ i.val)

/-! ### Rearranging -/

/-- `vzip1_u8`: the low halves of both, in turn. -/
def vzip1U8 (a b : U8x8) : U8x8 := fun i =>
  let lane : Fin 8 := Fin.castAdd 4 (@Fin.divNat 4 2 i)
  if i.val % 2 = 0 then a lane else b lane

def vzip2U8 (a b : U8x8) : U8x8 := fun i =>
  let lane : Fin 8 := Fin.natAdd 4 (@Fin.divNat 4 2 i)
  if i.val % 2 = 0 then a lane else b lane

def vgetLowS16 (a : I16x8) : I16x4 := fun i => a (Fin.castLE (by decide) i)

def vgetHighS16 (a : I16x8) : I16x4 := fun i => a (Fin.natAdd 4 i)

def vcombineS16 (low high : I16x4) : I16x8 := fun i =>
  if h : i.val < 4 then low ⟨i, h⟩ else high ⟨i - 4, by omega⟩

/-! ### Arithmetic -/

/-- `vmovl_u8`, read as signed words. -/
def vmovlU8 (a : U8x8) : I16x8 := fun i => BitVec.ofNat 16 (a i).toNat

/-- `vdupq_n_s16`, `vdupq_n_s32` of an integer cast to the lane. -/
def vdupqN (w n : Nat) (value : Int) : Lanes n (BitVec w) := fun _ => BitVec.ofInt w value

def vaddq (a b : Lanes n (BitVec w)) : Lanes n (BitVec w) := fun i => a i + b i

def vsubq (a b : Lanes n (BitVec w)) : Lanes n (BitVec w) := fun i => a i - b i

def vnegq (a : Lanes n (BitVec w)) : Lanes n (BitVec w) := fun i => -a i

/-- `vmull_n_s16`: widening products with an integer cast to `i16`. -/
def vmullNS16 (a : I16x4) (value : Int) : I32x4 := fun i =>
  (a i).signExtend 32 * (BitVec.ofInt 16 value).signExtend 32

def vmlalNS16 (sum : I32x4) (a : I16x4) (value : Int) : I32x4 := vaddq sum (vmullNS16 a value)

def vmlslNS16 (sum : I32x4) (a : I16x4) (value : Int) : I32x4 := vsubq sum (vmullNS16 a value)

/-- `vshrn_n_s32`: a shift to the right, and the low half of the result. -/
def vshrnNS32 (shift : Nat) (a : I32x4) : I16x4 := fun i =>
  ((a i).sshiftRight shift).setWidth 16

/-- `vqmovun_s16`: signed words saturated to unsigned bytes. -/
def vqmovunS16 (a : I16x8) : U8x8 := fun i => UInt8.ofNat (saturate 255 (a i).toInt)

/-! ### What the bytes are -/

def Shows (a : Lanes n UInt8) (f : Nat → UInt8) : Prop := ∀ i : Fin n, a i = f i

/-- Lane `i` of the three registers has the bytes of `pixel i`. -/
def Triple.Shows (value : Triple n) (pixel : Nat → List UInt8) : Prop :=
  ∀ i : Fin n, [value.first i, value.second i, value.third i] = pixel i

section Bytes

variable {a b : U8x8} {f g : Nat → UInt8} {s : σ} {xs : List UInt8} {start count : Nat}

theorem vld1U8_returns (room : start + 8 ≤ xs.length) :
    Returns (vld1U8 xs start : Fill σ ε _) s (fun i => xs.getD (start + i) 0) s :=
  loadu_returns room

theorem vldStructured_returns (room : start + count * n ≤ xs.length) :
    Returns (vldStructured count n xs start : Fill σ ε _) s
      (fun j i => xs.getD (start + count * i + j) 0) s :=
  .bind (.assertThat room) .pure

theorem Shows.congr {a : Lanes n UInt8} (shows : Shows a f) (same : ∀ k, k < n → f k = g k) :
    Shows a g :=
  fun i => (shows i).trans (same i i.isLt)

theorem Shows.zip1 (left : Shows a f) (right : Shows b g) :
    Shows (vzip1U8 a b) fun k => if k % 2 = 0 then f (k / 2) else g (k / 2) := by
  intro i
  simp only [vzip1U8, left _, right _, Fin.val_castAdd, Fin.divNat]

theorem Shows.zip2 (left : Shows a f) (right : Shows b g) :
    Shows (vzip2U8 a b) fun k => if k % 2 = 0 then f (4 + k / 2) else g (4 + k / 2) := by
  intro i
  simp only [vzip2U8, left _, right _, Fin.val_natAdd, Fin.divNat]

theorem Shows.double (shows : Shows a f) :
    Shows (vzip1U8 a a) (fun k => f (k / 2)) ∧
      Shows (vzip2U8 a a) fun k => f ((8 + k) / 2) := by
  constructor
  · exact (shows.zip1 shows).congr fun k _ => ite_self _
  · refine (shows.zip2 shows).congr fun k _ => ?_
    rw [ite_self, show 4 + k / 2 = (8 + k) / 2 by omega]

theorem Shows.weave {h : Nat → UInt8} (even : Shows a fun k => h (2 * k))
    (odd : Shows b fun k => h (2 * k + 1)) :
    Shows (vzip1U8 a b) h ∧ Shows (vzip2U8 a b) fun k => h (8 + k) := by
  constructor
  · refine (even.zip1 odd).congr fun k _ => ?_
    split
    · exact congrArg h (by omega)
    · exact congrArg h (by omega)
  · refine (even.zip2 odd).congr fun k _ => ?_
    split
    · exact congrArg h (by omega)
    · exact congrArg h (by omega)

theorem vst3_block {value : Triple n} {pixel : Nat → List UInt8} (shows : value.Shows pixel) :
    (List.ofFn fun i => [value.first i, value.second i, value.third i]).flatten =
      blocks pixel n := by
  rw [blocks, List.flatMap]
  congr 1
  apply List.ext_getElem
  · rw [List.length_ofFn, List.length_map, List.length_range]
  · intro k left right
    rw [List.getElem_ofFn, List.getElem_map, List.getElem_range]
    exact shows ⟨k, by simpa using left⟩

end Bytes

/-! ### What the integer lanes stand for -/

/-- Lane `i` is the integer `f i`, modulo `2^w`. -/
def Stands (a : Lanes n (BitVec w)) (f : Nat → Int) : Prop :=
  ∀ i : Fin n, a i = BitVec.ofInt w (f i)

def IsI16 (x : Int) : Prop := -2 ^ 15 ≤ x ∧ x < 2 ^ 15

theorem IsI16.toInt {x : Int} (fits : IsI16 x) : (BitVec.ofInt 16 x).toInt = x :=
  BitVec.toInt_ofInt_eq_self (by decide) fits.1 fits.2

theorem IsI16.signExtend {x : Int} (fits : IsI16 x) :
    (BitVec.ofInt 16 x).signExtend 32 = BitVec.ofInt 32 x := by
  rw [BitVec.signExtend, fits.toInt]

section Integers

variable {a b : Lanes n (BitVec w)} {f g : Nat → Int}

theorem Stands.congr (stands : Stands a f) (same : ∀ k, k < n → f k = g k) : Stands a g :=
  fun i => by rw [stands i, same i i.isLt]

theorem stands_dup (value : Int) : Stands (vdupqN w n value) fun _ => value :=
  fun _ => rfl

theorem Shows.stands {bytes : U8x8} {samples : Nat → UInt8} (shows : Shows bytes samples) :
    Stands (vmovlU8 bytes) fun k => ((samples k).toNat : Int) := by
  intro i
  rw [vmovlU8, shows i, BitVec.ofInt_natCast]

theorem Stands.add (left : Stands a f) (right : Stands b g) :
    Stands (vaddq a b) fun k => f k + g k := by
  intro i
  rw [vaddq, left i, right i, BitVec.ofInt_add]

theorem Stands.sub (left : Stands a f) (right : Stands b g) :
    Stands (vsubq a b) fun k => f k - g k := by
  intro i
  rw [vsubq, left i, right i, BitVec.sub_eq_add_neg, ← BitVec.ofInt_neg, ← BitVec.ofInt_add]
  rfl

theorem Stands.neg (stands : Stands a f) : Stands (vnegq a) fun k => -f k := by
  intro i
  rw [vnegq, stands i, BitVec.ofInt_neg]

end Integers

section Words

variable {a lower upper : I16x4} {wide : I16x8} {sum : I32x4} {f g : Nat → Int} {value : Int}

theorem Stands.low (stands : Stands wide f) : Stands (vgetLowS16 wide) f :=
  fun _ => stands _

theorem Stands.high (stands : Stands wide f) : Stands (vgetHighS16 wide) fun k => f (4 + k) :=
  fun _ => stands _

theorem Stands.combine (first : Stands lower f) (second : Stands upper fun k => f (4 + k)) :
    Stands (vcombineS16 lower upper) f := by
  intro i
  rw [vcombineS16]
  split
  · exact first _
  · exact (second _).trans (congrArg _ (congrArg f (by simp only; omega)))

theorem Stands.mull (stands : Stands a f) (fits : ∀ k, IsI16 (f k)) (factor : IsI16 value) :
    Stands (vmullNS16 a value) fun k => f k * value := by
  intro i
  rw [vmullNS16, stands i, (fits i).signExtend, factor.signExtend, BitVec.ofInt_mul]

theorem Stands.mlal (total : Stands sum g) (stands : Stands a f) (fits : ∀ k, IsI16 (f k))
    (factor : IsI16 value) : Stands (vmlalNS16 sum a value) fun k => g k + f k * value :=
  total.add (stands.mull fits factor)

theorem Stands.mlsl (total : Stands sum g) (stands : Stands a f) (fits : ∀ k, IsI16 (f k))
    (factor : IsI16 value) : Stands (vmlslNS16 sum a value) fun k => g k - f k * value :=
  total.sub (stands.mull fits factor)

theorem Stands.shrn {shift : Nat} (stands : Stands sum g) (fits : ∀ k, IsI32 (g k)) :
    Stands (vshrnNS32 shift sum) fun k => g k >>> shift := by
  intro i
  have shifted : (sum i).sshiftRight shift = BitVec.ofInt 32 (g i >>> shift) := by
    apply BitVec.eq_of_toInt_eq
    rw [BitVec.toInt_sshiftRight, stands i, (fits i).toInt, (fits i).shiftRight.toInt]
  rw [vshrnNS32, shifted, ← BitVec.signExtend_eq_setWidth_of_le _ (by decide),
    BitVec.signExtend, (fits i).shiftRight.toInt]

theorem Stands.qmovun (stands : Stands wide f) (fits : ∀ k, IsI16 (f k)) :
    Shows (vqmovunS16 wide) fun k => UInt8.ofNat (saturate 255 (f k)) := by
  intro i
  rw [vqmovunS16, stands i, (fits i).toInt]

end Words

end CameraRs.Lib.Neon

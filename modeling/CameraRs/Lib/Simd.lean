/-
Vector registers as lanes, with the x86 instructions on them as their reference
gives them lane by lane. Lane `0` is the lowest in memory. Loads and stores go
through a slice and panic outside it, where the machine would touch memory that
is not the caller's.

Integer lanes wrap. `Holds` says which integers the lanes stand for modulo `2^32`,
so sums and products need no bound until a shift, a comparison or a saturation
looks at the value.
-/

import CameraRs.Lib.Fill

namespace CameraRs.Lib.Simd

open Fill

variable {σ ε α : Type} {n : Nat}

abbrev Lanes (n : Nat) (α : Type) := Fin n → α

/-- `__m128i` as bytes. -/
abbrev M128 := Lanes 16 UInt8

/-- `__m256i` as bytes. -/
abbrev M256 := Lanes 32 UInt8

/-- `__m256i` as eight 32-bit integers. -/
abbrev I32x8 := Lanes 8 (BitVec 32)

/-! ### Moving bytes -/

/-- `_mm_loadu_si128` and `_mm256_loadu_si256` at `start`. -/
def loadu (n : Nat) (xs : List UInt8) (start : Nat) : Fill σ ε (Lanes n UInt8) := do
  assertThat (start + n ≤ xs.length)
  pure fun i => xs.getD (start + i) 0

/-- `_mm_loadl_epi64`: eight bytes, and zeros above. -/
def loadlEpi64 (xs : List UInt8) (start : Nat) : Fill σ ε M128 := do
  assertThat (start + 8 ≤ xs.length)
  pure fun i => if i.val < 8 then xs.getD (start + i) 0 else 0

/-- `_mm_storeu_si128`, at the front of the slice. -/
def storeuSi128 (a : M128) : Fill (List UInt8) ε Unit :=
  within 0 16 (copyFromSlice (List.ofFn a))

/-- `_mm_storel_epi64` at `start`: the low eight bytes. -/
def storelEpi64 (start : Nat) (a : M128) : Fill (List UInt8) ε Unit :=
  within start (start + 8) (copyFromSlice ((List.ofFn a).take 8))

/-- `_mm_cvtsi128_si32` and an unaligned store of the result: the low four bytes. -/
def storeLow32 (start : Nat) (a : M128) : Fill (List UInt8) ε Unit :=
  within start (start + 4) (copyFromSlice ((List.ofFn a).take 4))

/-- `_mm256_castsi256_si128`. -/
def low (a : Lanes (n + n) α) : Lanes n α := fun i => a (Fin.castAdd n i)

/-- `_mm256_extracti128_si256::<1>`. -/
def high (a : Lanes (n + n) α) : Lanes n α := fun i => a (Fin.natAdd n i)

def setrEpi8 (bytes : List Int) : M128 := fun i => UInt8.ofInt (bytes.getD i 0)

def broadcast (a : M128) : M256 := fun i => a (Fin.ofNat 16 i)

/-- `_mm_shuffle_epi8`: a control byte with its top bit set gives zero, another one
picks the lane in its low four bits. -/
def shuffleEpi8 (a mask : M128) : M128 := fun i =>
  if 128 ≤ (mask i).toNat then 0 else a (Fin.ofNat 16 (mask i).toNat)

/-- `_mm256_shuffle_epi8` shuffles within each half. -/
def shuffleEpi8Wide (a mask : M256) : M256 := fun i =>
  if h : i.val < 16 then shuffleEpi8 (low a) (low mask) ⟨i, h⟩
  else shuffleEpi8 (high a) (high mask) ⟨i - 16, by omega⟩

def unpackloEpi8 (a b : M128) : M128 := fun i =>
  if i.val % 2 = 0 then a (Fin.ofNat 16 (i / 2)) else b (Fin.ofNat 16 (i / 2))

/-- `_mm_unpacklo_epi32`: the low double words of both, in turn. -/
def unpackloEpi32 (a b : M128) : M128 := fun i =>
  if i.val / 4 % 2 = 0 then a (Fin.ofNat 16 (i / 8 * 4 + i % 4))
  else b (Fin.ofNat 16 (i / 8 * 4 + i % 4))

def unpackloEpi64 (a b : M128) : M128 := fun i =>
  if i.val < 8 then a i else b (Fin.ofNat 16 (i - 8))

def srliSi128Eight (a : M128) : M128 := fun i =>
  if h : i.val + 8 < 16 then a ⟨i + 8, h⟩ else 0

def orSi128 (a b : M128) : M128 := fun i => a i ||| b i

/-! ### Integer lanes -/

/-- `_mm256_cvtepu8_epi32`: the low eight bytes. -/
def cvtepu8Epi32 (a : M128) : I32x8 := fun i => BitVec.ofNat 32 (a (Fin.castLE (by decide) i)).toNat

def set1Epi32 (value : Int) : I32x8 := fun _ => BitVec.ofInt 32 value

def addEpi32 (a b : I32x8) : I32x8 := fun i => a i + b i

def subEpi32 (a b : I32x8) : I32x8 := fun i => a i - b i

/-- `_mm256_mullo_epi32`: the low half of each product. -/
def mulloEpi32 (a b : I32x8) : I32x8 := fun i => a i * b i

def sraiEpi32 (shift : Nat) (a : I32x8) : I32x8 := fun i => (a i).sshiftRight shift

/-- `_mm256_max_epi32`, on signed lanes. -/
def maxEpi32 (a b : I32x8) : I32x8 := fun i => if (a i).slt (b i) then b i else a i

/-- `_mm256_min_epi32`, on signed lanes. -/
def minEpi32 (a b : I32x8) : I32x8 := fun i => if (b i).slt (a i) then b i else a i

/-- Signed saturation to `0..=max`. -/
def saturate (max : Nat) (x : Int) : Nat := (min (max : Int) x).toNat

/-- `_mm_packus_epi32`: signed 32-bit lanes saturated to unsigned words. -/
def packusEpi32 (a b : Lanes 4 (BitVec 32)) : Lanes 8 (BitVec 16) := fun i =>
  if i.val < 4 then BitVec.ofNat 16 (saturate 65535 (a (Fin.ofNat 4 i)).toInt)
  else BitVec.ofNat 16 (saturate 65535 (b (Fin.ofNat 4 (i - 4))).toInt)

/-- `_mm_packus_epi16`: signed words saturated to unsigned bytes. -/
def packusEpi16 (a b : Lanes 8 (BitVec 16)) : M128 := fun i =>
  if i.val < 8 then UInt8.ofNat (saturate 255 (a (Fin.ofNat 8 i)).toInt)
  else UInt8.ofNat (saturate 255 (b (Fin.ofNat 8 (i - 8))).toInt)

/-! ### What the bytes of a register are -/

def Reads (n : Nat) (a : M128) (f : Nat → UInt8) : Prop :=
  ∀ i : Fin 16, i.val < n → a i = f i

def ReadsWide (a : M256) (f : Nat → UInt8) : Prop := ∀ i, a i = f i

section Bytes

variable {a b : M128} {wide : M256} {f g : Nat → UInt8} {k : Nat} {s : σ} {xs : List UInt8}
  {start : Nat}

theorem Reads.mono (reads : Reads n a f) (fewer : k ≤ n) : Reads k a f :=
  fun i bound => reads i (by omega)

theorem Reads.congr (reads : Reads n a f) (same : ∀ k, k < n → f k = g k) : Reads n a g :=
  fun i bound => (reads i bound).trans (same i bound)

theorem loadu_returns (room : start + n ≤ xs.length) :
    Returns (loadu n xs start : Fill σ ε _) s (fun i => xs.getD (start + i) 0) s :=
  .bind (.assertThat room) .pure

theorem loadu_reads : Reads 16 (fun i => xs.getD (start + i) 0) fun k => xs.getD (start + k) 0 :=
  fun _ _ => rfl

theorem loadlEpi64_returns (room : start + 8 ≤ xs.length) :
    Returns (loadlEpi64 xs start : Fill σ ε _) s
      (fun i => if i.val < 8 then xs.getD (start + i) 0 else 0) s :=
  .bind (.assertThat room) .pure

theorem loadlEpi64_reads : Reads 8 (fun i => if i.val < 8 then xs.getD (start + i) 0 else 0)
    fun k => xs.getD (start + k) 0 :=
  fun _ bound => if_pos bound

theorem Reads.srli (reads : Reads (n + 8) a f) (inside : n ≤ 8) :
    Reads n (srliSi128Eight a) fun k => f (8 + k) := by
  intro i bound
  rw [srliSi128Eight, dif_pos (by omega)]
  exact (reads _ (by simp only; omega)).trans (congrArg f (Nat.add_comm _ _))

theorem Reads.unpackSelf (reads : Reads 8 a f) :
    Reads 16 (unpackloEpi8 a a) fun k => f (k / 2) := by
  intro i _
  have half : (Fin.ofNat 16 (i.val / 2)).val = i.val / 2 := Nat.mod_eq_of_lt (by omega)
  rw [unpackloEpi8, ite_self, reads _ (by omega), half]

theorem ReadsWide.low (reads : ReadsWide wide f) : Reads 16 (low wide) f :=
  fun _ _ => reads _

theorem ReadsWide.high (reads : ReadsWide wide f) : Reads 16 (high wide) fun k => f (16 + k) :=
  fun _ _ => reads _

private theorem shuffleEpi8_lane {mask : M128} {i : Fin 16} {k : Nat} (control : (mask i).toNat = k)
    (inside : k < 16) : shuffleEpi8 a mask i = a ⟨k, inside⟩ := by
  have lane : Fin.ofNat 16 k = ⟨k, inside⟩ := Fin.ext (Nat.mod_eq_of_lt inside)
  rw [shuffleEpi8, control, if_neg (by omega), lane]

private theorem shuffleEpi8_zero {mask : M128} {i : Fin 16} (control : 128 ≤ (mask i).toNat) :
    shuffleEpi8 a mask i = 0 :=
  if_pos control

theorem Reads.spread {m : Nat} {indices : List Int} {keep : Nat → Bool} {pick : Nat → Nat}
    (reads : Reads m a f)
    (named : ∀ k, k < n →
      if keep k then
        (UInt8.ofInt (indices.getD k 0)).toNat = pick k ∧ pick k < m ∧ pick k < 16
      else 128 ≤ (UInt8.ofInt (indices.getD k 0)).toNat) :
    Reads n (shuffleEpi8 a (setrEpi8 indices)) fun k => if keep k then f (pick k) else 0 := by
  intro i bound
  have control := named i bound
  split at control
  · rename_i kept
    obtain ⟨named, small, inside⟩ := control
    simp only [if_pos kept]
    rw [shuffleEpi8_lane named inside]
    exact reads _ small
  · rename_i cleared
    simp only [if_neg cleared]
    exact shuffleEpi8_zero control

theorem Reads.shuffle {indices : List Int} {pick : Nat → Nat} (reads : Reads 16 a f)
    (named : ∀ k, k < n → (UInt8.ofInt (indices.getD k 0)).toNat = pick k ∧ pick k < 16) :
    Reads n (shuffleEpi8 a (setrEpi8 indices)) fun k => f (pick k) :=
  @Reads.spread n a f 16 indices (fun _ => true) pick reads fun k bound =>
    ⟨(named k bound).1, (named k bound).2, (named k bound).2⟩

theorem Reads.or (left : Reads n a f) (right : Reads n b g) :
    Reads n (orSi128 a b) fun k => f k ||| g k := by
  intro i bound
  rw [orSi128, left i bound, right i bound]

theorem Reads.unpack64 (first : Reads 8 a f) (second : Reads 8 b g) :
    Reads 16 (unpackloEpi64 a b) fun k => if k < 8 then f k else g (k - 8) := by
  intro i _
  simp only [unpackloEpi64]
  split
  · exact first i (by assumption)
  · have lane : (Fin.ofNat 16 (i.val - 8)).val = i.val - 8 := Nat.mod_eq_of_lt (by omega)
    rw [second _ (by omega), lane]

theorem Reads.unpack32 (first : Reads 4 a f) (second : Reads 4 b g) :
    Reads 8 (unpackloEpi32 a b) fun k => if k < 4 then f k else g (k - 4) := by
  intro i bound
  have lane : (Fin.ofNat 16 (i.val / 8 * 4 + i.val % 4)).val = i.val % 4 := by
    rw [Fin.val_ofNat, Nat.mod_eq_of_lt (by omega)]
    omega
  simp only [unpackloEpi32]
  by_cases lower : i.val < 4
  · rw [if_pos (by omega), if_pos lower, first _ (by omega), lane]
    congr 1
    omega
  · rw [if_neg (by omega), if_neg lower, second _ (by omega), lane]
    congr 1
    omega

theorem low_shuffle : low (shuffleEpi8Wide wide (broadcast a)) = shuffleEpi8 (low wide) a := by
  funext i
  have same : low (broadcast a) = a := by
    funext j
    exact congrArg a (Fin.ext (Nat.mod_eq_of_lt j.isLt))
  have place : (Fin.castAdd 16 i).val < 16 := i.isLt
  rw [low, shuffleEpi8Wide, dif_pos place, same]
  rfl

theorem high_shuffle : high (shuffleEpi8Wide wide (broadcast a)) = shuffleEpi8 (high wide) a := by
  funext i
  have same : high (broadcast a) = a := by
    funext j
    have shifted : (Fin.natAdd 16 j).val % 16 = j.val :=
      (Nat.add_mod_left 16 j.val).trans (Nat.mod_eq_of_lt j.isLt)
    exact congrArg a (Fin.ext shifted)
  have place : ¬(Fin.natAdd 16 i).val < 16 := by simp
  have back : (Fin.natAdd 16 i).val - 16 = i.val := Nat.add_sub_cancel_left _ _
  rw [high, shuffleEpi8Wide, dif_neg place, same]
  exact congrArg _ (Fin.ext back)

theorem Reads.ofFn (reads : Reads n a f) (bound : n ≤ 16) :
    (List.ofFn a).take n = (List.range n).map f := by
  apply List.ext_getElem
  · simp [bound]
  · intro k left right
    rw [List.length_map, List.length_range] at right
    rw [List.getElem_take, List.getElem_ofFn, List.getElem_map, List.getElem_range]
    exact reads ⟨k, by omega⟩ right

end Bytes

/-! ### What the integer lanes stand for -/

/-- Lane `i` is the integer `f i`, modulo `2^32`. -/
def Holds (a : I32x8) (f : Fin 8 → Int) : Prop := ∀ i, a i = BitVec.ofInt 32 (f i)

def IsI32 (x : Int) : Prop := -2 ^ 31 ≤ x ∧ x < 2 ^ 31

section Integers

variable {a b : I32x8} {f g : Fin 8 → Int}

theorem IsI32.toInt {x : Int} (fits : IsI32 x) : (BitVec.ofInt 32 x).toInt = x :=
  BitVec.toInt_ofInt_eq_self (by decide) fits.1 fits.2

theorem holds_set1 (value : Int) : Holds (set1Epi32 value) fun _ => value :=
  fun _ => rfl

theorem Reads.holds {bytes : M128} {samples : Nat → UInt8} (reads : Reads 8 bytes samples) :
    Holds (cvtepu8Epi32 bytes) fun i => ((samples i).toNat : Int) := by
  intro i
  rw [cvtepu8Epi32, reads (Fin.castLE (by decide) i) i.isLt, BitVec.ofInt_natCast]
  rfl

theorem Holds.add (left : Holds a f) (right : Holds b g) :
    Holds (addEpi32 a b) fun i => f i + g i := by
  intro i
  rw [addEpi32, left i, right i, BitVec.ofInt_add]

theorem Holds.sub (left : Holds a f) (right : Holds b g) :
    Holds (subEpi32 a b) fun i => f i - g i := by
  intro i
  rw [subEpi32, left i, right i, BitVec.sub_eq_add_neg, ← BitVec.ofInt_neg, ← BitVec.ofInt_add]
  rfl

theorem Holds.mul (left : Holds a f) (right : Holds b g) :
    Holds (mulloEpi32 a b) fun i => f i * g i := by
  intro i
  rw [mulloEpi32, left i, right i, BitVec.ofInt_mul]

theorem IsI32.shiftRight {x : Int} {shift : Nat} (fits : IsI32 x) : IsI32 (x >>> shift) := by
  have step : (1 : Int) ≤ ((2 ^ shift : Nat) : Int) := by exact_mod_cast Nat.one_le_two_pow
  obtain ⟨low, high⟩ := fits
  rw [Int.shiftRight_eq_div_pow]
  constructor
  · refine (Int.le_ediv_iff_mul_le (by omega)).mpr ?_
    nlinarith
  · refine (Int.ediv_lt_iff_lt_mul (by omega)).mpr ?_
    nlinarith

theorem Holds.srai {shift : Nat} (holds : Holds a f) (fits : ∀ i, IsI32 (f i)) :
    Holds (sraiEpi32 shift a) fun i => f i >>> shift := by
  intro i
  apply BitVec.eq_of_toInt_eq
  rw [sraiEpi32, BitVec.toInt_sshiftRight, holds i, (fits i).toInt, (fits i).shiftRight.toInt]

theorem Holds.congr (holds : Holds a f) (same : ∀ i, f i = g i) : Holds a g :=
  fun i => by rw [holds i, same i]

theorem Holds.clamp {low high : Int} (holds : Holds a f) (fits : ∀ i, IsI32 (f i))
    (lowFits : IsI32 low) (highFits : IsI32 high) :
    Holds (minEpi32 (maxEpi32 a (set1Epi32 low)) (set1Epi32 high))
      fun i => min (max (f i) low) high := by
  intro i
  have floor : maxEpi32 a (set1Epi32 low) i = BitVec.ofInt 32 (max (f i) low) := by
    simp only [maxEpi32, holds i, set1Epi32, BitVec.slt_eq_decide, (fits i).toInt, lowFits.toInt,
      decide_eq_true_eq]
    split
    · rw [max_eq_right (by omega)]
    · rw [max_eq_left (by omega)]
  have between : IsI32 (max (f i) low) := by
    rcases max_choice (f i) low with is | is <;> rw [is]
    · exact fits i
    · exact lowFits
  simp only [minEpi32, floor, set1Epi32, BitVec.slt_eq_decide, between.toInt, highFits.toInt,
    decide_eq_true_eq]
  split
  · rw [min_eq_right (by omega)]
  · rw [min_eq_left (by omega)]

theorem Holds.pack {bytes : Nat → UInt8} (holds : Holds a f)
    (small : ∀ i, f i = ((bytes i).toNat : Int)) :
    Reads 8 (packusEpi16 (packusEpi32 (low a) (high a)) (packusEpi32 (low a) (high a)))
      bytes := by
  intro i bound
  have limit := (bytes i.val).toNat_lt
  have lane (j : Fin 8) (at_lane : j.val = i.val) :
      (a j).toInt = (bytes i.val).toNat := by
    rw [holds j, small j, at_lane]
    exact IsI32.toInt ⟨by omega, by omega⟩
  have word : packusEpi32 (low a) (high a) (Fin.ofNat 8 i) =
      BitVec.ofNat 16 (bytes i.val).toNat := by
    have place : (Fin.ofNat 8 i.val).val = i.val := Nat.mod_eq_of_lt bound
    simp only [packusEpi32, low, high, place]
    split
    · rw [lane _ (Nat.mod_eq_of_lt (by assumption))]
      congr 1
      simp only [saturate]
      omega
    · rw [lane _ (by simp only [Fin.val_natAdd, Fin.val_ofNat]; omega)]
      congr 1
      simp only [saturate]
      omega
  have signed : (BitVec.ofNat 16 (bytes i.val).toNat).toInt = (bytes i.val).toNat := by
    rw [← BitVec.ofInt_natCast]
    exact BitVec.toInt_ofInt_eq_self (by decide) (by omega) (by omega)
  rw [packusEpi16, if_pos bound, word, signed]
  have same : saturate 255 ((bytes i.val).toNat : Int) = (bytes i.val).toNat := by
    simp only [saturate]
    omega
  rw [same, UInt8.ofNat_toNat]

end Integers

end CameraRs.Lib.Simd

/-
Rounding to a binary format, on exact values.

A finite number of the format is an integer of bounded size times a power of two. An
operation is the exact one followed by rounding to the nearest such number, ties to the
even integer. Infinities are not represented: a format is used where none arises.
-/

import Mathlib.Algebra.Order.Floor.Ring
import Mathlib.Data.Int.Log
import Mathlib.Data.Rat.Floor
import Mathlib.Tactic.Linarith
import Mathlib.Tactic.Ring

namespace CameraRs.Lib

/-! ### Nearest integers -/

def nearestEven (x : ℚ) : ℤ :=
  if x - ⌊x⌋ < 1 / 2 then ⌊x⌋
  else if 1 / 2 < x - ⌊x⌋ then ⌊x⌋ + 1
  else if ⌊x⌋ % 2 = 0 then ⌊x⌋ else ⌊x⌋ + 1

def nearestAway (x : ℚ) : ℤ := if 0 ≤ x then ⌊x + 1 / 2⌋ else ⌈x - 1 / 2⌉

theorem nearestEven_intCast (n : ℤ) : nearestEven n = n := by
  rw [nearestEven, Int.floor_intCast, sub_self, if_pos (by norm_num)]

theorem nearestEven_floor (x : ℚ) : nearestEven x = ⌊x⌋ ∨ nearestEven x = ⌊x⌋ + 1 := by
  unfold nearestEven
  split
  · exact .inl rfl
  · split
    · exact .inr rfl
    · split
      · exact .inl rfl
      · exact .inr rfl

theorem nearestEven_up {x : ℚ} : nearestEven x = ⌊x⌋ + 1 ↔
    1 / 2 < x - ⌊x⌋ ∨ x - ⌊x⌋ = 1 / 2 ∧ ⌊x⌋ % 2 ≠ 0 := by
  unfold nearestEven
  split
  · next below =>
      have different : ¬⌊x⌋ = ⌊x⌋ + 1 := by omega
      simp only [different, below.not_gt, below.ne, false_and, or_self]
  · next below =>
      split
      · next above => simp only [above, true_or]
      · next above =>
          have half : x - ⌊x⌋ = 1 / 2 := le_antisymm (not_lt.mp above) (not_lt.mp below)
          have different : ¬⌊x⌋ = ⌊x⌋ + 1 := by omega
          split
          · next even => simp [half, even]
          · next odd => simp [half, odd]

theorem nearestEven_mono {x y : ℚ} (le : x ≤ y) : nearestEven x ≤ nearestEven y := by
  have floors : ⌊x⌋ ≤ ⌊y⌋ := Int.floor_mono le
  have least : ⌊y⌋ ≤ nearestEven y := by
    rcases nearestEven_floor y with down | up <;> omega
  rcases nearestEven_floor x with down | up
  · exact down.trans_le (floors.trans least)
  · rcases floors.eq_or_lt with same | less
    · have raised : nearestEven y = ⌊y⌋ + 1 := by
        rw [nearestEven_up, same] at up
        rw [nearestEven_up]
        rcases up with above | ⟨half, odd⟩
        · exact .inl (above.trans_le (sub_le_sub_right le _))
        · rcases le.eq_or_lt with rfl | further
          · exact .inr ⟨half, odd⟩
          · exact .inl (half.symm.trans_lt (sub_lt_sub_right further _))
      rw [up, raised, same]
    · omega

private theorem nearestEven_le {x : ℚ} {n : ℤ} (le : x ≤ n) : nearestEven x ≤ n :=
  (nearestEven_mono le).trans_eq (nearestEven_intCast n)

theorem le_nearestEven {x : ℚ} {n : ℤ} (le : n ≤ x) : n ≤ nearestEven x :=
  (nearestEven_intCast n).symm.trans_le (nearestEven_mono le)

/-! ### A format -/

/-- The numbers `m * 2 ^ k` with `m` of at most `digits` bits and `k` from `least` on. -/
structure BinaryFormat where
  digits : ℕ
  least : ℤ
deriving DecidableEq, Repr

namespace BinaryFormat

/-- The power of two whose multiples are looked at around a value. -/
def exponent (format : BinaryFormat) (x : ℚ) : ℤ :=
  max (Int.log 2 |x| + 1 - format.digits) format.least

def round (format : BinaryFormat) (x : ℚ) : ℚ :=
  nearestEven (x / 2 ^ format.exponent x) * 2 ^ format.exponent x

variable {format : BinaryFormat} {x y : ℚ}

theorem power_pos (k : ℤ) : (0 : ℚ) < 2 ^ k := zpow_pos (by norm_num) k

theorem power_le {j k : ℤ} (le : j ≤ k) : (2 : ℚ) ^ j ≤ 2 ^ k :=
  zpow_le_zpow_right₀ (by norm_num) le

theorem power_add (j k : ℤ) : (2 : ℚ) ^ (j + k) = 2 ^ j * 2 ^ k := zpow_add₀ (by norm_num) j k

private theorem lt_exponent (positive : 0 < x) : x < 2 ^ (format.exponent x + format.digits) := by
  have bound := Int.lt_zpow_succ_log_self Nat.one_lt_two x
  have enough : Int.log 2 x + 1 ≤ format.exponent x + format.digits := by
    rw [exponent, abs_of_pos positive]
    omega
  exact bound.trans_le (power_le enough)

private theorem exponent_le (positive : 0 < x) (above : format.least < format.exponent x) :
    2 ^ (format.exponent x + format.digits - 1) ≤ x := by
  have bound := Int.zpow_log_le_self Nat.one_lt_two positive
  have first : format.exponent x + format.digits - 1 = Int.log 2 x := by
    rw [exponent, abs_of_pos positive] at above ⊢
    omega
  rwa [first]

theorem exponent_mono (positive : 0 < x) (le : x ≤ y) : format.exponent x ≤ format.exponent y := by
  have logs : Int.log 2 x ≤ Int.log 2 y := Int.log_mono_right positive le
  rw [exponent, exponent, abs_of_pos positive, abs_of_pos (positive.trans_le le)]
  omega

theorem round_zero : format.round 0 = 0 := by
  rw [round, zero_div]
  have none : nearestEven 0 = 0 := nearestEven_intCast 0
  rw [none, Int.cast_zero, zero_mul]

private theorem round_nonneg (nonneg : 0 ≤ x) : 0 ≤ format.round x := by
  have scaled : ((0 : ℤ) : ℚ) ≤ x / 2 ^ format.exponent x := by
    rw [Int.cast_zero]
    exact div_nonneg nonneg (power_pos _).le
  have integer : 0 ≤ nearestEven (x / 2 ^ format.exponent x) := le_nearestEven scaled
  exact mul_nonneg (by exact_mod_cast integer) (power_pos _).le

private theorem round_le_power (positive : 0 < x) :
    format.round x ≤ 2 ^ (format.exponent x + format.digits) := by
  have scaled : x / 2 ^ format.exponent x ≤ ((2 ^ format.digits : ℤ) : ℚ) := by
    rw [div_le_iff₀ (power_pos _)]
    push_cast
    rw [← zpow_natCast, ← power_add, add_comm]
    exact (lt_exponent positive).le
  have integer : nearestEven (x / 2 ^ format.exponent x) ≤ 2 ^ format.digits :=
    nearestEven_le scaled
  rw [power_add, mul_comm, zpow_natCast]
  exact mul_le_mul_of_nonneg_right (by exact_mod_cast integer) (power_pos _).le

private theorem power_le_round (positive : 0 < x) (some_digits : 0 < format.digits)
    (above : format.least < format.exponent x) :
    2 ^ (format.exponent x + format.digits - 1) ≤ format.round x := by
  have scaled : ((2 ^ (format.digits - 1) : ℤ) : ℚ) ≤ x / 2 ^ format.exponent x := by
    rw [le_div_iff₀ (power_pos _)]
    push_cast
    rw [← zpow_natCast, ← power_add, Nat.cast_sub some_digits, add_comm, ← add_sub_assoc]
    exact exponent_le positive above
  have integer : 2 ^ (format.digits - 1) ≤ nearestEven (x / 2 ^ format.exponent x) :=
    le_nearestEven scaled
  rw [add_sub_assoc, power_add, mul_comm]
  have same : (2 : ℚ) ^ ((format.digits : ℤ) - 1) = 2 ^ (format.digits - 1) := by
    rw [← zpow_natCast, Nat.cast_sub some_digits, Nat.cast_one]
  rw [same]
  exact mul_le_mul_of_nonneg_right (by exact_mod_cast integer) (power_pos _).le

theorem round_mono (some_digits : 0 < format.digits) (nonneg : 0 ≤ x) (le : x ≤ y) :
    format.round x ≤ format.round y := by
  rcases nonneg.eq_or_lt with zero | positive
  · rw [← zero, round_zero]
    exact round_nonneg (nonneg.trans le)
  · have exponents : format.exponent x ≤ format.exponent y := exponent_mono positive le
    rcases exponents.eq_or_lt with same | less
    · rw [round, round, same]
      have scaled : x / 2 ^ format.exponent y ≤ y / 2 ^ format.exponent y :=
        div_le_div_of_nonneg_right le (power_pos _).le
      exact mul_le_mul_of_nonneg_right (Int.cast_le.mpr (nearestEven_mono scaled))
        (power_pos _).le
    · have above : format.least < format.exponent y := (le_max_right _ _).trans_lt less
      calc format.round x ≤ 2 ^ (format.exponent x + format.digits) := round_le_power positive
        _ ≤ 2 ^ (format.exponent y + format.digits - 1) := power_le (by omega)
        _ ≤ format.round y := power_le_round (positive.trans_le le) some_digits above

theorem round_exact {m k : ℤ} (nonneg : 0 ≤ m) (small : m < 2 ^ format.digits)
    (least : format.least ≤ k) : format.round (m * 2 ^ k) = m * 2 ^ k := by
  rcases nonneg.eq_or_lt with zero | positive
  · rw [← zero, Int.cast_zero, zero_mul, round_zero]
  · have value_pos : (0 : ℚ) < m * 2 ^ k := mul_pos (Int.cast_pos.mpr positive) (power_pos k)
    have fits : (m * 2 ^ k : ℚ) < ((2 : ℕ) : ℚ) ^ (format.digits + k : ℤ) := by
      rw [Nat.cast_ofNat, power_add, zpow_natCast]
      exact mul_lt_mul_of_pos_right (by exact_mod_cast small) (power_pos k)
    have logs := (Int.lt_zpow_iff_log_lt Nat.one_lt_two value_pos).mp fits
    have below : format.exponent (m * 2 ^ k) ≤ k := by
      rw [exponent, abs_of_pos value_pos]
      omega
    obtain ⟨n, shift⟩ := Int.eq_ofNat_of_zero_le (sub_nonneg.mpr below)
    have integer : (m * 2 ^ k : ℚ) / 2 ^ format.exponent (m * 2 ^ k) = ((m * 2 ^ n : ℤ) : ℚ) := by
      rw [mul_div_assoc, ← zpow_sub₀ (by norm_num), shift]
      push_cast
      rw [zpow_natCast]
    rw [round, integer, nearestEven_intCast, ← integer, div_mul_cancel₀ _ (power_pos _).ne']

end BinaryFormat

end CameraRs.Lib

/-
Frame rates as reduced fractions.

The loop of `FrameRate::new` is Euclid's and ends with the greatest common divisor. Two rates
are then equal as records, in the order of cross products and as rational numbers, all at once.
-/

import CameraRs.Config
import Mathlib.Algebra.Order.Field.Basic
import Mathlib.Data.Rat.Cast.Order

namespace CameraRs.FrameRate

/-- One turn of the loop: `let r = a % b; a = b; b = r`. -/
def turn (state : UInt32 × UInt32) : UInt32 × UInt32 := (state.2, state.1 % state.2)

structure Ends (a b : UInt32) (turns : Nat) (divisor : UInt32) : Prop where
  stops : turn^[turns] (a, b) = (divisor, 0)
  runs : ∀ k < turns, (turn^[k] (a, b)).2 ≠ 0

/-- `Ord::cmp`, in `u64`. -/
def cmp (rate other : FrameRate) : Ordering :=
  compare (rate.numerator.toUInt64 * other.denominator.toUInt64)
    (other.numerator.toUInt64 * rate.denominator.toUInt64)

def value (rate : FrameRate) : ℚ := rate.numerator.toNat / rate.denominator.toNat

/-- What `new` makes of a fraction. -/
structure Reduces (a b : UInt32) (rate : FrameRate) : Prop where
  loop : ∃ turns divisor, Ends a b turns divisor ∧
    rate = { numerator := a / divisor, denominator := b / divisor }
  coprime : rate.numerator.toNat.Coprime rate.denominator.toNat
  value : rate.value = a.toNat / b.toNat

/-- The cross products fit, and comparing them compares the rationals. -/
structure Ordered (rate other : FrameRate) : Prop where
  products : rate.numerator.toNat * other.denominator.toNat < 2 ^ 64 ∧
    other.numerator.toNat * rate.denominator.toNat < 2 ^ 64
  lt : rate.cmp other = .lt ↔ rate.value < other.value
  eq : rate.cmp other = .eq ↔ rate.value = other.value
  gt : rate.cmp other = .gt ↔ other.value < rate.value
  same : rate.cmp other = .eq ↔ rate = other

/-! ### The loop -/

theorem Ends.next {a b divisor : UInt32} {turns : Nat} (nonzero : b ≠ 0)
    (rest : Ends b (a % b) turns divisor) : Ends a b (turns + 1) divisor where
  stops := rest.stops
  runs := by
    intro k within
    cases k with
    | zero => exact nonzero
    | succ k => exact rest.runs k (Nat.lt_of_succ_lt_succ within)

private theorem ends_gcd (a b : UInt32) :
    ∃ turns, Ends a b turns (UInt32.ofNat (Nat.gcd a.toNat b.toNat)) := by
  induction size : b.toNat using Nat.strong_induction_on generalizing a b with
  | _ size ih =>
      subst size
      by_cases zero : b = 0
      · subst zero
        refine ⟨0, ?_, fun k within => absurd within (Nat.not_lt_zero k)⟩
        rw [UInt32.toNat_zero, Nat.gcd_zero_right, UInt32.ofNat_toNat]
        rfl
      · have smaller : (a % b).toNat < b.toNat := by
          rw [UInt32.toNat_mod]
          exact Nat.mod_lt _ (toNat_pos zero)
        obtain ⟨turns, rest⟩ := ih _ smaller b (a % b) rfl
        refine ⟨turns + 1, .next zero ?_⟩
        rw [Nat.gcd_comm a.toNat, Nat.gcd_rec, Nat.gcd_comm, ← UInt32.toNat_mod]
        exact rest

/-! ### Reduction -/

variable {numerator denominator a b c d : UInt32} {rate other : FrameRate}

theorem new_ok (n : numerator ≠ 0) (d : denominator ≠ 0) :
    ∃ rate, FrameRate.new numerator denominator = .ok rate := by
  rw [FrameRate.new, if_neg (by simp [n, d])]
  exact ⟨_, rfl⟩

theorem new_divided (made : FrameRate.new numerator denominator = .ok rate) :
    0 < Nat.gcd numerator.toNat denominator.toNat ∧
      rate.numerator.toNat = numerator.toNat / Nat.gcd numerator.toNat denominator.toNat ∧
      rate.denominator.toNat = denominator.toNat / Nat.gcd numerator.toNat denominator.toNat := by
  unfold FrameRate.new at made
  split at made
  · cases made
  · next positive =>
      obtain rfl := Except.ok.inj made
      have n : 0 < numerator.toNat := toNat_pos (not_or.mp positive).1
      have small : Nat.gcd numerator.toNat denominator.toNat < 2 ^ 32 :=
        lt_of_le_of_lt (Nat.gcd_le_left _ n) numerator.toNat_lt
      refine ⟨Nat.gcd_pos_of_pos_left _ n, ?_, ?_⟩
      · rw [UInt32.toNat_div, UInt32.toNat_ofNat_of_lt' small]
      · rw [UInt32.toNat_div, UInt32.toNat_ofNat_of_lt' small]

theorem new_reduced (made : FrameRate.new numerator denominator = .ok rate) :
    ∃ divisor, 0 < divisor ∧ rate.numerator.toNat * divisor = numerator.toNat ∧
      rate.denominator.toNat * divisor = denominator.toNat := by
  obtain ⟨positive, n, d⟩ := new_divided made
  refine ⟨_, positive, ?_, ?_⟩
  · rw [n]
    exact Nat.div_mul_cancel (Nat.gcd_dvd_left _ _)
  · rw [d]
    exact Nat.div_mul_cancel (Nat.gcd_dvd_right _ _)

theorem new_coprime (made : FrameRate.new numerator denominator = .ok rate) :
    rate.numerator.toNat.Coprime rate.denominator.toNat := by
  obtain ⟨positive, n, d⟩ := new_divided made
  rw [n, d]
  exact Nat.coprime_div_gcd_div_gcd positive

theorem new_positive (made : FrameRate.new numerator denominator = .ok rate) :
    rate.numerator ≠ 0 ∧ rate.denominator ≠ 0 := by
  obtain ⟨divisor, -, n, d⟩ := new_reduced made
  unfold FrameRate.new at made
  split at made
  · cases made
  · next positive =>
    rw [not_or, ← UInt32.toNat_inj, ← UInt32.toNat_inj, ← n, ← d] at positive
    constructor
    · intro zero
      exact positive.1 (by simp [zero])
    · intro zero
      exact positive.2 (by simp [zero])

theorem new_again (made : FrameRate.new numerator denominator = .ok rate) :
    FrameRate.new rate.numerator rate.denominator = .ok rate := by
  have positive := new_positive made
  have coprime : Nat.gcd rate.numerator.toNat rate.denominator.toNat = 1 := new_coprime made
  have whole (x : UInt32) : x / UInt32.ofNat 1 = x := by
    rw [← UInt32.toNat_inj, UInt32.toNat_div]
    exact Nat.div_one _
  rw [FrameRate.new, if_neg (by simp [positive]), coprime]
  dsimp only
  rw [whole, whole]

/-! ### Values -/

theorem value_new (made : FrameRate.new numerator denominator = .ok rate) :
    rate.value = numerator.toNat / denominator.toNat := by
  obtain ⟨divisor, positive, n, d⟩ := new_reduced made
  have nonzero : (divisor : ℚ) ≠ 0 := (Nat.cast_pos.mpr positive).ne'
  rw [value, ← n, ← d]
  push_cast
  rw [mul_div_mul_right _ _ nonzero]

theorem value_inj (made : FrameRate.new a b = .ok rate) (made' : FrameRate.new c d = .ok other)
    (same : rate.value = other.value) : rate = other := by
  have first : (0 : ℤ) < rate.denominator.toNat :=
    Int.natCast_pos.mpr (toNat_pos (new_positive made).2)
  have second : (0 : ℤ) < other.denominator.toNat :=
    Int.natCast_pos.mpr (toNat_pos (new_positive made').2)
  have numbers := @Rat.div_int_inj rate.numerator.toNat rate.denominator.toNat
    other.numerator.toNat other.denominator.toNat first second (new_coprime made)
    (new_coprime made') same
  rw [Int.natCast_inj, Int.natCast_inj, UInt32.toNat_inj, UInt32.toNat_inj] at numbers
  exact congrArg₂ FrameRate.mk numbers.1 numbers.2

theorem div_eq_div_iff_cross (b_ne : b ≠ 0) (d_ne : d ≠ 0) :
    (a.toNat / b.toNat : ℚ) = c.toNat / d.toNat ↔ a.toNat * d.toNat = b.toNat * c.toNat := by
  have first : (b.toNat : ℚ) ≠ 0 := Nat.cast_ne_zero.mpr (toNat_pos b_ne).ne'
  have second : (d.toNat : ℚ) ≠ 0 := Nat.cast_ne_zero.mpr (toNat_pos d_ne).ne'
  rw [div_eq_div_iff first second, mul_comm (c.toNat : ℚ), ← Nat.cast_mul, ← Nat.cast_mul,
    Nat.cast_inj]

/-! ### The order -/

theorem product_lt (x y : UInt32) : x.toNat * y.toNat < 2 ^ 64 :=
  calc
    x.toNat * y.toNat ≤ (2 ^ 32 - 1) * (2 ^ 32 - 1) :=
      Nat.mul_le_mul (Nat.le_sub_one_of_lt x.toNat_lt) (Nat.le_sub_one_of_lt y.toNat_lt)
    _ < 2 ^ 64 := by decide

theorem toNat_product (x y : UInt32) :
    (x.toUInt64 * y.toUInt64).toNat = x.toNat * y.toNat := by
  rw [UInt64.toNat_mul, UInt32.toNat_toUInt64, UInt32.toNat_toUInt64,
    Nat.mod_eq_of_lt (product_lt x y)]

theorem cmp_lt_iff : rate.cmp other = .lt ↔
    rate.numerator.toNat * other.denominator.toNat <
      other.numerator.toNat * rate.denominator.toNat := by
  rw [← toNat_product, ← toNat_product, ← UInt64.lt_iff_toNat_lt]
  exact compareOfLessAndEq_eq_lt

theorem cmp_eq_iff : rate.cmp other = .eq ↔
    rate.numerator.toNat * other.denominator.toNat =
      other.numerator.toNat * rate.denominator.toNat := by
  rw [← toNat_product, ← toNat_product, UInt64.toNat_inj]
  exact compareOfLessAndEq_eq_eq (fun x => UInt64.le_refl x) UInt64.not_le

theorem cmp_gt_iff : rate.cmp other = .gt ↔
    other.numerator.toNat * rate.denominator.toNat <
      rate.numerator.toNat * other.denominator.toNat := by
  have less := @cmp_lt_iff rate other
  have equal := @cmp_eq_iff rate other
  cases answer : rate.cmp other with
  | lt =>
      have below := less.mp answer
      simp only [reduceCtorEq, false_iff]
      omega
  | eq =>
      have same := equal.mp answer
      simp only [reduceCtorEq, false_iff]
      omega
  | gt =>
      rw [answer] at less equal
      simp only [reduceCtorEq, false_iff] at less equal
      simp only [true_iff]
      omega

theorem value_lt_iff (positive : rate.denominator ≠ 0) (positive' : other.denominator ≠ 0) :
    rate.value < other.value ↔ rate.numerator.toNat * other.denominator.toNat <
      other.numerator.toNat * rate.denominator.toNat := by
  have first : (0 : ℚ) < rate.denominator.toNat := Nat.cast_pos.mpr (toNat_pos positive)
  have second : (0 : ℚ) < other.denominator.toNat := Nat.cast_pos.mpr (toNat_pos positive')
  rw [value, value, div_lt_div_iff₀ first second, ← Nat.cast_mul, ← Nat.cast_mul, Nat.cast_lt]

theorem reduces_new (made : FrameRate.new a b = .ok rate) : Reduces a b rate where
  loop := by
    obtain ⟨turns, ends⟩ := ends_gcd a b
    unfold FrameRate.new at made
    split at made
    · contradiction
    · exact ⟨turns, _, ends, (Except.ok.inj made).symm⟩
  coprime := new_coprime made
  value := value_new made

private theorem ordered_new (made : FrameRate.new a b = .ok rate)
    (made' : FrameRate.new c d = .ok other) : Ordered rate other := by
  have positive := (new_positive made).2
  have positive' := (new_positive made').2
  have equal : rate.cmp other = .eq ↔ rate.value = other.value := by
    rw [cmp_eq_iff, value, value, div_eq_div_iff_cross positive positive',
      Nat.mul_comm rate.denominator.toNat]
  exact
    { products := ⟨product_lt _ _, product_lt _ _⟩
      lt := cmp_lt_iff.trans (value_lt_iff positive positive').symm
      eq := equal
      gt := cmp_gt_iff.trans (value_lt_iff positive' positive).symm
      same := equal.trans ⟨value_inj made made', congrArg value⟩ }

/-- Fractions become the same rate exactly when they are equal. A rate is reduced by a loop
that ends, and rates are ordered as rational numbers. -/
theorem canonical (positive : a ≠ 0 ∧ b ≠ 0) (positive' : c ≠ 0 ∧ d ≠ 0) :
    ∃ rate other, FrameRate.new a b = .ok rate ∧ FrameRate.new c d = .ok other ∧
      Reduces a b rate ∧ Reduces c d other ∧
      (rate = other ↔ a.toNat * d.toNat = b.toNat * c.toNat) ∧ Ordered rate other := by
  obtain ⟨rate, made⟩ := new_ok positive.1 positive.2
  obtain ⟨other, made'⟩ := new_ok positive'.1 positive'.2
  refine ⟨rate, other, made, made', reduces_new made, reduces_new made', ?_,
    ordered_new made made'⟩
  calc
    rate = other ↔ rate.value = other.value := ⟨congrArg value, value_inj made made'⟩
    _ ↔ (a.toNat / b.toNat : ℚ) = c.toNat / d.toNat := by rw [value_new made, value_new made']
    _ ↔ a.toNat * d.toNat = b.toNat * c.toNat := div_eq_div_iff_cross positive.2 positive'.2

theorem canonical_ntsc :
    ∃ rate other, FrameRate.new 60000 2002 = .ok rate ∧ FrameRate.new 30000 1001 = .ok other ∧
      Reduces 60000 2002 rate ∧ Reduces 30000 1001 other ∧
      (rate = other ↔ (60000 : UInt32).toNat * (1001 : UInt32).toNat =
        (2002 : UInt32).toNat * (30000 : UInt32).toNat) ∧ Ordered rate other :=
  canonical (by decide) (by decide)

end CameraRs.FrameRate

/-
Frame intervals of a V4L2 device, and the test whether a rate is one of them.

A descriptor has seven 32-bit numbers. The interval of a rate is compared with its bounds
by cross-multiplication, and a step is looked for by a remainder, all in 128-bit integers.
-/

import CameraRs.Negotiation.Ranking
import Mathlib.Algebra.Order.Field.Basic
import Mathlib.Data.Rat.Cast.Order
import Mathlib.Tactic.FieldSimp
import Mathlib.Tactic.LinearCombination

namespace CameraRs.V4l2

/-- `native::Interval`. Kind 1 is discrete and kind 2 continuous; all others have steps. -/
structure Interval where
  kind : UInt32 := 0
  minN : UInt32 := 0
  minD : UInt32 := 0
  maxN : UInt32 := 0
  maxD : UInt32 := 0
  stepN : UInt32 := 0
  stepD : UInt32 := 0
deriving DecidableEq, Repr

/-- The result of an `i128` operation; `none` is an overflow. -/
def i128 (value : Int) : Option Int :=
  if -2 ^ 127 ≤ value ∧ value < 2 ^ 127 then some value else none

def intervalSupports (interval : Interval) (rate : FrameRate) : Option Bool :=
  if interval.minN = 0 ∨ interval.minD = 0 ∨ interval.maxN = 0 ∨ interval.maxD = 0 then
    some false
  else do
    let targetN : Int := rate.denominator.toNat
    let targetD : Int := rate.numerator.toNat
    let minN : Int := interval.minN.toNat
    let minD : Int := interval.minD.toNat
    let maxN : Int := interval.maxN.toNat
    let maxD : Int := interval.maxD.toNat
    let target ← i128 (targetN * minD)
    let least ← i128 (minN * targetD)
    if target < least then some false
    else do
      let reach ← i128 (targetN * maxD)
      let most ← i128 (maxN * targetD)
      if reach > most then some false
      else if interval.kind = 1 then some (target == least)
      else if interval.kind = 2 then some true
      else if interval.stepN = 0 ∨ interval.stepD = 0 then some false
      else do
        let deltaN ← i128 (target - least)
        let deltaD ← i128 (targetD * minD)
        let scaledDelta ← i128 (deltaN * interval.stepD.toNat)
        let scaledStep ← i128 (deltaD * interval.stepN.toNat)
        some (scaledStep != 0 && scaledDelta.tmod scaledStep == 0)

namespace Interval

variable (interval : Interval)

def min : ℚ := interval.minN.toNat / interval.minD.toNat

def max : ℚ := interval.maxN.toNat / interval.maxD.toNat

def step : ℚ := interval.stepN.toNat / interval.stepD.toNat

/-- The bounds are fractions that are not zero. -/
def Bounded : Prop :=
  interval.minN ≠ 0 ∧ interval.minD ≠ 0 ∧ interval.maxN ≠ 0 ∧ interval.maxD ≠ 0

instance : Decidable interval.Bounded := inferInstanceAs (Decidable (_ ∧ _))

structure Describes (duration : ℚ) : Prop where
  bounded : interval.Bounded
  least : interval.min ≤ duration
  most : duration ≤ interval.max
  discrete : interval.kind = 1 → duration = interval.min
  stepwise : interval.kind ≠ 1 → interval.kind ≠ 2 → interval.stepN ≠ 0 ∧ interval.stepD ≠ 0 ∧
    ∃ k : ℕ, duration = interval.min + k * interval.step

end Interval

def duration (rate : FrameRate) : ℚ := rate.denominator.toNat / rate.numerator.toNat

/-! ### Cross products -/

section Fractions

variable {a b c d e f : Nat}

theorem fraction_le (b_pos : 0 < b) (d_pos : 0 < d) : (a / b : ℚ) ≤ c / d ↔ a * d ≤ c * b := by
  rw [div_le_div_iff₀ (Nat.cast_pos.mpr b_pos) (Nat.cast_pos.mpr d_pos)]
  exact_mod_cast Iff.rfl

theorem fraction_eq (b_pos : 0 < b) (d_pos : 0 < d) : (a / b : ℚ) = c / d ↔ a * d = c * b := by
  rw [div_eq_div_iff (Nat.cast_pos.mpr b_pos).ne' (Nat.cast_pos.mpr d_pos).ne']
  exact_mod_cast Iff.rfl

theorem fraction_steps (b_pos : 0 < b) (d_pos : 0 < d) (f_pos : 0 < f) (above : c * b ≤ a * d) :
    (∃ k : ℕ, (a / b : ℚ) = c / d + k * (e / f)) ↔ b * d * e ∣ (a * d - c * b) * f := by
  have b_ne : (b : ℚ) ≠ 0 := (Nat.cast_pos.mpr b_pos).ne'
  have d_ne : (d : ℚ) ≠ 0 := (Nat.cast_pos.mpr d_pos).ne'
  have f_ne : (f : ℚ) ≠ 0 := (Nat.cast_pos.mpr f_pos).ne'
  have each (k : ℕ) : (a / b : ℚ) = c / d + k * (e / f) ↔
      (a * d - c * b) * f = b * d * e * k := by
    have lifted : ((a * d - c * b : ℕ) : ℚ) = a * d - c * b := by
      rw [Nat.cast_sub above]
      push_cast
      rfl
    rw [← @Nat.cast_inj ℚ]
    push_cast [lifted]
    constructor
    · intro same
      field_simp at same
      linear_combination same
    · intro same
      field_simp
      linear_combination same
  constructor
  · rintro ⟨k, same⟩
    exact ⟨k, (each k).mp same⟩
  · rintro ⟨k, same⟩
    exact ⟨k, (each k).mpr same⟩

end Fractions

theorem i128_fits {α : Type} {value : Nat} (small : value < 2 ^ 127) (rest : Int → Option α) :
    (i128 value >>= rest) = rest value := by
  rw [i128, if_pos ⟨by omega, by exact_mod_cast small⟩]
  rfl

theorem product_lt (x y : UInt32) : x.toNat * y.toNat < 2 ^ 64 := by
  have left := x.toNat_lt
  have right := y.toNat_lt
  calc x.toNat * y.toNat < 2 ^ 32 * 2 ^ 32 := Nat.mul_lt_mul'' left right
    _ = 2 ^ 64 := by norm_num

private theorem i128_product {α : Type} (x y : UInt32) (rest : Int → Option α) :
    (i128 ((x.toNat : Int) * y.toNat) >>= rest) = rest (x.toNat * y.toNat : ℕ) := by
  rw [← Nat.cast_mul]
  exact i128_fits ((product_lt x y).trans (by norm_num)) rest

theorem i128_scaled {α : Type} {d : Nat} (fits : d < 2 ^ 64) (x : UInt32)
    (rest : Int → Option α) :
    (i128 ((d : Int) * x.toNat) >>= rest) = rest (d * x.toNat : ℕ) := by
  have right := x.toNat_lt
  have small : d * x.toNat < 2 ^ 127 :=
    calc d * x.toNat < 2 ^ 64 * 2 ^ 32 := Nat.mul_lt_mul'' fits right
      _ ≤ 2 ^ 127 := by norm_num
  rw [← Nat.cast_mul]
  exact i128_fits small rest

/-- The stages of the test, on natural numbers. -/
structure Passes (interval : Interval) (rate : FrameRate) : Prop where
  bounded : interval.Bounded
  least : interval.minN.toNat * rate.numerator.toNat ≤
    rate.denominator.toNat * interval.minD.toNat
  most : rate.denominator.toNat * interval.maxD.toNat ≤
    interval.maxN.toNat * rate.numerator.toNat
  discrete : interval.kind = 1 → rate.denominator.toNat * interval.minD.toNat =
    interval.minN.toNat * rate.numerator.toNat
  stepwise : interval.kind ≠ 1 → interval.kind ≠ 2 → interval.stepN ≠ 0 ∧ interval.stepD ≠ 0 ∧
    rate.numerator.toNat * interval.minD.toNat * interval.stepN.toNat ∣
      (rate.denominator.toNat * interval.minD.toNat -
        interval.minN.toNat * rate.numerator.toNat) * interval.stepD.toNat

private theorem step_remainder {distance scale deltaD stepN : Nat} (positive : 0 < deltaD * stepN) :
    (((deltaD * stepN : ℕ) : Int) != 0 &&
      ((distance * scale : ℕ) : Int).tmod ((deltaD * stepN : ℕ) : Int) == 0) = true ↔
      deltaD * stepN ∣ distance * scale := by
  have nonzero : ((deltaD * stepN : ℕ) : Int) ≠ 0 := by omega
  rw [Bool.and_eq_true, bne_iff_ne, beq_iff_eq, ← Int.dvd_iff_tmod_eq_zero,
    Int.natCast_dvd_natCast]
  exact and_iff_right nonzero

theorem passes_iff {interval : Interval} {rate : FrameRate} (bounded : interval.Bounded)
    (least : interval.minN.toNat * rate.numerator.toNat ≤
      rate.denominator.toNat * interval.minD.toNat)
    (most : rate.denominator.toNat * interval.maxD.toNat ≤
      interval.maxN.toNat * rate.numerator.toNat) :
    Passes interval rate ↔
      (interval.kind = 1 → rate.denominator.toNat * interval.minD.toNat =
        interval.minN.toNat * rate.numerator.toNat) ∧
      (interval.kind ≠ 1 → interval.kind ≠ 2 → interval.stepN ≠ 0 ∧ interval.stepD ≠ 0 ∧
        rate.numerator.toNat * interval.minD.toNat * interval.stepN.toNat ∣
          (rate.denominator.toNat * interval.minD.toNat -
            interval.minN.toNat * rate.numerator.toNat) * interval.stepD.toNat) :=
  ⟨fun passes => ⟨passes.discrete, passes.stepwise⟩,
    fun holds => ⟨bounded, least, most, holds.1, holds.2⟩⟩

private theorem intervalSupports_passes (interval : Interval) {rate : FrameRate}
    (positive : rate.numerator ≠ 0) :
    ∃ answer, intervalSupports interval rate = some answer ∧
      (answer = true ↔ Passes interval rate) := by
  by_cases bounded : interval.Bounded
  · have ok : ¬(interval.minN = 0 ∨ interval.minD = 0 ∨ interval.maxN = 0 ∨
        interval.maxD = 0) := by
      obtain ⟨minN, minD, maxN, maxD⟩ := bounded
      simp [minN, minD, maxN, maxD]
    rw [intervalSupports, if_neg ok]
    simp only [i128_product, Nat.cast_lt, gt_iff_lt]
    split
    · next less =>
        exact ⟨false, rfl, by simp, fun passes => absurd passes.least (Nat.not_le.mpr less)⟩
    · next least =>
        split
        · next more =>
            exact ⟨false, rfl, by simp, fun passes => absurd passes.most (Nat.not_le.mpr more)⟩
        · next most =>
            have least := Nat.not_lt.mp least
            rw [passes_iff bounded least (Nat.not_lt.mp most)]
            split
            · next discrete =>
                refine ⟨_, rfl, ?_⟩
                rw [beq_iff_eq, Nat.cast_inj]
                exact ⟨fun same => ⟨fun _ => same, fun ranged => absurd discrete ranged⟩,
                  fun holds => holds.1 discrete⟩
            · next ranged =>
                split
                · next continuous => exact ⟨true, rfl, by simp [continuous]⟩
                · next stepwise =>
                    split
                    · next zero =>
                        refine ⟨false, rfl, ?_⟩
                        rcases zero with zero | zero <;> simp [ranged, stepwise, zero]
                    · next step =>
                        rw [not_or] at step
                        have near : rate.denominator.toNat * interval.minD.toNat -
                            interval.minN.toNat * rate.numerator.toNat < 2 ^ 64 :=
                          (Nat.sub_le _ _).trans_lt (product_lt _ _)
                        have some_step : 0 < rate.numerator.toNat * interval.minD.toNat *
                            interval.stepN.toNat :=
                          Nat.mul_pos (Nat.mul_pos (toNat_pos positive)
                            (toNat_pos bounded.2.1)) (toNat_pos step.1)
                        rw [← Nat.cast_sub least, i128_fits (near.trans (by norm_num)),
                          i128_scaled near, i128_scaled (product_lt _ _)]
                        refine ⟨_, rfl, (step_remainder some_step).trans ?_⟩
                        simp [ranged, stepwise, step]
  · have zero : interval.minN = 0 ∨ interval.minD = 0 ∨ interval.maxN = 0 ∨
        interval.maxD = 0 := by
      by_contra none
      simp only [not_or] at none
      exact bounded ⟨none.1, none.2.1, none.2.2.1, none.2.2.2⟩
    refine ⟨false, by rw [intervalSupports, if_pos zero], by simp, ?_⟩
    intro passes
    exact absurd passes.bounded bounded

theorem passes_describes {interval : Interval} {rate : FrameRate} (positive : rate.numerator ≠ 0) :
    Passes interval rate ↔ interval.Describes (duration rate) := by
  have rate_pos := toNat_pos positive
  constructor
  · intro passes
    have minD := toNat_pos passes.bounded.2.1
    have maxD := toNat_pos passes.bounded.2.2.2
    exact
      { bounded := passes.bounded
        least := (fraction_le minD rate_pos).mpr passes.least
        most := (fraction_le rate_pos maxD).mpr passes.most
        discrete := fun one => (fraction_eq rate_pos minD).mpr (passes.discrete one)
        stepwise := fun one two => by
          obtain ⟨stepN, stepD, divides⟩ := passes.stepwise one two
          exact ⟨stepN, stepD, (fraction_steps rate_pos minD (toNat_pos stepD)
            passes.least).mpr divides⟩ }
  · intro described
    have minD := toNat_pos described.bounded.2.1
    have maxD := toNat_pos described.bounded.2.2.2
    have least := (fraction_le minD rate_pos).mp described.least
    exact
      { bounded := described.bounded
        least := least
        most := (fraction_le rate_pos maxD).mp described.most
        discrete := fun one => (fraction_eq rate_pos minD).mp (described.discrete one)
        stepwise := fun one two => by
          obtain ⟨stepN, stepD, steps⟩ := described.stepwise one two
          exact ⟨stepN, stepD, (fraction_steps rate_pos minD (toNat_pos stepD)
            least).mp steps⟩ }

/-- The test is exact: nothing overflows, and it accepts a rate when its duration is one of
the intervals that are described. -/
theorem interval_supports_exact (interval : Interval) {numerator denominator : UInt32}
    {rate : FrameRate} (made : FrameRate.new numerator denominator = .ok rate) :
    ∃ answer, intervalSupports interval rate = some answer ∧
      (answer = true ↔ interval.Describes (duration rate)) := by
  have positive := (FrameRate.new_positive made).1
  obtain ⟨answer, same, passes⟩ := intervalSupports_passes interval positive
  exact ⟨answer, same, passes.trans (passes_describes positive)⟩

/-- Thirty frames in 1.001 seconds, a step away from the shortest interval. -/
theorem interval_supports_exact_stepwise :
    ∃ answer, intervalSupports ⟨3, 1001, 60000, 1001, 15000, 1001, 60000⟩ ⟨30000, 1001⟩ =
        some answer ∧
      (answer = true ↔ Interval.Describes ⟨3, 1001, 60000, 1001, 15000, 1001, 60000⟩
        (duration ⟨30000, 1001⟩)) :=
  interval_supports_exact _ (by decide : FrameRate.new 30000 1001 = .ok ⟨30000, 1001⟩)

end CameraRs.V4l2

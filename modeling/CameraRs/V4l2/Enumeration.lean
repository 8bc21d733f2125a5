/-
The modes that the V4L2 backend offers, against the tests it makes of a mode.

The sizes of a range are filtered with the test itself. The rates of a range are not: the
two ends are offered whatever the step, and the common rates are aligned in floating point.
-/

import CameraRs.Lib.Rounding
import CameraRs.V4l2.Intervals

namespace CameraRs

open Lib

/-- `f64`. The rates and durations are far from the ends of its range. -/
def f64 : BinaryFormat := ⟨53, -1074⟩

/-- `FrameRate::as_f64`; both numbers are exact. -/
def FrameRate.asF64 (rate : FrameRate) : ℚ :=
  f64.round (rate.numerator.toNat / rate.denominator.toNat)

namespace V4l2

/-! ### The source -/

/-- `native::Size`, with the kinds of `Interval`. -/
structure Size where
  kind : UInt32 := 0
  minW : UInt32 := 0
  maxW : UInt32 := 0
  stepW : UInt32 := 0
  minH : UInt32 := 0
  maxH : UInt32 := 0
  stepH : UInt32 := 0
deriving DecidableEq, Repr

def commonSizes : List (UInt32 × UInt32) :=
  [(320, 240), (640, 480), (800, 600), (1024, 768), (1280, 720), (1280, 960), (1920, 1080),
    (2560, 1440), (3840, 2160)]

namespace Size

/-- The width and height are inside the bounds. -/
def inside (size : Size) (w h : UInt32) : Bool :=
  w ≥ size.minW && w ≤ size.maxW && h ≥ size.minH && h ≤ size.maxH

def aligned (size : Size) (w h : UInt32) : Bool :=
  (w - size.minW) % max size.stepW 1 == 0 && (h - size.minH) % max size.stepH 1 == 0

def offer (size : Size) (result : List (UInt32 × UInt32)) (d : UInt32 × UInt32) :
    List (UInt32 × UInt32) :=
  if size.inside d.1 d.2 && size.aligned d.1 d.2 && !result.contains d then result ++ [d]
  else result

end Size

def dimensions (size : Size) : List (UInt32 × UInt32) :=
  ((size.minW, size.minH) :: (size.maxW, size.maxH) :: commonSizes).foldl size.offer []

def sizeSupports (size : Size) (width height : UInt32) : Bool :=
  size.inside width height && (size.kind == 2 || size.aligned width height)

def commonRates : List UInt32 := [1, 5, 10, 15, 24, 25, 30, 50, 60, 90, 120, 240, 480]

def reciprocal (x : ℚ) : ℚ := f64.round (1 / x)

/-- The test on the duration of a common rate. -/
def outside (fastest slowest : FrameRate) (fps : UInt32) : Bool :=
  reciprocal fps.toNat < reciprocal fastest.asF64 ||
    reciprocal fps.toNat > reciprocal slowest.asF64

/-- The block that looks for a whole number of steps. -/
def nearStep (interval : Interval) (fastest : FrameRate) (fps : UInt32) : Bool :=
  interval.stepN > 0 && interval.stepD > 0 &&
    let step := f64.round (interval.stepN.toNat / interval.stepD.toNat)
    let distance := f64.round (reciprocal fps.toNat - reciprocal fastest.asF64)
    let steps := f64.round (distance / step)
    |f64.round (steps - nearestAway steps)| < f64.round (1 / 10 ^ 8)

/-- What the loop does with a common rate, whose `unwrap` succeeds. -/
def offer (interval : Interval) (fastest slowest : FrameRate) (rates : List FrameRate)
    (fps : UInt32) : List FrameRate :=
  if outside fastest slowest fps then rates
  else if interval.kind == 2 || nearStep interval fastest fps then
    match FrameRate.new fps 1 with
    | .ok rate => if rates.contains rate then rates else rates ++ [rate]
    | .error _ => rates
  else rates

def intervalRates (interval : Interval) : List FrameRate :=
  match FrameRate.new interval.minD interval.minN, FrameRate.new interval.maxD interval.maxN with
  | .ok fastest, .ok slowest =>
      if interval.kind = 1 then [fastest]
      else
        let rates := commonRates.foldl (offer interval fastest slowest) [slowest, fastest]
        rates.insertionSort fun a b => b.atLeast a = true
  | _, _ => []

variable {size : Size} {interval : Interval} {fastest slowest rate : FrameRate} {fps : UInt32}
  {d : UInt32 × UInt32}

/-! ### Sizes -/

def Size.Supported (size : Size) (result : List (UInt32 × UInt32)) : Prop :=
  ∀ d ∈ result, sizeSupports size d.1 d.2 = true

theorem Size.Supported.offer {result : List (UInt32 × UInt32)} (before : size.Supported result)
    (next : UInt32 × UInt32) : size.Supported (size.offer result next) := by
  intro d member
  unfold Size.offer at member
  split at member
  · next passed =>
      rcases List.mem_append.mp member with old | new
      · exact before d old
      · obtain rfl := List.mem_singleton.mp new
        simp only [Bool.and_eq_true] at passed
        simp [sizeSupports, passed.1.1, passed.1.2]
  · exact before d member

private theorem dimensions_supported (size : Size) : size.Supported (dimensions size) :=
  List.foldlRecOn (motive := size.Supported) _ _ (by simp [Size.Supported])
    fun _ before next _ => before.offer next

/-! ### Rates -/

/-- A common rate that the loop takes. -/
def taken (interval : Interval) (fastest slowest : FrameRate) (fps : UInt32) : Prop :=
  outside fastest slowest fps = false ∧
    (interval.kind = 2 ∨ nearStep interval fastest fps = true)

theorem mem_offer {rates : List FrameRate} : rate ∈ offer interval fastest slowest rates fps ↔
    rate ∈ rates ∨ taken interval fastest slowest fps ∧ FrameRate.new fps 1 = .ok rate := by
  unfold offer taken
  split
  · next away => simp [away]
  · next near =>
      rw [Bool.not_eq_true] at near
      split
      · next aligned =>
          have accepted : interval.kind = 2 ∨ nearStep interval fastest fps = true := by
            simpa using aligned
          cases made : FrameRate.new fps 1 with
          | error e => simp
          | ok new =>
              simp only [near, accepted, true_and, Except.ok.injEq]
              split
              · next there =>
                  rw [List.contains_iff_mem] at there
                  constructor
                  · exact .inl
                  · rintro (old | rfl)
                    · exact old
                    · exact there
              · simp [eq_comm]
      · next unaligned =>
          have refused : ¬(interval.kind = 2 ∨ nearStep interval fastest fps = true) := by
            simpa using unaligned
          simp [refused]

private theorem mem_offers {rates : List FrameRate} {offers : List UInt32} :
    rate ∈ offers.foldl (offer interval fastest slowest) rates ↔
      rate ∈ rates ∨
        ∃ fps ∈ offers, taken interval fastest slowest fps ∧ FrameRate.new fps 1 = .ok rate := by
  induction offers generalizing rates with
  | nil => simp
  | cons first rest ih => simp [ih, mem_offer, or_assoc]

/-! ### The floating-point bounds are exact -/

section Bounds

variable {a b f : ℕ}

theorem f64_mono {x y : ℚ} (nonneg : 0 ≤ x) (le : x ≤ y) : f64.round x ≤ f64.round y :=
  BinaryFormat.round_mono (by decide) nonneg le

theorem f64_exact {m : ℤ} {k : ℕ} (nonneg : 0 ≤ m) (small : m < 2 ^ 53) (few : k ≤ 1074) :
    f64.round (m / 2 ^ k) = m / 2 ^ k := by
  have same : (m / 2 ^ k : ℚ) = m * 2 ^ (-(k : ℤ)) := by
    rw [zpow_neg, zpow_natCast, div_eq_mul_inv]
  rw [same]
  exact BinaryFormat.round_exact nonneg small (neg_le_neg (by exact_mod_cast few))

theorem f64_lt_of_gap {x y : ℚ} (nonneg : 0 ≤ x) (le_one : x ≤ 1) (gap : x + 1 / 2 ^ 51 ≤ y) :
    f64.round x < f64.round y := by
  have nonnegative : (0 : ℤ) ≤ ⌈x * 2 ^ 52⌉ := Int.ceil_nonneg (by positivity)
  have most : ⌈x * 2 ^ 52⌉ ≤ 2 ^ 52 := by
    rw [Int.ceil_le]
    push_cast
    linarith
  have above : x ≤ (⌈x * 2 ^ 52⌉ : ℤ) / 2 ^ 52 := by
    rw [le_div_iff₀ (by norm_num)]
    exact Int.le_ceil _
  have below : ((⌈x * 2 ^ 52⌉ + 1 : ℤ) : ℚ) / 2 ^ 52 ≤ y := by
    have near := Int.ceil_lt_add_one (x * 2 ^ 52)
    rw [div_le_iff₀ (by norm_num)]
    push_cast
    linarith
  calc f64.round x ≤ f64.round ((⌈x * 2 ^ 52⌉ : ℤ) / 2 ^ 52) := f64_mono nonneg above
    _ = (⌈x * 2 ^ 52⌉ : ℤ) / 2 ^ 52 := f64_exact nonnegative (by omega) (by decide)
    _ < ((⌈x * 2 ^ 52⌉ + 1 : ℤ) : ℚ) / 2 ^ 52 := by
        rw [div_lt_div_iff_of_pos_right (by norm_num)]
        push_cast
        linarith
    _ = f64.round (((⌈x * 2 ^ 52⌉ + 1 : ℤ) : ℚ) / 2 ^ 52) :=
        (f64_exact (by omega) (by omega) (by decide)).symm
    _ ≤ f64.round y := f64_mono (by positivity) below

theorem reciprocal_lt {x y : ℚ} (one_le : 1 ≤ y) (positive : 0 < x) (apart : x + 1 / 2 ^ 32 ≤ y)
    (bounded : x * y ≤ 2 ^ 19) : reciprocal y < reciprocal x := by
  apply f64_lt_of_gap (by positivity)
  · exact (div_le_one (by linarith)).mpr one_le
  · have y_pos : 0 < y := by linarith
    have product_pos : 0 < x * y := mul_pos positive y_pos
    have difference : 1 / x - 1 / y = (y - x) / (x * y) := by
      field_simp
    have least : (1 / 2 ^ 51 : ℚ) ≤ (y - x) / (x * y) := by
      rw [le_div_iff₀ product_pos]
      linarith
    linarith

theorem reciprocal_le {x y : ℚ} (positive : 0 < x) (le : x ≤ y) :
    reciprocal y ≤ reciprocal x :=
  f64_mono (one_div_nonneg.mpr (positive.le.trans le)) (one_div_le_one_div_of_le positive le)

theorem f64_rate (few : f ≤ 480) : f64.round f = f := by
  have small : ((f : ℕ) : ℤ) < 2 ^ 53 := by omega
  have whole := @f64_exact f 0 (Int.natCast_nonneg f) small (by decide)
  simpa using whole

theorem f64_fraction_pos (a_pos : 0 < a) (b_pos : 0 < b) (small : b < 2 ^ 32) :
    0 < f64.round (a / b) := by
  have b_cast : (0 : ℚ) < b := Nat.cast_pos.mpr b_pos
  have least : ((1 : ℤ) : ℚ) / 2 ^ 32 ≤ a / b := by
    rw [div_le_div_iff₀ (by norm_num) b_cast]
    have bound : (b : ℚ) < 2 ^ 32 := by exact_mod_cast small
    have whole : (1 : ℚ) ≤ a := by exact_mod_cast a_pos
    push_cast
    nlinarith
  calc (0 : ℚ) < ((1 : ℤ) : ℚ) / 2 ^ 32 := by norm_num
    _ = f64.round (((1 : ℤ) : ℚ) / 2 ^ 32) := (f64_exact (by decide) (by decide) (by decide)).symm
    _ ≤ f64.round (a / b) := f64_mono (by norm_num) least

variable (one_le : 1 ≤ f) (few : f ≤ 480) (b_pos : 0 < b) (small : b < 2 ^ 32)
include one_le few b_pos small

private theorem reciprocal_lt_iff (a_pos : 0 < a) :
    reciprocal f < reciprocal (f64.round (a / b)) ↔ a < f * b := by
  have b_cast : (0 : ℚ) < b := Nat.cast_pos.mpr b_pos
  have f_cast : (1 : ℚ) ≤ f := by exact_mod_cast one_le
  have f_few : (f : ℚ) ≤ 480 := by exact_mod_cast few
  have positive := f64_fraction_pos a_pos b_pos small
  constructor
  · contrapose!
    intro least
    have fraction : (f : ℚ) ≤ a / b := by
      rw [le_div_iff₀ b_cast]
      exact_mod_cast least
    have rounded : (f : ℚ) ≤ f64.round (a / b) := by
      rw [← f64_rate few]
      exact f64_mono (by linarith) fraction
    exact reciprocal_le (by linarith) rounded
  · intro less
    have apart : (a / b : ℚ) ≤ ((f * 2 ^ 32 - 1 : ℤ) : ℚ) / 2 ^ 32 := by
      have whole : (a : ℚ) + 1 ≤ f * b := by exact_mod_cast less
      have bound : (b : ℚ) ≤ 2 ^ 32 := by exact_mod_cast small.le
      rw [div_le_div_iff₀ b_cast (by norm_num)]
      push_cast
      linarith
    have rounded : f64.round (a / b) ≤ ((f * 2 ^ 32 - 1 : ℤ) : ℚ) / 2 ^ 32 := by
      rw [← f64_exact (by omega) (by omega) (by decide)]
      exact f64_mono (by positivity) apart
    push_cast at rounded
    have below : f64.round (a / b) + 1 / 2 ^ 32 ≤ f := by linarith
    have bounded : f64.round (a / b) * f ≤ 2 ^ 19 := by nlinarith
    exact reciprocal_lt f_cast positive below bounded

private theorem lt_reciprocal_iff (a_pos : 0 < a) :
    reciprocal (f64.round (a / b)) < reciprocal f ↔ f * b < a := by
  have b_cast : (0 : ℚ) < b := Nat.cast_pos.mpr b_pos
  have f_cast : (1 : ℚ) ≤ f := by exact_mod_cast one_le
  have f_few : (f : ℚ) ≤ 480 := by exact_mod_cast few
  have positive := f64_fraction_pos a_pos b_pos small
  constructor
  · contrapose!
    intro most
    have fraction : (a / b : ℚ) ≤ f := by
      rw [div_le_iff₀ b_cast]
      exact_mod_cast most
    have rounded : f64.round (a / b) ≤ f := by
      rw [← f64_rate few]
      exact f64_mono (by positivity) fraction
    exact reciprocal_le positive rounded
  · intro more
    have apart : ((f * 2 ^ 32 + 1 : ℤ) : ℚ) / 2 ^ 32 ≤ (a / b : ℚ) := by
      have whole : (f : ℚ) * b + 1 ≤ a := by exact_mod_cast more
      have bound : (b : ℚ) ≤ 2 ^ 32 := by exact_mod_cast small.le
      rw [div_le_div_iff₀ (by norm_num) b_cast]
      push_cast
      linarith
    have rounded : ((f * 2 ^ 32 + 1 : ℤ) : ℚ) / 2 ^ 32 ≤ f64.round (a / b) := by
      rw [← f64_exact (by omega) (by omega) (by decide)]
      exact f64_mono (by positivity) apart
    have further : (0 : ℚ) < ((f * 2 ^ 32 + 1 : ℤ) : ℚ) / 2 ^ 32 := by positivity
    have mark : ((f * 2 ^ 32 + 1 : ℤ) : ℚ) / 2 ^ 32 = f + 1 / 2 ^ 32 := by
      push_cast
      ring
    refine (reciprocal_le further rounded).trans_lt ?_
    rw [mark]
    exact reciprocal_lt (by linarith) (by linarith) (le_refl _) (by nlinarith)

end Bounds

/-! ### What the rates are worth -/

section Rates

variable {n d : UInt32}

theorem asF64_new (made : FrameRate.new n d = .ok rate) :
    rate.asF64 = f64.round (n.toNat / d.toNat) ∧ duration rate = d.toNat / n.toNat := by
  obtain ⟨divisor, positive, same_n, same_d⟩ := FrameRate.new_reduced made
  have nonzero : (divisor : ℚ) ≠ 0 := (Nat.cast_pos.mpr positive).ne'
  rw [FrameRate.asF64, duration, ← same_n, ← same_d]
  push_cast
  rw [mul_div_mul_right _ _ nonzero, mul_div_mul_right _ _ nonzero]
  exact ⟨rfl, rfl⟩

theorem supports_iff (made : FrameRate.new n d = .ok rate) :
    intervalSupports interval rate = some true ↔ interval.Describes (d.toNat / n.toNat) := by
  obtain ⟨answer, same, exact_answer⟩ := interval_supports_exact interval made
  rw [same, Option.some.injEq, exact_answer, (asF64_new made).2]

private theorem common_small : ∀ fps ∈ commonRates, 1 ≤ fps.toNat ∧ fps.toNat ≤ 480 := by
  have each : commonRates.all (fun fps => decide (1 ≤ fps.toNat ∧ fps.toNat ≤ 480)) = true := by
    decide
  intro fps member
  exact of_decide_eq_true (List.all_eq_true.mp each fps member)

theorem common_new : ∀ fps ∈ commonRates, FrameRate.new fps 1 = .ok ⟨fps, 1⟩ := by
  have each : commonRates.all (fun fps => decide (FrameRate.new fps 1 = .ok ⟨fps, 1⟩)) = true := by
    decide
  intro fps member
  exact of_decide_eq_true (List.all_eq_true.mp each fps member)

structure Ends (interval : Interval) (fastest slowest : FrameRate) : Prop where
  bounded : interval.Bounded
  fast : FrameRate.new interval.minD interval.minN = .ok fastest
  slow : FrameRate.new interval.maxD interval.maxN = .ok slowest

theorem Ends.outside_iff (ends : Ends interval fastest slowest) (common : fps ∈ commonRates) :
    outside fastest slowest fps = false ↔
      interval.min ≤ 1 / fps.toNat ∧ 1 / fps.toNat ≤ interval.max := by
  obtain ⟨one_le, few⟩ := common_small fps common
  have fps_pos : (0 : ℚ) < fps.toNat := Nat.cast_pos.mpr one_le
  obtain ⟨minN, minD, maxN, maxD⟩ := ends.bounded
  have minD_pos : (0 : ℚ) < interval.minD.toNat := Nat.cast_pos.mpr (toNat_pos minD)
  have maxD_pos : (0 : ℚ) < interval.maxD.toNat := Nat.cast_pos.mpr (toNat_pos maxD)
  rw [outside, (asF64_new ends.fast).1, (asF64_new ends.slow).1, Bool.or_eq_false_iff,
    decide_eq_false_iff_not, decide_eq_false_iff_not, gt_iff_lt,
    reciprocal_lt_iff one_le few (toNat_pos minN) interval.minN.toNat_lt
      (toNat_pos minD),
    lt_reciprocal_iff one_le few (toNat_pos maxN) interval.maxN.toNat_lt
      (toNat_pos maxD), not_lt, not_lt, Interval.min, Interval.max,
    div_le_div_iff₀ minD_pos fps_pos, div_le_div_iff₀ fps_pos maxD_pos, one_mul, one_mul,
    mul_comm fps.toNat, mul_comm fps.toNat]
  exact_mod_cast Iff.rfl

theorem Ends.mem_rates (ends : Ends interval fastest slowest) (ranged : interval.kind ≠ 1) :
    rate ∈ intervalRates interval ↔ rate = slowest ∨ rate = fastest ∨
      ∃ fps ∈ commonRates, taken interval fastest slowest fps ∧ rate = ⟨fps, 1⟩ := by
  have made : ∀ fps ∈ commonRates, FrameRate.new fps 1 = .ok rate ↔ rate = ⟨fps, 1⟩ := by
    intro fps common
    rw [common_new fps common, Except.ok.injEq, eq_comm]
  rw [intervalRates, ends.fast, ends.slow]
  simp only [if_neg ranged]
  rw [(List.perm_insertionSort _ _).mem_iff, mem_offers]
  simp only [List.mem_cons, List.not_mem_nil, or_false, or_assoc]
  constructor
  · rintro (slow | fast | ⟨fps, common, takes, same⟩)
    · exact .inl slow
    · exact .inr (.inl fast)
    · exact .inr (.inr ⟨fps, common, takes, (made fps common).mp same⟩)
  · rintro (slow | fast | ⟨fps, common, takes, same⟩)
    · exact .inl slow
    · exact .inr (.inl fast)
    · exact .inr (.inr ⟨fps, common, takes, (made fps common).mpr same⟩)

/-- A stepwise interval whose longest duration is on a step, and with it every common rate
between the ends that the floating-point test takes for one. -/
structure Stepped (interval : Interval) : Prop where
  step : interval.stepN ≠ 0 ∧ interval.stepD ≠ 0
  longest : ∃ k : ℕ, interval.max = interval.min + k * interval.step
  common : ∀ fps ∈ commonRates, interval.min ≤ 1 / fps.toNat → 1 / fps.toNat ≤ interval.max →
    (∃ fastest, FrameRate.new interval.minD interval.minN = .ok fastest ∧
      nearStep interval fastest fps = true) →
    ∃ k : ℕ, (1 / fps.toNat : ℚ) = interval.min + k * interval.step

def Regular (interval : Interval) : Prop :=
  interval.Bounded → interval.kind = 1 ∨ interval.kind = 2 ∨ Stepped interval

theorem Ends.supported (ends : Ends interval fastest slowest)
    (ordered : interval.min ≤ interval.max) (ranged : interval.kind ≠ 1)
    (regular : interval.kind = 2 ∨ Stepped interval) (offered : rate ∈ intervalRates interval) :
    intervalSupports interval rate = some true := by
  have described (duration : ℚ) (least : interval.min ≤ duration) (most : duration ≤ interval.max)
      (steps : interval.kind ≠ 2 → Stepped interval →
        ∃ k : ℕ, duration = interval.min + k * interval.step) : interval.Describes duration :=
    { bounded := ends.bounded
      least := least
      most := most
      discrete := fun one => absurd one ranged
      stepwise := fun _ two => by
        have stepped := regular.resolve_left two
        exact ⟨stepped.step.1, stepped.step.2, steps two stepped⟩ }
  rcases (ends.mem_rates ranged).mp offered with rfl | rfl | ⟨fps, common, takes, rfl⟩
  · rw [supports_iff ends.slow]
    exact described _ ordered (le_refl _) fun _ => Stepped.longest
  · rw [supports_iff ends.fast]
    exact described _ (le_refl _) ordered fun _ _ => ⟨0, by simp [Interval.min]⟩
  · rw [supports_iff (common_new fps common), UInt32.toNat_one, Nat.cast_one]
    obtain ⟨least, most⟩ := (ends.outside_iff common).mp takes.1
    refine described _ least most fun two stepped => stepped.common fps common least most ?_
    exact ⟨fastest, ends.fast, takes.2.resolve_left two⟩

theorem Ends.stepped (ends : Ends interval fastest slowest) (ranged : interval.kind ≠ 1)
    (two : interval.kind ≠ 2)
    (passes : ∀ rate ∈ intervalRates interval, intervalSupports interval rate = some true) :
    Stepped interval := by
  have longest := passes slowest ((ends.mem_rates ranged).mpr (.inl rfl))
  rw [supports_iff ends.slow] at longest
  obtain ⟨stepN, stepD, steps⟩ := longest.stepwise ranged two
  refine ⟨⟨stepN, stepD⟩, steps, ?_⟩
  intro fps common least most near
  obtain ⟨first, made, aligned⟩ := near
  obtain rfl : first = fastest := Except.ok.inj (made.symm.trans ends.fast)
  have takes : taken interval first slowest fps :=
    ⟨(ends.outside_iff common).mpr ⟨least, most⟩, .inr aligned⟩
  have offered : (⟨fps, 1⟩ : FrameRate) ∈ intervalRates interval :=
    (ends.mem_rates ranged).mpr (.inr (.inr ⟨fps, common, takes, rfl⟩))
  have passed := passes _ offered
  rw [supports_iff (common_new fps common), UInt32.toNat_one, Nat.cast_one] at passed
  exact (passed.stepwise ranged two).2.2

private theorem ends_of_bounded (bounded : interval.Bounded) :
    ∃ fastest slowest, Ends interval fastest slowest := by
  obtain ⟨minN, minD, maxN, maxD⟩ := bounded
  obtain ⟨fastest, fast⟩ := FrameRate.new_ok minD minN
  obtain ⟨slowest, slow⟩ := FrameRate.new_ok maxD maxN
  exact ⟨fastest, slowest, ⟨minN, minD, maxN, maxD⟩, fast, slow⟩

private theorem rates_unbounded (unbounded : ¬interval.Bounded) : intervalRates interval = [] := by
  unfold intervalRates
  split
  · next fastest slowest fast slow =>
      refine absurd ⟨?_, ?_, ?_, ?_⟩ unbounded
      all_goals
        rintro zero
        simp [FrameRate.new, zero] at fast slow
  · rfl

private theorem rates_supported_iff (ordered : interval.Bounded → interval.min ≤ interval.max) :
    (∀ rate ∈ intervalRates interval, intervalSupports interval rate = some true) ↔
      Regular interval := by
  by_cases bounded : interval.Bounded
  · obtain ⟨fastest, slowest, ends⟩ := ends_of_bounded bounded
    by_cases discrete : interval.kind = 1
    · refine iff_of_true ?_ fun _ => .inl discrete
      intro rate offered
      rw [intervalRates, ends.fast, ends.slow] at offered
      simp only [if_pos discrete, List.mem_singleton] at offered
      rw [offered, supports_iff ends.fast]
      exact
        { bounded := bounded
          least := le_refl _
          most := ordered bounded
          discrete := fun _ => rfl
          stepwise := fun ranged => absurd discrete ranged }
    · constructor
      · intro passes _
        by_cases two : interval.kind = 2
        · exact .inr (.inl two)
        · exact .inr (.inr (ends.stepped discrete two passes))
      · intro regular rate
        exact ends.supported (ordered bounded) discrete ((regular bounded).resolve_left discrete)
  · refine iff_of_true ?_ fun there => absurd there bounded
    rw [rates_unbounded bounded]
    intro rate member
    cases member

end Rates

/-! ### Offered modes -/

/-- What is offered for two descriptors passes the tests. -/
def Advertises (size : Size) (interval : Interval) : Prop :=
  (∀ d ∈ dimensions size, sizeSupports size d.1 d.2 = true) ∧
    ∀ rate ∈ intervalRates interval, intervalSupports interval rate = some true

theorem advertised_supported_iff (size : Size) (interval : Interval)
    (ordered : interval.Bounded → interval.min ≤ interval.max) :
    Advertises size interval ↔ Regular interval := by
  rw [Advertises, rates_supported_iff ordered]
  exact and_iff_right (dimensions_supported size)

/-- From a thirtieth to an eighth of a second in steps of a thirtieth. -/
def unaligned : Interval := ⟨3, 1, 30, 1, 8, 1, 30⟩

theorem unaligned_ordered : unaligned.Bounded → unaligned.min ≤ unaligned.max := by
  intro _
  show (1 : ℕ) / (30 : ℕ) ≤ ((1 : ℕ) / (8 : ℕ) : ℚ)
  norm_num

/-- From a thirtieth to a tenth of a second in steps of a thirtieth. -/
def aligned : Interval := ⟨3, 1, 30, 1, 10, 1, 30⟩

private theorem aligned_ordered : aligned.Bounded → aligned.min ≤ aligned.max := by
  intro _
  decide +kernel

private theorem aligned_regular : Regular aligned := by
  refine fun _ => .inr (.inr ⟨by decide, ⟨2, by decide +kernel⟩, ?_⟩)
  rintro fps common least most ⟨fastest, made, near⟩
  obtain rfl := Except.ok.inj (made.symm.trans (rfl : FrameRate.new 30 1 = .ok ⟨30, 1⟩))
  have steps : (commonRates.all fun fps =>
      decide (aligned.min ≤ 1 / fps.toNat ∧ 1 / fps.toNat ≤ aligned.max ∧
          nearStep aligned ⟨30, 1⟩ fps = true) == false ||
        [0, 1, 2].any fun (k : ℕ) =>
          decide ((1 / fps.toNat : ℚ) = aligned.min + k * aligned.step)) = true := by
    decide +kernel
  have here := List.all_eq_true.mp steps fps common
  rw [decide_eq_true ⟨least, most, near⟩, Bool.or_eq_true, List.any_eq_true] at here
  obtain ⟨k, -, same⟩ := here.resolve_left (by decide)
  exact ⟨k, of_decide_eq_true same⟩

/-- The rates of the aligned descriptor pass. -/
theorem advertised_supported_aligned :
    Advertises {} aligned ∧ (Advertises {} unaligned ↔ Regular unaligned) :=
  ⟨(advertised_supported_iff {} aligned aligned_ordered).mpr aligned_regular,
    advertised_supported_iff {} unaligned unaligned_ordered⟩

/-- The longest duration is offered as a rate and refused by the test. -/
theorem not_always_supported :
    ¬∀ size interval, (interval.Bounded → interval.min ≤ interval.max) →
      Advertises size interval := by
  intro always
  have ends : Ends unaligned ⟨30, 1⟩ ⟨8, 1⟩ := ⟨by decide, by decide, by decide⟩
  have offered : (⟨8, 1⟩ : FrameRate) ∈ intervalRates unaligned :=
    (ends.mem_rates (by decide)).mpr (.inl rfl)
  have passed := (always {} unaligned unaligned_ordered).2 _ offered
  have refused : intervalSupports unaligned ⟨8, 1⟩ = some false := by decide
  rw [refused] at passed
  contradiction

end V4l2

end CameraRs

/-
Fixed-point colour: the coefficient vector of a known matrix and range, and the
pixel it gives. The source computes the vector in `f64`; every entry is far
enough from a rounding boundary that exact rationals give the same integers.
-/

import CameraRs.Format
import CameraRs.Lib.Fill
import Mathlib.Data.Rat.Floor

namespace CameraRs

open Lib

/-- `[cy, cr, gu, gv, cb, offset]`. -/
structure Coefficients where
  cy : Int
  cr : Int
  gu : Int
  gv : Int
  cb : Int
  offset : Int
deriving DecidableEq, Repr

def bt601FullCoefficients : Coefficients := ⟨1024, 1436, 352, 731, 1815, 0⟩

/-- `f64::round` of a nonnegative number. -/
def roundHalfUp (x : Rat) : Int := (x + 1 / 2).floor

/-- `(kr, kb)` of a matrix. -/
def ColorMatrix.weights : ColorMatrix → Option (Rat × Rat)
  | .bt601 => some (299 / 1000, 114 / 1000)
  | .bt709 => some (2126 / 10000, 722 / 10000)
  | .bt2020 => some (2627 / 10000, 593 / 10000)
  | .smpte240M => some (212 / 1000, 87 / 1000)
  | .unknown => none

/-- `(sy, sc, offset)` of a range. -/
def ColorRange.scales : ColorRange → Option (Rat × Rat × Int)
  | .full => some (1, 1, 0)
  | .limited => some (255 / 219, 255 / 224, 16)
  | .unknown => none

def coefficientsOf (matrix : ColorMatrix) (range : ColorRange) : CameraResult Coefficients :=
  if matrix = .bt601 ∧ range = .full then
    .ok bt601FullCoefficients
  else
    match matrix.weights with
    | none =>
        .error (.unsupportedFormat "YUV color matrix is unknown; supply a color override")
    | some (kr, kb) =>
        match range.scales with
        | none =>
            .error
              (.unsupportedFormat "YUV quantization range is unknown; supply a color override")
        | some (sy, sc, offset) =>
            let kg := 1 - kr - kb
            .ok
              { cy := roundHalfUp (sy * 1024)
                cr := roundHalfUp ((2 - 2 * kr) * sc * 1024)
                gu := roundHalfUp ((2 - 2 * kb) * kb / kg * sc * 1024)
                gv := roundHalfUp ((2 - 2 * kr) * kr / kg * sc * 1024)
                cb := roundHalfUp ((2 - 2 * kb) * sc * 1024)
                offset := offset }

def colorCoefficients (color : ColorInfo) : CameraResult Coefficients :=
  coefficientsOf color.matrix color.range

example : colorCoefficients { matrix := .bt2020, range := .limited } =
    .ok ⟨1192, 1719, 192, 666, 2193, 16⟩ := by decide +kernel

/-- Neither the matrix nor the range is left open. -/
def ColorInfo.IsKnown (color : ColorInfo) : Prop :=
  color.matrix ≠ .unknown ∧ color.range ≠ .unknown

theorem colorCoefficients_ok {color : ColorInfo} :
    (∃ c, colorCoefficients color = .ok c) ↔ color.IsKnown := by
  obtain ⟨matrix, range, primaries, transfer⟩ := color
  unfold colorCoefficients ColorInfo.IsKnown coefficientsOf
  cases matrix <;> cases range <;> simp [ColorMatrix.weights, ColorRange.scales]

/-- Vectors that `color_coefficients` returns. -/
def Coefficients.Configured (c : Coefficients) : Prop :=
  ∃ color, colorCoefficients color = .ok c

structure Coefficients.Small (c : Coefficients) : Prop where
  cy : 0 ≤ c.cy ∧ c.cy ≤ 4096
  cr : 0 ≤ c.cr ∧ c.cr ≤ 4096
  gu : 0 ≤ c.gu ∧ c.gu ≤ 4096
  gv : 0 ≤ c.gv ∧ c.gv ≤ 4096
  cb : 0 ≤ c.cb ∧ c.cb ≤ 4096
  offset : 0 ≤ c.offset ∧ c.offset ≤ 16

instance (c : Coefficients) : Decidable c.Small :=
  decidable_of_iff ((0 ≤ c.cy ∧ c.cy ≤ 4096) ∧ (0 ≤ c.cr ∧ c.cr ≤ 4096) ∧
      (0 ≤ c.gu ∧ c.gu ≤ 4096) ∧ (0 ≤ c.gv ∧ c.gv ≤ 4096) ∧ (0 ≤ c.cb ∧ c.cb ≤ 4096) ∧
      (0 ≤ c.offset ∧ c.offset ≤ 16))
    ⟨fun ⟨cy, cr, gu, gv, cb, offset⟩ => ⟨cy, cr, gu, gv, cb, offset⟩,
      fun small => ⟨small.cy, small.cr, small.gu, small.gv, small.cb, small.offset⟩⟩

theorem Coefficients.Configured.small {c : Coefficients} (configured : c.Configured) :
    c.Small := by
  obtain ⟨⟨matrix, range, primaries, transfer⟩, found⟩ := configured
  have table : ∀ c, coefficientsOf matrix range = .ok c → c.Small := by
    have checked : (match coefficientsOf matrix range with
        | .ok c => decide c.Small
        | .error _ => true) = true := by
      cases matrix <;> cases range <;> decide +kernel
    intro c known
    rw [known] at checked
    exact of_decide_eq_true checked
  exact table c found

def clampByte (n : Int) : UInt8 := UInt8.ofNat (max 0 (min 255 n)).toNat

def rgbOf (c : Coefficients) (y u v : UInt8) : List UInt8 :=
  let luma := ((y.toNat : Int) - c.offset) * c.cy
  let u := (u.toNat : Int) - 128
  let v := (v.toNat : Int) - 128
  [clampByte ((luma + c.cr * v + 512) >>> (10 : Nat)),
    clampByte ((luma - c.gu * u - c.gv * v + 512) >>> (10 : Nat)),
    clampByte ((luma + c.cb * u + 512) >>> (10 : Nat))]

/-- An `i32` value; arithmetic beyond it panics in checked builds. -/
def i32 {σ : Type} (n : Int) : Fill σ CameraError Int := do
  Fill.assertThat (-2 ^ 31 ≤ n ∧ n < 2 ^ 31)
  pure n

def yuvPixel (c : Coefficients) (y u v : UInt8) : Fill (List UInt8) CameraError Unit := do
  let luma ← i32 (((y.toNat : Int) - c.offset) * c.cy)
  let u := (u.toNat : Int) - 128
  let v := (v.toNat : Int) - 128
  let crv ← i32 (c.cr * v)
  let red ← i32 (luma + crv)
  let red ← i32 (red + 512)
  Fill.store 0 (clampByte (red >>> (10 : Nat)))
  let guu ← i32 (c.gu * u)
  let green ← i32 (luma - guu)
  let gvv ← i32 (c.gv * v)
  let green ← i32 (green - gvv)
  let green ← i32 (green + 512)
  Fill.store 1 (clampByte (green >>> (10 : Nat)))
  let cbu ← i32 (c.cb * u)
  let blue ← i32 (luma + cbu)
  let blue ← i32 (blue + 512)
  Fill.store 2 (clampByte (blue >>> (10 : Nat)))

@[simp] theorem length_rgbOf {c : Coefficients} {y u v : UInt8} :
    (rgbOf c y u v).length = 3 := rfl

theorem i32_returns {σ : Type} {s : σ} {n : Int} (low : -2 ^ 31 ≤ n) (high : n < 2 ^ 31) :
    Fill.Returns (i32 n) s n s :=
  .bind (.assertThat ⟨low, high⟩) .pure

theorem term_bounds {c x : Int} (coefficient : 0 ≤ c ∧ c ≤ 4096) (sample : -256 ≤ x ∧ x ≤ 256) :
    -1048576 ≤ c * x ∧ c * x ≤ 1048576 := by
  constructor <;> nlinarith [coefficient.1, coefficient.2, sample.1, sample.2]

theorem yuvPixel_writes {c : Coefficients} {y u v : UInt8} (small : c.Small) :
    Fill.Writes (yuvPixel c y u v) (rgbOf c y u v) := by
  have byte (b : UInt8) : (b.toNat : Int) ≤ 255 := by
    have := b.toNat_lt
    omega
  have luma := @term_bounds c.cy ((y.toNat : Int) - c.offset) small.cy (by
    have := byte y
    have := small.offset
    omega)
  rw [Int.mul_comm] at luma
  have centred (b : UInt8) : -256 ≤ (b.toNat : Int) - 128 ∧ (b.toNat : Int) - 128 ≤ 256 := by
    have := byte b
    omega
  have crv := term_bounds small.cr (centred v)
  have guu := term_bounds small.gu (centred u)
  have gvv := term_bounds small.gv (centred v)
  have cbu := term_bounds small.cb (centred u)
  intro old same
  match old, same with
  | [first, second, third], _ =>
      refine .bind (i32_returns (by omega) (by omega)) ?_
      refine .bind (i32_returns (by omega) (by omega)) ?_
      refine .bind (i32_returns (by omega) (by omega)) ?_
      refine .bind (i32_returns (by omega) (by omega)) (.bind (.store (by simp)) ?_)
      refine .bind (i32_returns (by omega) (by omega)) ?_
      refine .bind (i32_returns (by omega) (by omega)) ?_
      refine .bind (i32_returns (by omega) (by omega)) ?_
      refine .bind (i32_returns (by omega) (by omega)) ?_
      refine .bind (i32_returns (by omega) (by omega)) (.bind (.store (by simp)) ?_)
      refine .bind (i32_returns (by omega) (by omega)) ?_
      refine .bind (i32_returns (by omega) (by omega)) ?_
      refine .bind (i32_returns (by omega) (by omega)) ?_
      exact .store (by simp)

end CameraRs

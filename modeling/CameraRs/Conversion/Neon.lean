/-
The colour transforms of the NEON kernels. Samples are words of 16 bits, products
words of 32; the shift comes before the narrowing, so a sum that has left 16 bits is
back in them. The 8-bit converter of packed 4:2:2 leaves its tail to the scalar loop.
-/

import CameraRs.Conversion.Packed422
import CameraRs.Lib.Neon

namespace CameraRs

open Lib Fill Simd Neon

/-! ### The configured transform -/

abbrev Rgb4 := I16x4 × I16x4 × I16x4

def rgb4WithCoefficients (y u v : I16x4) (c : Coefficients) : Rgb4 :=
  let y := vmullNS16 y c.cy
  let rounding := vdupqN 32 4 512
  let r := vshrnNS32 10 (vaddq (vmlalNS16 y v c.cr) rounding)
  let g := vshrnNS32 10 (vaddq (vmlslNS16 (vmlslNS16 y u c.gu) v c.gv) rounding)
  let b := vshrnNS32 10 (vaddq (vmlalNS16 y u c.cb) rounding)
  (r, g, b)

abbrev PreparedChroma4 := I32x4 × I32x4 × I32x4

def prepareChroma4 (u v : I16x4) (c : Coefficients) : PreparedChroma4 :=
  (vmullNS16 v c.cr, vnegq (vmlalNS16 (vmullNS16 u c.gu) v c.gv), vmullNS16 u c.cb)

def rgb4WithPreparedChroma (y : I16x4) (chroma : PreparedChroma4) (cy : Int) : Rgb4 :=
  let y := vmullNS16 y cy
  let rounding := vdupqN 32 4 512
  (vshrnNS32 10 (vaddq (vaddq y chroma.1) rounding),
    vshrnNS32 10 (vaddq (vaddq y chroma.2.1) rounding),
    vshrnNS32 10 (vaddq (vaddq y chroma.2.2) rounding))

/-- `uint8x8x3_t(vqmovun_s16(vcombine_s16(low.0, high.0)), …)`. -/
def saturateRgb8 (low high : Rgb4) : Triple 8 where
  first := vqmovunS16 (vcombineS16 low.1 high.1)
  second := vqmovunS16 (vcombineS16 low.2.1 high.2.1)
  third := vqmovunS16 (vcombineS16 low.2.2 high.2.2)

def centre (bytes : U8x8) (value : Int) : I16x8 := vsubq (vmovlU8 bytes) (vdupqN 16 8 value)

def rgb8WithPreparedChroma (y : U8x8) (lowChroma highChroma : PreparedChroma4)
    (c : Coefficients) : Triple 8 :=
  let y := centre y c.offset
  saturateRgb8 (rgb4WithPreparedChroma (vgetLowS16 y) lowChroma c.cy)
    (rgb4WithPreparedChroma (vgetHighS16 y) highChroma c.cy)

def rgb8TwoLumaWithCoefficients (y0 y1 u v : U8x8) (c : Coefficients) : Triple 8 × Triple 8 :=
  let u := centre u 128
  let v := centre v 128
  let low := prepareChroma4 (vgetLowS16 u) (vgetLowS16 v) c
  let high := prepareChroma4 (vgetHighS16 u) (vgetHighS16 v) c
  (rgb8WithPreparedChroma y0 low high c, rgb8WithPreparedChroma y1 low high c)

def rgb8WithCoefficients (y u v : U8x8) (c : Coefficients) : Triple 8 :=
  let y := centre y c.offset
  let u := centre u 128
  let v := centre v 128
  saturateRgb8
    (rgb4WithCoefficients (vgetLowS16 y) (vgetLowS16 u) (vgetLowS16 v) c)
    (rgb4WithCoefficients (vgetHighS16 y) (vgetHighS16 u) (vgetHighS16 v) c)

/-! ### What the words of a pixel are -/

def pixelSums (c : Coefficients) (y u v : Int) : Int × Int × Int :=
  (y * c.cy + c.cr * v + 512, y * c.cy - c.gu * u - c.gv * v + 512, y * c.cy + c.cb * u + 512)

theorem rgbOf_sums {c : Coefficients} {y u v : UInt8} :
    rgbOf c y u v =
      let sums := pixelSums c ((y.toNat : Int) - c.offset) ((u.toNat : Int) - 128)
        ((v.toNat : Int) - 128)
      [clampByte (sums.1 >>> (10 : Nat)), clampByte (sums.2.1 >>> (10 : Nat)),
        clampByte (sums.2.2 >>> (10 : Nat))] :=
  rfl

/-- A sum of a few products of samples and coefficients. -/
def IsSum (x : Int) : Prop := -8388608 ≤ x ∧ x < 8388608

theorem IsSum.isI32 {x : Int} (sum : IsSum x) : IsI32 x := by
  obtain ⟨low, high⟩ := sum
  constructor <;> omega

theorem IsSum.shifted {x : Int} (sum : IsSum x) : IsI16 (x >>> (10 : Nat)) := by
  obtain ⟨low, high⟩ := sum
  simp only [IsI16, Int.shiftRight_eq_div_pow]
  constructor <;> omega

def Centred (f : Nat → Int) : Prop := ∀ k, -256 ≤ f k ∧ f k ≤ 256

theorem Centred.words {f : Nat → Int} (centred : Centred f) (k : Nat) : IsI16 (f k) := by
  obtain ⟨low, high⟩ := centred k
  constructor <;> omega

theorem centred_byte {f : Nat → UInt8} {value : Int} (small : 0 ≤ value ∧ value ≤ 128) :
    Centred fun k => ((f k).toNat : Int) - value := by
  intro k
  have below := (f k).toNat_lt
  constructor <;> simp only <;> omega

theorem coefficient_word {x : Int} (small : 0 ≤ x ∧ x ≤ 4096) : IsI16 x := by
  obtain ⟨low, high⟩ := small
  constructor <;> omega

theorem centre_stands {bytes : U8x8} {f : Nat → UInt8} {value : Int} (shows : Shows bytes f) :
    Stands (centre bytes value) fun k => ((f k).toNat : Int) - value :=
  shows.stands.sub (stands_dup value)

structure WordsStand (value : Rgb4) (sums : Nat → Int × Int × Int) : Prop where
  red : Stands value.1 fun k => (sums k).1 >>> (10 : Nat)
  green : Stands value.2.1 fun k => (sums k).2.1 >>> (10 : Nat)
  blue : Stands value.2.2 fun k => (sums k).2.2 >>> (10 : Nat)

section Words

variable {c : Coefficients} {y u v : I16x4} {ys us vs : Nat → Int}

theorem pixelSums_isSum (small : c.Small) {y u v : Int} (luma : -256 ≤ y ∧ y ≤ 256)
    (blue : -256 ≤ u ∧ u ≤ 256) (red : -256 ≤ v ∧ v ≤ 256) :
    IsSum (pixelSums c y u v).1 ∧ IsSum (pixelSums c y u v).2.1 ∧
      IsSum (pixelSums c y u v).2.2 := by
  have cy := term_bounds small.cy luma
  rw [Int.mul_comm] at cy
  have cr := term_bounds small.cr red
  have gu := term_bounds small.gu blue
  have gv := term_bounds small.gv red
  have cb := term_bounds small.cb blue
  simp only [pixelSums, IsSum]
  refine ⟨⟨?_, ?_⟩, ⟨?_, ?_⟩, ?_, ?_⟩ <;> omega

theorem rgb4WithCoefficients_stand (small : c.Small) (lumas : Stands y ys) (blues : Stands u us)
    (reds : Stands v vs) (luma : Centred ys) (blue : Centred us) (red : Centred vs) :
    WordsStand (rgb4WithCoefficients y u v c) fun k => pixelSums c (ys k) (us k) (vs k) := by
  have product := lumas.mull luma.words (coefficient_word small.cy)
  have fits (k : Nat) := pixelSums_isSum small (luma k) (blue k) (red k)
  have rounding := @stands_dup 4 32 512
  exact
    { red := by
        have sum := ((product.mlal reds red.words (coefficient_word small.cr)).add rounding).congr
          (g := fun k => (pixelSums c (ys k) (us k) (vs k)).1) fun k _ => by
            rw [pixelSums, Int.mul_comm (vs k)]
        exact sum.shrn fun k => (fits k).1.isI32
      green := by
        have sum := (((product.mlsl blues blue.words (coefficient_word small.gu)).mlsl reds
          red.words (coefficient_word small.gv)).add rounding).congr
          (g := fun k => (pixelSums c (ys k) (us k) (vs k)).2.1) fun k _ => by
            rw [pixelSums, Int.mul_comm (us k), Int.mul_comm (vs k)]
        exact sum.shrn fun k => (fits k).2.1.isI32
      blue := by
        have sum := ((product.mlal blues blue.words (coefficient_word small.cb)).add rounding).congr
          (g := fun k => (pixelSums c (ys k) (us k) (vs k)).2.2) fun k _ => by
            rw [pixelSums, Int.mul_comm (us k)]
        exact sum.shrn fun k => (fits k).2.2.isI32 }

theorem rgb4WithPreparedChroma_stand (small : c.Small) (lumas : Stands y ys)
    (blues : Stands u us) (reds : Stands v vs) (luma : Centred ys) (blue : Centred us)
    (red : Centred vs) :
    WordsStand (rgb4WithPreparedChroma y (prepareChroma4 u v c) c.cy)
      fun k => pixelSums c (ys k) (us k) (vs k) := by
  have product := lumas.mull luma.words (coefficient_word small.cy)
  have fits (k : Nat) := pixelSums_isSum small (luma k) (blue k) (red k)
  have rounding := @stands_dup 4 32 512
  exact
    { red := by
        have sum := ((product.add (reds.mull red.words (coefficient_word small.cr))).add
          rounding).congr (g := fun k => (pixelSums c (ys k) (us k) (vs k)).1) fun k _ => by
            rw [pixelSums, Int.mul_comm (vs k)]
        exact sum.shrn fun k => (fits k).1.isI32
      green := by
        have chroma := ((blues.mull blue.words (coefficient_word small.gu)).mlal reds red.words
          (coefficient_word small.gv)).neg
        have sum := ((product.add chroma).add rounding).congr
          (g := fun k => (pixelSums c (ys k) (us k) (vs k)).2.1) fun k _ => by
            rw [Int.mul_comm (us k), Int.mul_comm (vs k)]
            simp only [pixelSums]
            omega
        exact sum.shrn fun k => (fits k).2.1.isI32
      blue := by
        have sum := ((product.add (blues.mull blue.words (coefficient_word small.cb))).add
          rounding).congr (g := fun k => (pixelSums c (ys k) (us k) (vs k)).2.2) fun k _ => by
            rw [pixelSums, Int.mul_comm (us k)]
        exact sum.shrn fun k => (fits k).2.2.isI32 }

theorem clampByte_saturate {n : Int} : UInt8.ofNat (saturate 255 n) = clampByte n := by
  rw [saturate, clampByte]
  congr 1
  omega

theorem saturateRgb8_shows {low high : Rgb4} {sums : Nat → Int × Int × Int}
    {pixel : Nat → List UInt8} (first : WordsStand low sums)
    (second : WordsStand high fun k => sums (4 + k))
    (fits : ∀ k, IsSum (sums k).1 ∧ IsSum (sums k).2.1 ∧ IsSum (sums k).2.2)
    (pixels : ∀ k, k < 8 → pixel k = [clampByte ((sums k).1 >>> (10 : Nat)),
      clampByte ((sums k).2.1 >>> (10 : Nat)), clampByte ((sums k).2.2 >>> (10 : Nat))]) :
    (saturateRgb8 low high).Shows pixel := by
  have red := (first.red.combine second.red).qmovun fun k => (fits k).1.shifted
  have green := (first.green.combine second.green).qmovun fun k => (fits k).2.1.shifted
  have blue := (first.blue.combine second.blue).qmovun fun k => (fits k).2.2.shifted
  intro i
  rw [pixels i i.isLt, ← clampByte_saturate, ← clampByte_saturate, ← clampByte_saturate]
  simp only [saturateRgb8]
  rw [red i, green i, blue i]

end Words

section Bytes

variable {c : Coefficients} {y y0 y1 u v : U8x8} {ys ys0 ys1 us vs : Nat → UInt8}
  {pixel first second : Nat → List UInt8}

theorem rgb8WithCoefficients_shows {p : Nat → List UInt8} (small : c.Small)
    (lumas : Shows y ys) (blues : Shows u us)
    (reds : Shows v vs) (pixels : ∀ k, k < 8 → p k = rgbOf c (ys k) (us k) (vs k)) :
    (rgb8WithCoefficients y u v c).Shows p := by
  have luma := @centred_byte ys c.offset ⟨small.offset.1, by have := small.offset.2; omega⟩
  have blue := @centred_byte us 128 (by decide)
  have red := @centred_byte vs 128 (by decide)
  exact saturateRgb8_shows
    (rgb4WithCoefficients_stand small (centre_stands lumas).low (centre_stands blues).low
      (centre_stands reds).low luma blue red)
    (rgb4WithCoefficients_stand small (centre_stands lumas).high (centre_stands blues).high
      (centre_stands reds).high (fun k => luma (4 + k)) (fun k => blue (4 + k))
      fun k => red (4 + k))
    (fun k => pixelSums_isSum small (luma k) (blue k) (red k))
    fun k bound => (pixels k bound).trans rgbOf_sums

theorem rgb8WithPreparedChroma_shows (small : c.Small) (lumas : Shows y ys)
    (blues : Shows u us) (reds : Shows v vs)
    (pixels : ∀ k, k < 8 → pixel k = rgbOf c (ys k) (us k) (vs k)) :
    (rgb8WithPreparedChroma y
      (prepareChroma4 (vgetLowS16 (centre u 128)) (vgetLowS16 (centre v 128)) c)
      (prepareChroma4 (vgetHighS16 (centre u 128)) (vgetHighS16 (centre v 128)) c) c).Shows
      pixel := by
  have luma := @centred_byte ys c.offset ⟨small.offset.1, by have := small.offset.2; omega⟩
  have blue := @centred_byte us 128 (by decide)
  have red := @centred_byte vs 128 (by decide)
  exact saturateRgb8_shows
    (rgb4WithPreparedChroma_stand small (centre_stands lumas).low (centre_stands blues).low
      (centre_stands reds).low luma blue red)
    (rgb4WithPreparedChroma_stand small (centre_stands lumas).high (centre_stands blues).high
      (centre_stands reds).high (fun k => luma (4 + k)) (fun k => blue (4 + k))
      fun k => red (4 + k))
    (fun k => pixelSums_isSum small (luma k) (blue k) (red k))
    fun k bound => (pixels k bound).trans rgbOf_sums

theorem rgb8TwoLuma_shows (small : c.Small) (lumas0 : Shows y0 ys0) (lumas1 : Shows y1 ys1)
    (blues : Shows u us) (reds : Shows v vs)
    (pixels0 : ∀ k, k < 8 → first k = rgbOf c (ys0 k) (us k) (vs k))
    (pixels1 : ∀ k, k < 8 → second k = rgbOf c (ys1 k) (us k) (vs k)) :
    (rgb8TwoLumaWithCoefficients y0 y1 u v c).1.Shows first ∧
      (rgb8TwoLumaWithCoefficients y0 y1 u v c).2.Shows second :=
  ⟨rgb8WithPreparedChroma_shows small lumas0 blues reds pixels0,
    rgb8WithPreparedChroma_shows small lumas1 blues reds pixels1⟩

end Bytes

/-! ### The 8-bit transform -/

/-- The two halves of a register of products, shifted and put together again. -/
def narrowEight (low high : I32x4) : I16x8 :=
  vcombineS16 (vshrnNS32 8 low) (vshrnNS32 8 high)

def rgb8 (y u v : U8x8) : Triple 8 :=
  let y := vmovlU8 y
  let u := centre u 128
  let v := centre v 128
  let r := narrowEight (vmullNS16 (vgetLowS16 v) 359) (vmullNS16 (vgetHighS16 v) 359)
  let g := narrowEight
    (vmlalNS16 (vmullNS16 (vgetLowS16 u) 88) (vgetLowS16 v) 183)
    (vmlalNS16 (vmullNS16 (vgetHighS16 u) 88) (vgetHighS16 v) 183)
  let b := narrowEight (vmullNS16 (vgetLowS16 u) 454) (vmullNS16 (vgetHighS16 u) 454)
  { first := vqmovunS16 (vaddq y r)
    second := vqmovunS16 (vsubq y g)
    third := vqmovunS16 (vaddq y b) }

section EightBit

variable {y u v : U8x8} {ys us vs : Nat → UInt8} {low high : I32x4} {f : Nat → Int}

/-- Products of chroma samples and 8-bit coefficients, and sums of two of them. -/
def IsProduct (x : Int) : Prop := -262144 ≤ x ∧ x ≤ 262144

theorem narrowEight_stands (first : Stands low f) (second : Stands high fun k => f (4 + k))
    (fits : ∀ k, IsProduct (f k)) : Stands (narrowEight low high) fun k => f k >>> (8 : Nat) := by
  have wide (k : Nat) : IsI32 (f k) := by
    obtain ⟨low, high⟩ := fits k
    constructor <;> omega
  exact (first.shrn wide).combine (second.shrn fun k => wide (4 + k))

theorem luma_saturates {luma product : I16x8} {ys ps : Nat → Int} (lumas : Stands luma ys)
    (products : Stands product fun k => ps k >>> (8 : Nat)) (bytes : ∀ k, 0 ≤ ys k ∧ ys k ≤ 255)
    (fits : ∀ k, IsProduct (ps k)) :
    Shows (vqmovunS16 (vaddq luma product)) (fun k => clampByte (ys k + ps k >>> (8 : Nat))) ∧
      Shows (vqmovunS16 (vsubq luma product)) fun k => clampByte (ys k - ps k >>> (8 : Nat)) := by
  have words (k : Nat) : IsI16 (ys k + ps k >>> (8 : Nat)) ∧ IsI16 (ys k - ps k >>> (8 : Nat)) := by
    obtain ⟨low, high⟩ := fits k
    have byte := bytes k
    simp only [IsI16, Int.shiftRight_eq_div_pow]
    refine ⟨⟨?_, ?_⟩, ?_, ?_⟩ <;> omega
  simp only [← clampByte_saturate]
  exact ⟨(lumas.add products).qmovun fun k => (words k).1,
    (lumas.sub products).qmovun fun k => (words k).2⟩

theorem centred_product {x factor : Int} (small : -256 ≤ x ∧ x ≤ 256)
    (coefficient : 0 ≤ factor ∧ factor ≤ 512) :
    -131072 ≤ x * factor ∧ x * factor ≤ 131072 := by
  constructor <;> nlinarith [small.1, small.2, coefficient.1, coefficient.2]

theorem rgb8_shows {p : Nat → List UInt8} (lumas : Shows y ys) (blues : Shows u us)
    (reds : Shows v vs)
    (pixels : ∀ k, k < 8 →
      p k = shiftedRgb 8 0 255 packed8BitCoefficients (ys k) (us k) (vs k)) :
    (rgb8 y u v).Shows p := by
  have blue := @centred_byte us 128 (by decide)
  have red := @centred_byte vs 128 (by decide)
  have luma (k : Nat) : 0 ≤ ((ys k).toNat : Int) ∧ ((ys k).toNat : Int) ≤ 255 := by
    have below := (ys k).toNat_lt
    omega
  have blueWords := @centre_stands _ _ 128 blues
  have redWords := @centre_stands _ _ 128 reds
  have product {f : Nat → Int} {x : Int} (centred : Centred f) (small : 0 ≤ x ∧ x ≤ 512)
      (k : Nat) : IsProduct (f k * x) := by
    have bounds := centred_product (centred k) small
    constructor <;> omega
  have green (k : Nat) :
      IsProduct (((us k).toNat - 128 : Int) * 88 + ((vs k).toNat - 128) * 183) := by
    have left := @centred_product ((us k).toNat - 128) 88 (blue k) (by decide)
    have right := @centred_product ((vs k).toNat - 128) 183 (red k) (by decide)
    constructor <;> omega
  have factor {x : Int} (small : 0 ≤ x ∧ x ≤ 512) : IsI16 x :=
    coefficient_word ⟨small.1, by omega⟩
  have reds := (luma_saturates lumas.stands (narrowEight_stands
    (redWords.low.mull red.words (factor (x := 359) (by decide)))
    (redWords.high.mull (fun k => red.words (4 + k)) (factor (by decide)))
    (product red (by decide))) luma (product red (by decide))).1
  have greens := (luma_saturates lumas.stands (narrowEight_stands
    ((blueWords.low.mull blue.words (factor (x := 88) (by decide))).mlal redWords.low red.words
      (factor (x := 183) (by decide)))
    ((blueWords.high.mull (fun k => blue.words (4 + k)) (factor (by decide))).mlal redWords.high
      (fun k => red.words (4 + k)) (factor (by decide)))
    green) luma green).2
  have blues := (luma_saturates lumas.stands (narrowEight_stands
    (blueWords.low.mull blue.words (factor (x := 454) (by decide)))
    (blueWords.high.mull (fun k => blue.words (4 + k)) (factor (by decide)))
    (product blue (by decide))) luma (product blue (by decide))).1
  intro i
  rw [pixels i i.isLt, shiftedRgb_floored]
  simp only [rgb8, vToR, uToG, vToG, uToB]
  rw [reds i, greens i, blues i, Int.mul_comm 359, Int.mul_comm 88, Int.mul_comm 183,
    Int.mul_comm 454]

end EightBit

/-! ### Stores -/

section Stores

variable {pixel first second : Nat → List UInt8} {width k n next start : Nat}
  {old old0 old1 : List UInt8} {value low high : Triple n}

theorem vst3_returns (shows : value.Shows fun x => pixel (k + x)) (rgb : IsRgb pixel)
    (fits : width * 3 ≤ old.length) (bound : k + n ≤ width) (at_start : start = k * 3)
    (at_next : next = k + n) :
    Returns (vst3 start value : RgbFill Unit) (rowUpTo pixel width old k) ()
      (rowUpTo pixel width old next) := by
  subst at_next
  rw [vst3, vst3_block shows]
  exact writes_pixels rgb fits bound at_start (by omega) .copyFromSlice

end Stores

/-! ### Packed 4:2:2 in eight bits -/

/-- `.unwrap()`: an error panics. -/
def unwrap {σ ε α : Type} (m : Fill σ ε α) : Fill σ ε α := fun s =>
  match m s with
  | some (.ok a, s') => some (.ok a, s')
  | _ => none

/-- The luma and chroma registers of a group of pairs: `(y0, u, y1, v)`. -/
def pairRegisters (uyvy : Bool) (p : Nat → U8x8) : U8x8 × U8x8 × U8x8 × U8x8 :=
  if uyvy then (p 1, p 0, p 3, p 2) else (p 0, p 1, p 2, p 3)

/-- `neon::packed422`: groups of eight pairs, then the scalar loop. -/
def packed422Neon (uyvy : Bool) (source : List UInt8) : RgbFill Unit := do
  let rgb ← getState
  let groups := min (source.length / 32) (rgb.length / 48)
  forRange 0 groups fun group => do
    let p ← vldStructured 4 8 source (group * 32)
    let (y0, u, y1, v) := pairRegisters uyvy p
    vst3 (group * 48) (rgb8 (vzip1U8 y0 y1) (vzip1U8 u u) (vzip1U8 v v))
    vst3 (group * 48 + 24) (rgb8 (vzip2U8 y0 y1) (vzip2U8 u u) (vzip2U8 v v))
  let source ← viewFrom source (groups * 32)
  within (groups * 48) rgb.length <|
    unwrap (if uyvy then uyvyToRgbScalarInto source else yuyvToRgbScalarInto source)

section Packed422

variable {uyvy : Bool} {source old : List UInt8}

private theorem unwrap_returns {σ ε α : Type} {m : Fill σ ε α} {s s' : σ} {a : α}
    (returns : Returns m s a s') : Returns (unwrap m) s a s' := by
  have ran : m s = some (.ok a, s') := returns
  rw [Returns, unwrap, ran]

structure PairsShow (registers : U8x8 × U8x8 × U8x8 × U8x8) (uyvy : Bool) (f : Nat → UInt8) :
    Prop where
  even : Shows registers.1 fun k => f (if uyvy then 2 * k * 2 + 1 else 2 * k * 2)
  odd : Shows registers.2.2.1 fun k => f (if uyvy then (2 * k + 1) * 2 + 1 else (2 * k + 1) * 2)
  blue : Shows registers.2.1 fun k => f (if uyvy then k * 4 else k * 4 + 1)
  red : Shows registers.2.2.2 fun k => f (if uyvy then k * 4 + 2 else k * 4 + 3)

theorem pairRegisters_show {p : Nat → U8x8} {f : Nat → UInt8}
    (loaded : ∀ j, Shows (p j) fun k => f (4 * k + j)) :
    PairsShow (pairRegisters uyvy p) uyvy f := by
  have at_byte (j : Nat) {g : Nat → Nat} (place : ∀ k, 4 * k + j = g k) :
      Shows (p j) fun k => f (g k) :=
    (loaded j).congr fun k _ => congrArg f (place k)
  cases uyvy with
  | true =>
      exact
        { even := at_byte 1 fun k => by simp only [if_true]; omega
          odd := at_byte 3 fun k => by simp only [if_true]; omega
          blue := at_byte 0 fun k => by simp only [if_true]; omega
          red := at_byte 2 fun k => by simp only [if_true]; omega }
  | false =>
      exact
        { even := at_byte 0 fun k => by simp only [Bool.false_eq_true, if_false]; omega
          odd := at_byte 2 fun k => by simp only [Bool.false_eq_true, if_false]; omega
          blue := at_byte 1 fun k => by simp only [Bool.false_eq_true, if_false]; omega
          red := at_byte 3 fun k => by simp only [Bool.false_eq_true, if_false]; omega }

theorem packed422Shifted_group {c : Coefficients} {shift : Nat} {rounding greenRounding : Int}
    {group k : Nat} :
    packed422Shifted shift rounding greenRounding c uyvy source (group * 16 + k) =
      shiftedRgb shift rounding greenRounding c
        (source.getD (group * 32 + if uyvy then k * 2 + 1 else k * 2) 0)
        (source.getD (group * 32 + if uyvy then k / 2 * 4 else k / 2 * 4 + 1) 0)
        (source.getD (group * 32 + if uyvy then k / 2 * 4 + 2 else k / 2 * 4 + 3) 0) := by
  rw [packed422Shifted_eq (show (group * 16 + k) / 2 * 4 = group * 32 + k / 2 * 4 by omega)]
  congr 2 <;> split <;> omega

private theorem packed422Neon_group {group pairs : Nat} (bound : group * 8 + 8 ≤ pairs)
    (room : pairs * 4 ≤ source.length) (fits : pairs * 6 ≤ old.length) :
    Returns (do
      let p ← vldStructured 4 8 source (group * 32)
      let (y0, u, y1, v) := pairRegisters uyvy p
      vst3 (group * 48) (rgb8 (vzip1U8 y0 y1) (vzip1U8 u u) (vzip1U8 v v))
      vst3 (group * 48 + 24) (rgb8 (vzip2U8 y0 y1) (vzip2U8 u u) (vzip2U8 v v)) : RgbFill Unit)
      (pairsUpTo (packed8BitPixel uyvy source) pairs old (group * 8)) ()
      (pairsUpTo (packed8BitPixel uyvy source) pairs old (group * 8 + 8)) := by
  have rgb : IsRgb (packed8BitPixel uyvy source) := isRgb_packed422Shifted
  refine .bind (vldStructured_returns (by omega)) ?_
  have shown := @pairRegisters_show uyvy (fun j i => source.getD (group * 32 + 4 * i + j) 0)
    (fun k => source.getD (group * 32 + k) 0) fun j i => congrArg (source.getD · 0) (by omega)
  obtain ⟨even, odd, blue, red⟩ := shown
  have luma := Shows.weave (h := fun k =>
    source.getD (group * 32 + if uyvy then k * 2 + 1 else k * 2) 0) even odd
  have front := rgb8_shows (p := fun k => packed8BitPixel uyvy source (group * 16 + k))
    luma.1 blue.double.1 red.double.1 fun k _ => packed422Shifted_group
  have back := rgb8_shows (p := fun k => packed8BitPixel uyvy source (group * 16 + 8 + k))
    luma.2 blue.double.2 red.double.2 fun k _ => by
      rw [Nat.add_assoc]
      exact packed422Shifted_group
  rw [pairsUpTo, pairsUpTo, show group * 8 * 2 = group * 16 by omega]
  exact .bind (vst3_returns front rgb (by omega) (by omega) (by omega) rfl)
    (vst3_returns back rgb (by omega) (by omega) (by omega) (by omega))

private theorem within_rest {m : RgbFill Unit} {want front back : List UInt8} {start : Nat}
    (split : want = front ++ back) (at_start : start = front.length)
    (fits : want.length ≤ old.length)
    (inner : Returns m (old.drop start) () (overlay back back.length (old.drop start))) :
    Returns (within start old.length m) (overlay want start old) ()
      (overlay want want.length old) := by
  subst split at_start
  rw [List.length_append] at fits
  have written : overlay (front ++ back) front.length old = front ++ old.drop front.length := by
    rw [overlay, List.take_left]
  have whole : (front ++ old.drop front.length).length = old.length := by
    rw [List.length_append, List.length_drop]
    omega
  have rest : slice (front ++ old.drop front.length) front.length old.length =
      old.drop front.length := by
    rw [← whole, slice, List.drop_left, List.length_append, Nat.add_sub_cancel_left,
      List.take_length]
  have filled : front ++ overlay back back.length (old.drop front.length) =
      overlay (front ++ back) (front ++ back).length old := by
    rw [overlay_length, overlay_length, List.drop_drop, ← List.append_assoc, List.length_append]
  rw [← rest] at inner
  have ran := Returns.within (by omega) (Nat.le_of_eq whole.symm) inner
  rw [rest, List.take_left, List.drop_eq_nil_of_le (Nat.le_of_eq whole), List.append_nil,
    filled, ← written] at ran
  exact ran

private theorem packed8BitPixel_drop {groups x : Nat} :
    packed8BitPixel uyvy (source.drop (groups * 32)) x =
      packed8BitPixel uyvy source (groups * 16 + x) := by
  rw [packed8BitPixel, packed422Shifted_eq rfl, packed8BitPixel, packed422Shifted_group,
    getD_drop, getD_drop, getD_drop]

private theorem packed422Neon_rest {groups pairs : Nat}
    (known : min (source.length / 4) (old.length / 6) = pairs) (reached : groups * 8 ≤ pairs) :
    Returns (within (groups * 48) old.length
        (unwrap (packed422ScalarInto uyvy (source.drop (groups * 32)))))
      (pairsUpTo (packed8BitPixel uyvy source) pairs old (groups * 8)) ()
      (pairsUpTo (packed8BitPixel uyvy source) pairs old pairs) := by
  have rgb : IsRgb (packed8BitPixel uyvy source) := isRgb_packed422Shifted
  have rgbRest : IsRgb (packed8BitPixel uyvy (source.drop (groups * 32))) :=
    isRgb_packed422Shifted
  have split : blocks (packed8BitPixel uyvy source) (pairs * 2) =
      blocks (packed8BitPixel uyvy source) (groups * 16) ++
        blocks (packed8BitPixel uyvy (source.drop (groups * 32))) ((pairs - groups * 8) * 2) := by
    rw [show pairs * 2 = groups * 16 + (pairs - groups * 8) * 2 by omega, blocks_add]
    exact congrArg _ (blocks_congr fun _ _ => packed8BitPixel_drop.symm)
  have scalar := @packed422ScalarInto_returns uyvy (source.drop (groups * 32))
    (old.drop (groups * 48))
  rw [List.length_drop, List.length_drop, show min ((source.length - groups * 32) / 4)
    ((old.length - groups * 48) / 6) = pairs - groups * 8 by omega, pairsUpTo, rowUpTo] at scalar
  have whole : (blocks (packed8BitPixel uyvy source) (pairs * 2)).length = pairs * 2 * 3 := rgb.row
  have front : groups * 48 = (blocks (packed8BitPixel uyvy source) (groups * 16)).length := by
    rw [rgb.row]
    omega
  have ran := @within_rest old _ _ _ _ _ split front (by omega) <| by
    rw [rgbRest.row]
    exact unwrap_returns scalar
  rw [whole] at ran
  rw [pairsUpTo, pairsUpTo, rowUpTo, rowUpTo, show groups * 8 * 2 * 3 = groups * 48 by omega]
  exact ran

theorem packed422Neon_returns :
    Returns (packed422Neon uyvy source) old ()
      (pairsUpTo (packed8BitPixel uyvy source) (min (source.length / 4) (old.length / 6)) old
        (min (source.length / 4) (old.length / 6))) := by
  generalize known : min (source.length / 4) (old.length / 6) = pairs
  refine .bind .getState ?_
  simp only
  generalize grouped : min (source.length / 32) (old.length / 48) = groups
  refine .bind (@Returns.forRange _ _ 0 groups _
    (fun group => pairsUpTo (packed8BitPixel uyvy source) pairs old (group * 8))
    (Nat.zero_le _) fun group _ bound => ?_) ?_
  · rw [Nat.succ_mul]
    exact packed422Neon_group (by omega) (by omega) (by omega)
  · refine .bind (.viewFrom (by omega)) ?_
    have rest := @packed422Neon_rest uyvy source old groups pairs known (by omega)
    cases uyvy with
    | true => exact rest
    | false => exact rest

end Packed422

def yuyvToRgbNeon : List UInt8 → RgbFill Unit := packed422Neon false

def uyvyToRgbNeon : List UInt8 → RgbFill Unit := packed422Neon true

/-- For every source and destination the NEON converter returns, its inner `unwrap`
included, and leaves what the scalar loop, the batched loop and the AVX2 kernel leave. -/
theorem neon_packed422_agrees (source old : List UInt8) :
    (∃ rgb, Returns (yuyvToRgbNeon source) old () rgb ∧
      Returns (yuyvToRgbScalarInto source) old () rgb ∧
      Returns (yuyvToRgbSimdGeneric source) old () rgb ∧
      Returns (yuyvToRgbAvx2 source) old () rgb) ∧
    (∃ rgb, Returns (uyvyToRgbNeon source) old () rgb ∧
      Returns (uyvyToRgbScalarInto source) old () rgb ∧
      Returns (uyvyToRgbSimdGeneric source) old () rgb ∧
      Returns (uyvyToRgbAvx2 source) old () rgb) :=
  ⟨⟨_, packed422Neon_returns, packed422ScalarInto_returns, packed422SimdGeneric_returns,
      packed422Avx2_returns packed8Bit_moderate⟩,
    ⟨_, packed422Neon_returns, packed422ScalarInto_returns, packed422SimdGeneric_returns,
      packed422Avx2_returns packed8Bit_moderate⟩⟩

end CameraRs

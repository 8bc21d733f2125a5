/-
The colour transform of the AVX2 kernels: eight pixels at a time, and the packed
4:2:2 kernel that the 8-bit and the configured converters share.
-/

import CameraRs.Conversion.Rows
import CameraRs.Lib.Simd

namespace CameraRs

open Lib Fill Simd

/-! ### Eight pixels -/

/-! The terms of a pixel; the rounding goes with the chroma. -/

def Coefficients.luma (c : Coefficients) (y : UInt8) : Int := ((y.toNat : Int) - c.offset) * c.cy

def Coefficients.redChroma (c : Coefficients) (rounding : Int) (v : UInt8) : Int :=
  c.cr * ((v.toNat : Int) - 128) + rounding

def Coefficients.greenChroma (c : Coefficients) (greenRounding : Int) (u v : UInt8) : Int :=
  -c.gu * ((u.toNat : Int) - 128) - c.gv * ((v.toNat : Int) - 128) + greenRounding

def Coefficients.blueChroma (c : Coefficients) (rounding : Int) (u : UInt8) : Int :=
  c.cb * ((u.toNat : Int) - 128) + rounding

/-- Three bytes with the rounding terms added before the shift. -/
def shiftedRgb (shift : Nat) (rounding greenRounding : Int) (c : Coefficients) (y u v : UInt8) :
    List UInt8 :=
  [clampByte ((c.luma y + c.redChroma rounding v) >>> shift),
    clampByte ((c.luma y + c.greenChroma greenRounding u v) >>> shift),
    clampByte ((c.luma y + c.blueChroma rounding u) >>> shift)]

theorem shiftedRgb_nearest {c : Coefficients} {y u v : UInt8} :
    shiftedRgb 10 512 512 c y u v = rgbOf c y u v := by
  have red (a b : Int) : a + (b + 512) = a + b + 512 := by omega
  have green (a b d : Int) : a + (-b - d) = a - b - d := by omega
  simp only [shiftedRgb, rgbOf, Coefficients.luma, Coefficients.redChroma,
    Coefficients.greenChroma, Coefficients.blueChroma, red, Int.neg_mul, green]

/-- The chroma terms of eight pixels, `[__m256i; 3]` in the source. -/
structure ChromaLanes where
  red : I32x8
  green : I32x8
  blue : I32x8

def prepareChroma (rounding greenRounding : Int) (uBytes vBytes : M128) (c : Coefficients) :
    ChromaLanes :=
  let center := set1Epi32 128
  let u := subEpi32 (cvtepu8Epi32 uBytes) center
  let v := subEpi32 (cvtepu8Epi32 vBytes) center
  { red := addEpi32 (mulloEpi32 v (set1Epi32 c.cr)) (set1Epi32 rounding)
    green :=
      addEpi32
        (subEpi32 (subEpi32 (set1Epi32 0) (mulloEpi32 u (set1Epi32 c.gu)))
          (mulloEpi32 v (set1Epi32 c.gv)))
        (set1Epi32 greenRounding)
    blue := addEpi32 (mulloEpi32 u (set1Epi32 c.cb)) (set1Epi32 rounding) }

/-- The closure `clamp` of the transform. -/
def clampLanes (value : I32x8) : I32x8 :=
  minEpi32 (maxEpi32 value (set1Epi32 0)) (set1Epi32 255)

def packLanes (value : I32x8) : M128 :=
  let words := packusEpi32 (low value) (high value)
  packusEpi16 words words

/-- The first sixteen bytes of eight pixels. -/
def interleaveFirst (red green blue : M128) : M128 :=
  orSi128
    (orSi128
      (shuffleEpi8 red (setrEpi8 [0, -1, -1, 1, -1, -1, 2, -1, -1, 3, -1, -1, 4, -1, -1, 5]))
      (shuffleEpi8 green
        (setrEpi8 [-1, 0, -1, -1, 1, -1, -1, 2, -1, -1, 3, -1, -1, 4, -1, -1])))
    (shuffleEpi8 blue (setrEpi8 [-1, -1, 0, -1, -1, 1, -1, -1, 2, -1, -1, 3, -1, -1, 4, -1]))

/-- The other eight, in the low half. -/
def interleaveSecond (red green blue : M128) : M128 :=
  orSi128
    (orSi128
      (shuffleEpi8 red
        (setrEpi8 [-1, -1, 6, -1, -1, 7, -1, -1, -1, -1, -1, -1, -1, -1, -1, -1]))
      (shuffleEpi8 green
        (setrEpi8 [5, -1, -1, 6, -1, -1, 7, -1, -1, -1, -1, -1, -1, -1, -1, -1])))
    (shuffleEpi8 blue
      (setrEpi8 [-1, 5, -1, -1, 6, -1, -1, 7, -1, -1, -1, -1, -1, -1, -1, -1]))

def convertEightWithChroma (shift : Nat) (yBytes : M128) (chroma : ChromaLanes)
    (c : Coefficients) : RgbFill Unit := do
  let y := mulloEpi32 (subEpi32 (cvtepu8Epi32 yBytes) (set1Epi32 c.offset)) (set1Epi32 c.cy)
  let red := packLanes (clampLanes (sraiEpi32 shift (addEpi32 y chroma.red)))
  let green := packLanes (clampLanes (sraiEpi32 shift (addEpi32 y chroma.green)))
  let blue := packLanes (clampLanes (sraiEpi32 shift (addEpi32 y chroma.blue)))
  storeuSi128 (interleaveFirst red green blue)
  storelEpi64 16 (interleaveSecond red green blue)

def convertEight (shift : Nat) (rounding greenRounding : Int) (yBytes uBytes vBytes : M128)
    (c : Coefficients) : RgbFill Unit :=
  convertEightWithChroma shift yBytes (prepareChroma rounding greenRounding uBytes vBytes c) c

section Eight

variable {c : Coefficients} {shift : Nat} {rounding greenRounding : Int}
  {y u v : M128} {ys us vs : Nat → UInt8}

def colourByte (r g b : Nat → UInt8) (k : Nat) : UInt8 :=
  if k % 3 = 0 then r (k / 3) else if k % 3 = 1 then g (k / 3) else b (k / 3)

theorem Reads.colours {n start : Nat} {red green blue : M128} {r g b : Nat → UInt8}
    (reds : Reads n red fun k =>
      if decide ((start + k) % 3 = 0) then r ((start + k) / 3) else 0)
    (greens : Reads n green fun k =>
      if decide ((start + k) % 3 = 1) then g ((start + k) / 3) else 0)
    (blues : Reads n blue fun k =>
      if decide ((start + k) % 3 = 2) then b ((start + k) / 3) else 0) :
    Reads n (orSi128 (orSi128 red green) blue) fun k => colourByte r g b (start + k) := by
  refine ((reds.or greens).or blues).congr fun k _ => ?_
  simp only [colourByte, decide_eq_true_eq]
  have three : (start + k) % 3 = 0 ∨ (start + k) % 3 = 1 ∨ (start + k) % 3 = 2 := by omega
  rcases three with at_red | at_green | at_blue
  · simp [at_red]
  · simp [at_green]
  · simp [at_blue]

private theorem interleaveFirst_reads {red green blue : M128} {r g b : Nat → UInt8}
    (reds : Reads 8 red r) (greens : Reads 8 green g) (blues : Reads 8 blue b) :
    Reads 16 (interleaveFirst red green blue) fun k => colourByte r g b (0 + k) :=
  Reads.colours (reds.spread (by decide)) (greens.spread (by decide)) (blues.spread (by decide))

private theorem interleaveSecond_reads {red green blue : M128} {r g b : Nat → UInt8}
    (reds : Reads 8 red r) (greens : Reads 8 green g) (blues : Reads 8 blue b) :
    Reads 8 (interleaveSecond red green blue) fun k => colourByte r g b (16 + k) :=
  Reads.colours (reds.spread (by decide)) (greens.spread (by decide)) (blues.spread (by decide))

theorem interleaved {red green blue : M128} {r g b : Nat → UInt8} (reds : Reads 8 red r)
    (greens : Reads 8 green g) (blues : Reads 8 blue b) :
    List.ofFn (interleaveFirst red green blue) ++
        (List.ofFn (interleaveSecond red green blue)).take 8 =
      blocks (fun x => [r x, g x, b x]) 8 := by
  have first := (interleaveFirst_reads reds greens blues).ofFn (Nat.le_refl 16)
  have second := (interleaveSecond_reads reds greens blues).ofFn (show 8 ≤ 16 by decide)
  rw [List.take_of_length_le (by rw [List.length_ofFn])] at first
  rw [first, second]
  rfl

theorem clampByte_toNat {n : Int} : ((clampByte n).toNat : Int) = min (max n 0) 255 := by
  rw [clampByte, UInt8.toNat_ofNat_of_lt' (by simp only [UInt8.size]; omega)]
  omega

theorem channel_reads {luma chroma : I32x8} (f g : Nat → Int) (left : Holds luma fun i => f i)
    (right : Holds chroma fun i => g i) (fits : ∀ k, IsI32 (f k + g k)) :
    Reads 8 (packLanes (clampLanes (sraiEpi32 shift (addEpi32 luma chroma))))
      fun k => clampByte ((f k + g k) >>> shift) :=
  (((left.add right).srai fun i => fits i).clamp (fun i => (fits i).shiftRight)
    ⟨by decide, by decide⟩ ⟨by decide, by decide⟩).pack fun _ => clampByte_toNat.symm

structure ChromaLanes.Hold (chroma : ChromaLanes) (c : Coefficients)
    (rounding greenRounding : Int) (us vs : Nat → UInt8) : Prop where
  red : Holds chroma.red fun i => c.redChroma rounding (vs i)
  green : Holds chroma.green fun i => c.greenChroma greenRounding (us i) (vs i)
  blue : Holds chroma.blue fun i => c.blueChroma rounding (us i)

theorem prepareChroma_hold (blues : Reads 8 u us) (reds : Reads 8 v vs) :
    (prepareChroma rounding greenRounding u v c).Hold c rounding greenRounding us vs := by
  have centredU := blues.holds.sub (holds_set1 128)
  have centredV := reds.holds.sub (holds_set1 128)
  exact
    { red := ((centredV.mul (holds_set1 c.cr)).add (holds_set1 rounding)).congr fun _ => by
        rw [Int.mul_comm, Coefficients.redChroma]
      green :=
        ((((holds_set1 0).sub (centredU.mul (holds_set1 c.gu))).sub
          (centredV.mul (holds_set1 c.gv))).add (holds_set1 greenRounding)).congr fun _ => by
            rw [Int.mul_comm _ c.gu, Int.mul_comm _ c.gv, Coefficients.greenChroma, Int.neg_mul,
              Int.zero_sub]
      blue := ((centredU.mul (holds_set1 c.cb)).add (holds_set1 rounding)).congr fun _ => by
        rw [Int.mul_comm, Coefficients.blueChroma] }

/-- The parameters of the transform leave every sum inside an `i32`. -/
structure Moderate (c : Coefficients) (rounding greenRounding : Int) : Prop where
  small : c.Small
  rounding : 0 ≤ rounding ∧ rounding ≤ 4096
  greenRounding : 0 ≤ greenRounding ∧ greenRounding ≤ 4096

theorem Moderate.terms (moderate : Moderate c rounding greenRounding) (y u v : UInt8) :
    (-4194304 ≤ c.luma y ∧ c.luma y ≤ 4194304) ∧
    (-4194304 ≤ c.redChroma rounding v ∧ c.redChroma rounding v ≤ 4194304) ∧
    (-4194304 ≤ c.greenChroma greenRounding u v ∧
      c.greenChroma greenRounding u v ≤ 4194304) ∧
    (-4194304 ≤ c.blueChroma rounding u ∧ c.blueChroma rounding u ≤ 4194304) := by
  obtain ⟨small, rounded, green⟩ := moderate
  have byte (b : UInt8) : (b.toNat : Int) ≤ 255 := by
    have := b.toNat_lt
    omega
  have centred (b : UInt8) : -256 ≤ (b.toNat : Int) - 128 ∧ (b.toNat : Int) - 128 ≤ 256 := by
    have := byte b
    omega
  have luma := @term_bounds c.cy ((y.toNat : Int) - c.offset) small.cy (by
    have := byte y
    have := small.offset
    omega)
  rw [Int.mul_comm] at luma
  have crv := term_bounds small.cr (centred v)
  have guu := term_bounds small.gu (centred u)
  have gvv := term_bounds small.gv (centred v)
  have cbu := term_bounds small.cb (centred u)
  simp only [Coefficients.luma, Coefficients.redChroma, Coefficients.greenChroma,
    Coefficients.blueChroma, Int.neg_mul]
  refine ⟨⟨?_, ?_⟩, ⟨?_, ?_⟩, ⟨?_, ?_⟩, ?_, ?_⟩ <;> omega

theorem Moderate.sums (moderate : Moderate c rounding greenRounding) (y u v : UInt8) :
    IsI32 (c.luma y + c.redChroma rounding v) ∧
    IsI32 (c.luma y + c.greenChroma greenRounding u v) ∧
    IsI32 (c.luma y + c.blueChroma rounding u) := by
  obtain ⟨luma, red, green, blue⟩ := moderate.terms y u v
  refine ⟨⟨?_, ?_⟩, ⟨?_, ?_⟩, ?_, ?_⟩ <;> omega

theorem convertEightWithChroma_writes {chroma : ChromaLanes} {pixel : Nat → List UInt8}
    (moderate : Moderate c rounding greenRounding)
    (prepared : chroma.Hold c rounding greenRounding us vs) (lumas : Reads 8 y ys)
    (pixels : ∀ k, k < 8 →
      pixel k = shiftedRgb shift rounding greenRounding c (ys k) (us k) (vs k)) :
    Writes (convertEightWithChroma shift y chroma c) (blocks pixel 8) := by
  have luma := (lumas.holds.sub (holds_set1 c.offset)).mul (holds_set1 c.cy)
  have sums (k : Nat) := moderate.sums (ys k) (us k) (vs k)
  have reds := @channel_reads shift _ _ (fun k => c.luma (ys k))
    (fun k => c.redChroma rounding (vs k)) luma prepared.red fun k => (sums k).1
  have greens := @channel_reads shift _ _ (fun k => c.luma (ys k))
    (fun k => c.greenChroma greenRounding (us k) (vs k)) luma prepared.green
    fun k => (sums k).2.1
  have blues := @channel_reads shift _ _ (fun k => c.luma (ys k))
    (fun k => c.blueChroma rounding (us k)) luma prepared.blue fun k => (sums k).2.2
  rw [blocks_congr pixels]
  unfold shiftedRgb
  rw [← interleaved reds greens blues]
  exact .append (by simp) (by simp) .copyFromSlice .copyFromSlice

theorem convertEight_writes {pixel : Nat → List UInt8}
    (moderate : Moderate c rounding greenRounding) (lumas : Reads 8 y ys) (blues : Reads 8 u us)
    (reds : Reads 8 v vs)
    (pixels : ∀ k, k < 8 →
      pixel k = shiftedRgb shift rounding greenRounding c (ys k) (us k) (vs k)) :
    Writes (convertEight shift rounding greenRounding y u v c) (blocks pixel 8) :=
  convertEightWithChroma_writes moderate (prepareChroma_hold blues reds) lumas pixels

/-- The two calls on the halves of a destination of sixteen pixels. -/
def convertSixteen (shift : Nat) (rounding greenRounding : Int) (y u v : M128)
    (c : Coefficients) : RgbFill Unit := do
  within 0 24 (convertEight shift rounding greenRounding y u v c)
  within 24 48
    (convertEight shift rounding greenRounding (srliSi128Eight y) (srliSi128Eight u)
      (srliSi128Eight v) c)

private theorem sixteen_pixels {pixel : Nat → List UInt8} :
    blocks pixel 16 = blocks pixel 8 ++ blocks (fun k => pixel (8 + k)) 8 :=
  @blocks_add _ pixel 8 8

theorem convertSixteen_writes {pixel : Nat → List UInt8}
    (moderate : Moderate c rounding greenRounding) (lumas : Reads 16 y ys) (blues : Reads 16 u us)
    (reds : Reads 16 v vs)
    (pixels : ∀ k, k < 16 →
      pixel k = shiftedRgb shift rounding greenRounding c (ys k) (us k) (vs k))
    (rgb : IsRgb pixel) :
    Writes (convertSixteen shift rounding greenRounding y u v c) (blocks pixel 16) := by
  have front := convertEight_writes moderate (lumas.mono (by decide)) (blues.mono (by decide))
    (reds.mono (by decide)) fun k bound => pixels k (by omega)
  have back := @convertEight_writes c shift rounding greenRounding _ _ _ _ _ _
    (fun k => pixel (8 + k)) moderate (lumas.srli (Nat.le_refl 8))
    (blues.srli (Nat.le_refl 8)) (reds.srli (Nat.le_refl 8))
    fun k bound => pixels (8 + k) (by omega)
  have size : (blocks pixel 8).length = 24 := rgb.row
  have rest : (blocks (fun k => pixel (8 + k)) 8).length = 24 :=
    IsRgb.row fun k => rgb (8 + k)
  rw [sixteen_pixels]
  exact .append size.symm (by rw [size, rest]) front back

end Eight

/-! ### Wide loads -/

def combineShuffledHalves (raw : M256) (mask : M128) : M128 :=
  unpackloEpi64 (shuffleEpi8 (low raw) mask) (shuffleEpi8 (high raw) mask)

/-- Both halves shuffled alike, four bytes of each. -/
def combineShuffledQuarters (raw : M256) (mask : M128) : M128 :=
  unpackloEpi32 (shuffleEpi8 (low raw) mask) (shuffleEpi8 (high raw) mask)

section Wide

variable {raw : M256} {f : Nat → UInt8} {indices : List Int} {pick : Nat → Nat}

theorem combineShuffledHalves_reads (reads : ReadsWide raw f)
    (named : ∀ k, k < 8 → (UInt8.ofInt (indices.getD k 0)).toNat = pick k ∧ pick k < 16)
    (again : ∀ k, pick (8 + k) = 16 + pick k) :
    Reads 16 (combineShuffledHalves raw (setrEpi8 indices)) fun k => f (pick k) := by
  refine (Reads.unpack64 (reads.low.shuffle named) (reads.high.shuffle named)).congr
    fun k bound => ?_
  split
  · rfl
  · rw [← again, Nat.add_sub_cancel' (by omega)]

theorem combineShuffledQuarters_reads (reads : ReadsWide raw f)
    (named : ∀ k, k < 4 → (UInt8.ofInt (indices.getD k 0)).toNat = pick k ∧ pick k < 16)
    (again : ∀ k, pick (4 + k) = 16 + pick k) :
    Reads 8 (combineShuffledQuarters raw (setrEpi8 indices)) fun k => f (pick k) := by
  refine (Reads.unpack32 (reads.low.shuffle named) (reads.high.shuffle named)).congr
    fun k bound => ?_
  split
  · rfl
  · rw [← again, Nat.add_sub_cancel' (by omega)]

end Wide

/-! ### Packed 4:2:2 -/

/-- Where a pair of pixels keeps its luma and chroma: `(y0, u, y1, v)`. -/
def pairOffsets (uyvy : Bool) : Nat × Nat × Nat × Nat :=
  if uyvy then (1, 0, 3, 2) else (0, 1, 2, 3)

def packed422Output (shift : Nat) (redChroma greenChroma blueChroma y : Int) :
    RgbFill Unit := do
  let red ← i32 (y + redChroma)
  let green ← i32 (y + greenChroma)
  let blue ← i32 (y + blueChroma)
  copyFromSlice
    [clampByte (red >>> shift), clampByte (green >>> shift), clampByte (blue >>> shift)]

/-- The scalar tail of `packed422_avx2`: one pair, from four source bytes. -/
def packed422Pair (uyvy : Bool) (shift : Nat) (rounding greenRounding : Int)
    (source : List UInt8) (c : Coefficients) : RgbFill Unit := do
  let y0 ← read source (pairOffsets uyvy).1
  let u ← read source (pairOffsets uyvy).2.1
  let y1 ← read source (pairOffsets uyvy).2.2.1
  let v ← read source (pairOffsets uyvy).2.2.2
  let y0 ← i32 (c.luma y0)
  let y1 ← i32 (c.luma y1)
  let redChroma ← i32 (c.redChroma rounding v)
  let greenChroma ← i32 (c.greenChroma greenRounding u v)
  let blueChroma ← i32 (c.blueChroma rounding u)
  let destination ← getState
  assertThat (destination.length % 3 = 0)
  forChunks 3 [y0, y1] (packed422Output shift redChroma greenChroma blueChroma)

/-- Masks that bring the luma, `u` and `v` bytes of eight pixels to the front. -/
def packed422Masks (uyvy : Bool) : M128 × M128 × M128 :=
  if uyvy then
    (setrEpi8 [1, 3, 5, 7, 9, 11, 13, 15, -1, -1, -1, -1, -1, -1, -1, -1],
      setrEpi8 [0, 0, 4, 4, 8, 8, 12, 12, -1, -1, -1, -1, -1, -1, -1, -1],
      setrEpi8 [2, 2, 6, 6, 10, 10, 14, 14, -1, -1, -1, -1, -1, -1, -1, -1])
  else
    (setrEpi8 [0, 2, 4, 6, 8, 10, 12, 14, -1, -1, -1, -1, -1, -1, -1, -1],
      setrEpi8 [1, 1, 5, 5, 9, 9, 13, 13, -1, -1, -1, -1, -1, -1, -1, -1],
      setrEpi8 [3, 3, 7, 7, 11, 11, 15, 15, -1, -1, -1, -1, -1, -1, -1, -1])

/-- `x86::packed422_avx2`: groups of eight pairs, then pairs. -/
def packed422Avx2 (uyvy : Bool) (shift : Nat) (rounding greenRounding : Int)
    (source : List UInt8) (c : Coefficients) : RgbFill Unit := do
  let rgb ← getState
  let pairCount := min (source.length / 4) (rgb.length / 6)
  let masks := packed422Masks uyvy
  let vectorizedPairs := pairCount / 8 * 8
  forStepBy 8 0 vectorizedPairs fun pair => do
    let raw ← loadu 32 source (pair * 4)
    let y := combineShuffledHalves raw masks.1
    let u := combineShuffledHalves raw masks.2.1
    let v := combineShuffledHalves raw masks.2.2
    within (pair * 6) (pair * 6 + 48) (convertSixteen shift rounding greenRounding y u v c)
  forRange vectorizedPairs pairCount fun pair => do
    let source ← view source (pair * 4) (pair * 4 + 4)
    within (pair * 6) (pair * 6 + 6) (packed422Pair uyvy shift rounding greenRounding source c)

/-- The pixel at `x` of a packed 4:2:2 row. -/
def packed422Shifted (shift : Nat) (rounding greenRounding : Int) (c : Coefficients)
    (uyvy : Bool) (source : List UInt8) (x : Nat) : List UInt8 :=
  let pair := x / 2 * 4
  if uyvy then
    shiftedRgb shift rounding greenRounding c (source.getD (x * 2 + 1) 0) (source.getD pair 0)
      (source.getD (pair + 2) 0)
  else
    shiftedRgb shift rounding greenRounding c (source.getD (x * 2) 0) (source.getD (pair + 1) 0)
      (source.getD (pair + 3) 0)

def pairsUpTo (pixel : Nat → List UInt8) (pairs : Nat) (old : List UInt8) (pair : Nat) :
    List UInt8 :=
  rowUpTo pixel (pairs * 2) old (pair * 2)

theorem pairsUpTo_zero {pixel : Nat → List UInt8} {pairs : Nat} {old : List UInt8} :
    pairsUpTo pixel pairs old 0 = old :=
  rowUpTo_zero

theorem writes_pairs {pixel : Nat → List UInt8} {m : RgbFill Unit} {old : List UInt8}
    {pairs pair count start stop : Nat} (rgb : IsRgb pixel) (fits : pairs * 6 ≤ old.length)
    (bound : pair + count ≤ pairs) (at_start : start = pair * 6)
    (at_stop : stop = (pair + count) * 6)
    (writes : Writes m (blocks (fun k => pixel (pair * 2 + k)) (count * 2))) :
    Returns (within start stop m) (pairsUpTo pixel pairs old pair) ()
      (pairsUpTo pixel pairs old (pair + count)) := by
  rw [pairsUpTo, pairsUpTo, Nat.add_mul]
  exact writes_pixels rgb (by omega) (by omega) (by omega) (by omega) writes

section Packed422

variable {c : Coefficients} {shift : Nat} {rounding greenRounding : Int} {uyvy : Bool}
  {source old : List UInt8}

theorem isRgb_packed422Shifted :
    IsRgb (packed422Shifted shift rounding greenRounding c uyvy source) := by
  intro x
  simp only [packed422Shifted]
  split <;> rfl

theorem packed422Shifted_nearest {x : Nat} :
    packed422Shifted 10 512 512 c uyvy source x = packed422Pixel c uyvy source x := by
  simp only [packed422Shifted, packed422Pixel, shiftedRgb_nearest]

theorem packed422Shifted_eq {x pair : Nat} (at_pair : x / 2 * 4 = pair) :
    packed422Shifted shift rounding greenRounding c uyvy source x =
      shiftedRgb shift rounding greenRounding c
        (source.getD (if uyvy then x * 2 + 1 else x * 2) 0)
        (source.getD (if uyvy then pair else pair + 1) 0)
        (source.getD (if uyvy then pair + 2 else pair + 3) 0) := by
  subst at_pair
  cases uyvy <;> rfl

theorem packed422Shifted_pair {pair : Nat} :
    packed422Shifted shift rounding greenRounding c uyvy source (pair * 2) =
      shiftedRgb shift rounding greenRounding c
        (source.getD (pair * 4 + (pairOffsets uyvy).1) 0)
        (source.getD (pair * 4 + (pairOffsets uyvy).2.1) 0)
        (source.getD (pair * 4 + (pairOffsets uyvy).2.2.2) 0) ∧
    packed422Shifted shift rounding greenRounding c uyvy source (pair * 2 + 1) =
      shiftedRgb shift rounding greenRounding c
        (source.getD (pair * 4 + (pairOffsets uyvy).2.2.1) 0)
        (source.getD (pair * 4 + (pairOffsets uyvy).2.1) 0)
        (source.getD (pair * 4 + (pairOffsets uyvy).2.2.2) 0) := by
  rw [packed422Shifted_eq (show pair * 2 / 2 * 4 = pair * 4 by omega),
    packed422Shifted_eq (show (pair * 2 + 1) / 2 * 4 = pair * 4 by omega)]
  have even : pair * 2 * 2 = pair * 4 := by omega
  have odd : (pair * 2 + 1) * 2 = pair * 4 + 2 := by omega
  rw [even, odd]
  cases uyvy with
  | true => exact ⟨rfl, rfl⟩
  | false => exact ⟨rfl, rfl⟩

private theorem packed422Masks_read {raw : M256} {f : Nat → UInt8} (reads : ReadsWide raw f) :
    Reads 16 (combineShuffledHalves raw (packed422Masks uyvy).1)
      (fun k => f (if uyvy then k * 2 + 1 else k * 2)) ∧
    Reads 16 (combineShuffledHalves raw (packed422Masks uyvy).2.1)
      (fun k => f (if uyvy then k / 2 * 4 else k / 2 * 4 + 1)) ∧
    Reads 16 (combineShuffledHalves raw (packed422Masks uyvy).2.2)
      (fun k => f (if uyvy then k / 2 * 4 + 2 else k / 2 * 4 + 3)) := by
  cases uyvy with
  | true =>
      refine ⟨?_, ?_, ?_⟩
      · exact combineShuffledHalves_reads reads (by decide) fun k => by
          simp only [if_true]
          omega
      · exact combineShuffledHalves_reads reads (by decide) fun k => by
          simp only [if_true]
          omega
      · exact combineShuffledHalves_reads reads (by decide) fun k => by
          simp only [if_true]
          omega
  | false =>
      refine ⟨?_, ?_, ?_⟩
      · exact combineShuffledHalves_reads reads (by decide) fun k => by
          simp only [Bool.false_eq_true, if_false]
          omega
      · exact combineShuffledHalves_reads reads (by decide) fun k => by
          simp only [Bool.false_eq_true, if_false]
          omega
      · exact combineShuffledHalves_reads reads (by decide) fun k => by
          simp only [Bool.false_eq_true, if_false]
          omega

private theorem packed422_group {pair : Nat} {raw : M256}
    (moderate : Moderate c rounding greenRounding)
    (reads : ReadsWide raw fun k => source.getD (pair * 4 + k) 0) :
    Writes
      (convertSixteen shift rounding greenRounding
        (combineShuffledHalves raw (packed422Masks uyvy).1)
        (combineShuffledHalves raw (packed422Masks uyvy).2.1)
        (combineShuffledHalves raw (packed422Masks uyvy).2.2) c)
      (blocks (fun k => packed422Shifted shift rounding greenRounding c uyvy source
        (pair * 2 + k)) 16) := by
  obtain ⟨lumas, blues, reds⟩ := packed422Masks_read reads
  refine convertSixteen_writes moderate lumas blues reds (fun k _ => ?_)
    fun k => isRgb_packed422Shifted (pair * 2 + k)
  rw [packed422Shifted_eq (show (pair * 2 + k) / 2 * 4 = pair * 4 + k / 2 * 4 by omega)]
  congr 2 <;> split <;> omega

theorem packed422Output_writes {y u v : UInt8} (moderate : Moderate c rounding greenRounding) :
    Writes
      (packed422Output shift (c.redChroma rounding v) (c.greenChroma greenRounding u v)
        (c.blueChroma rounding u) (c.luma y))
      (shiftedRgb shift rounding greenRounding c y u v) := by
  obtain ⟨red, green, blue⟩ := moderate.sums y u v
  intro old same
  exact .bind (i32_returns red.1 red.2) (.bind (i32_returns green.1 green.2)
    (.bind (i32_returns blue.1 blue.2) (.copyFromSlice same.symm)))

private theorem packed422Pair_writes {pair : Nat} (moderate : Moderate c rounding greenRounding)
    (room : pair * 4 + 4 ≤ source.length) :
    Writes
      (packed422Pair uyvy shift rounding greenRounding
        (slice source (pair * 4) (pair * 4 + 4)) c)
      (blocks (fun k => packed422Shifted shift rounding greenRounding c uyvy source
        (pair * 2 + k)) 2) := by
  have size := length_slice_add room
  have byte (k : Nat) (bound : k < 4) :
      (slice source (pair * 4) (pair * 4 + 4)).getD k 0 = source.getD (pair * 4 + k) 0 :=
    getD_slice (by omega)
  have inside : (pairOffsets uyvy).1 < 4 ∧ (pairOffsets uyvy).2.1 < 4 ∧
      (pairOffsets uyvy).2.2.1 < 4 ∧ (pairOffsets uyvy).2.2.2 < 4 := by
    cases uyvy <;> decide
  have rgb : IsRgb fun k =>
      packed422Shifted shift rounding greenRounding c uyvy source (pair * 2 + k) :=
    fun k => isRgb_packed422Shifted (pair * 2 + k)
  intro old same
  have six := same
  rw [rgb.row] at six
  refine .bind (.read (d := 0) (by omega)) (.bind (.read (d := 0) (by omega))
    (.bind (.read (d := 0) (by omega)) (.bind (.read (d := 0) (by omega)) ?_)))
  rw [byte _ inside.1, byte _ inside.2.1, byte _ inside.2.2.1, byte _ inside.2.2.2]
  have first := moderate.terms (source.getD (pair * 4 + (pairOffsets uyvy).1) 0)
    (source.getD (pair * 4 + (pairOffsets uyvy).2.1) 0)
    (source.getD (pair * 4 + (pairOffsets uyvy).2.2.2) 0)
  have second := moderate.terms (source.getD (pair * 4 + (pairOffsets uyvy).2.2.1) 0)
    (source.getD (pair * 4 + (pairOffsets uyvy).2.1) 0)
    (source.getD (pair * 4 + (pairOffsets uyvy).2.2.2) 0)
  refine .bind (i32_returns (by omega) (by omega)) (.bind (i32_returns (by omega) (by omega))
    (.bind (i32_returns (by omega) (by omega)) (.bind (i32_returns (by omega) (by omega))
    (.bind (i32_returns (by omega) (by omega)) (.bind .getState
    (.bind (.assertThat (by omega)) ?_))))))
  refine (Fills.chunks rgb (by decide) fun k bound => ?_).writes old same
  have two : k < 2 := bound
  obtain rfl | rfl : k = 0 ∨ k = 1 := by omega
  · rw [Nat.add_zero, packed422Shifted_pair.1]
    exact packed422Output_writes moderate
  · rw [packed422Shifted_pair.2]
    exact packed422Output_writes moderate

theorem packed422Avx2_returns (moderate : Moderate c rounding greenRounding) :
    Returns (packed422Avx2 uyvy shift rounding greenRounding source c) old ()
      (pairsUpTo (packed422Shifted shift rounding greenRounding c uyvy source)
        (min (source.length / 4) (old.length / 6)) old
        (min (source.length / 4) (old.length / 6))) := by
  generalize known : min (source.length / 4) (old.length / 6) = pairs
  have rgb := @isRgb_packed422Shifted c shift rounding greenRounding uyvy source
  have room : pairs * 4 ≤ source.length := by omega
  have fits : pairs * 6 ≤ old.length := by omega
  refine .bind .getState ?_
  simp only [known]
  refine .bind (@Returns.forStepBy _ _ _ 8 (pairs / 8) _
    (pairsUpTo (packed422Shifted shift rounding greenRounding c uyvy source) pairs old)
    (by decide) pairsUpTo_zero fun k bound => ?_) ?_
  · refine .bind (loadu_returns (by omega)) ?_
    exact writes_pairs rgb fits (by omega) (by omega) (by omega)
      (packed422_group moderate fun _ => rfl)
  · refine Returns.forRange (by omega) fun pair _ bound => ?_
    have inside : pair * 4 + 4 ≤ source.length := by omega
    refine .bind (.view (by omega) inside) ?_
    exact writes_pairs rgb fits (by omega) (by omega) (by omega)
      (packed422Pair_writes moderate inside)

end Packed422

end CameraRs

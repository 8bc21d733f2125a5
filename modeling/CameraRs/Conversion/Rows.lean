/-
What the column loops write. A row is a list of three-byte pixels; a loop that
starts where a row kernel stopped writes the pixels that are left.
-/

import CameraRs.Conversion.Kernels

namespace CameraRs

open Lib Fill

def imageOf (pixel : Nat → Nat → List UInt8) (width height : Nat) : List UInt8 :=
  blocks (fun row => blocks (pixel row) width) height

def IsRgb (pixel : Nat → List UInt8) : Prop := ∀ x, (pixel x).length = 3

section Pixels

variable {pixel : Nat → List UInt8} {width column start stop : Nat}

theorem IsRgb.row (rgb : IsRgb pixel) : (blocks pixel width).length = width * 3 :=
  length_blocks rgb

theorem isRgb_planar {c : Coefficients} {y u v : List UInt8} : IsRgb (planarPixel c y u v) :=
  fun _ => rfl

theorem isRgb_semiplanar {c : Coefficients} {vuOrder : Bool} {y uv : List UInt8} :
    IsRgb (semiplanarPixel c vuOrder y uv) :=
  fun _ => rfl

theorem isRgb_packed422 {c : Coefficients} {uyvy : Bool} {source : List UInt8} :
    IsRgb (packed422Pixel c uyvy source) := by
  intro x
  simp only [packed422Pixel]
  split <;> rfl

theorem isRgb_packed8888 {r g b : Nat} {source : List UInt8} :
    IsRgb (packed8888Pixel r g b source) :=
  fun _ => rfl

def rowUpTo (pixel : Nat → List UInt8) (width : Nat) (old : List UInt8) (n : Nat) :
    List UInt8 :=
  overlay (blocks pixel width) (n * 3) old

theorem rowUpTo_zero {old : List UInt8} : rowUpTo pixel width old 0 = old := by
  rw [rowUpTo, Nat.zero_mul, overlay_zero]

theorem rowUpTo_width {old : List UInt8} (rgb : IsRgb pixel)
    (size : old.length = width * 3) : rowUpTo pixel width old width = blocks pixel width := by
  have whole : width * 3 = (blocks pixel width).length := rgb.row.symm
  rw [rowUpTo, whole, overlay_full (by omega)]

theorem writes_pixel {m : RgbFill Unit} {old : List UInt8} {x : Nat} (rgb : IsRgb pixel)
    (size : old.length = width * 3) (bound : x < width) (writes : Writes m (pixel x)) :
    Returns (within (x * 3) (x * 3 + 3) m) (rowUpTo pixel width old x) ()
      (rowUpTo pixel width old (x + 1)) := by
  rw [rowUpTo, rowUpTo, Nat.succ_mul]
  exact Writes.block rgb bound (by rw [rgb.row]; omega) writes

theorem writes_pixels {m : RgbFill Unit} {old : List UInt8} {k n : Nat} (rgb : IsRgb pixel)
    (fits : width * 3 ≤ old.length) (bound : k + n ≤ width) (at_start : start = k * 3)
    (at_stop : stop = (k + n) * 3)
    (writes : Writes m (blocks (fun x => pixel (k + x)) n)) :
    Returns (within start stop m) (rowUpTo pixel width old k) ()
      (rowUpTo pixel width old (k + n)) := by
  subst at_start at_stop
  have size : (blocks pixel width).length = width * 3 := rgb.row
  refine Writes.advance (by omega) (by omega) (by omega) ?_
  rwa [slice_blocks_run rgb bound]

theorem writes_row {step : Nat} {kernel : RgbFill Nat} {columns : Nat → RgbFill Unit}
    (rgb : IsRgb pixel) (first : FillsPrefix step width kernel pixel)
    (rest : ∀ start old, start ≤ width → (start % step = 0 ∨ start = width) →
      old.length = width * 3 →
      Returns (columns start) (rowUpTo pixel width old start) ()
        (rowUpTo pixel width old width)) :
    Writes (kernel >>= columns) (blocks pixel width) := by
  intro old same
  have size : old.length = width * 3 := by rw [same, rgb.row]
  obtain ⟨start, inside, aligned, ran⟩ := first old size
  have finished := rest start old inside aligned size
  rw [rowUpTo_width rgb size] at finished
  exact .bind ran finished

theorem writes_rows {first second : Nat → List UInt8}
    {kernel : Fill (List UInt8 × List UInt8) CameraError Nat}
    {columns : Nat → Fill (List UInt8 × List UInt8) CameraError Unit}
    (rgb0 : IsRgb first) (rgb1 : IsRgb second)
    (starts : FillsPairPrefix width kernel first second)
    (rest : ∀ start old0 old1, start ≤ width → (start % 2 = 0 ∨ start = width) →
      old0.length = width * 3 → old1.length = width * 3 →
      Returns (columns start) (rowUpTo first width old0 start, rowUpTo second width old1 start)
        () (rowUpTo first width old0 width, rowUpTo second width old1 width))
    {old0 old1 : List UInt8} (size0 : old0.length = width * 3)
    (size1 : old1.length = width * 3) :
    Returns (kernel >>= columns) (old0, old1) () (blocks first width, blocks second width) := by
  obtain ⟨start, inside, aligned, ran⟩ := starts old0 old1 size0 size1
  have finished := rest start old0 old1 inside aligned size0 size1
  rw [rowUpTo_width rgb0 size0, rowUpTo_width rgb1 size1] at finished
  exact .bind ran finished

end Pixels

/-! ### Column loops -/

section Columns

variable {c : Coefficients} {y y0 y1 u v uv : List UInt8} {vuOrder : Bool}
  {start width : Nat} {old old0 old1 : List UInt8}

theorem chroma_of_pair {start width column x : Nat} (aligned : start % 2 = 0 ∨ start = width)
    (later : start ≤ column) (inside : column < width) (parity : (column - start) % 2 = 0)
    (low : column ≤ x) (high : x < min (column + 2) width) : x / 2 = column / 2 := by
  omega

theorem planarColumns_writes (small : c.Small)
    (chroma : u.length = divCeil2 width ∧ v.length = divCeil2 width)
    (luma : y.length = width) (ordered : start ≤ width)
    (aligned : start % 2 = 0 ∨ start = width) (size : old.length = width * 3) :
    Returns (planarColumns c y u v start width) (rowUpTo (planarPixel c y u v) width old start)
      () (rowUpTo (planarPixel c y u v) width old width) := by
  refine Returns.forStep2 ordered fun column later inside parity => ?_
  refine Returns.forRange (by omega) fun x low high => ?_
  have shared := chroma_of_pair aligned later inside parity low high
  have half : column / 2 < divCeil2 width := by unfold divCeil2; omega
  refine .bind (.read (d := 0) (by omega)) (.bind (.read (d := 0) (by omega))
    (.bind (.read (d := 0) (by omega)) ?_))
  refine writes_pixel isRgb_planar size (by omega) ?_
  rw [planarPixel, shared]
  exact yuvPixel_writes small

theorem planarPairColumns_writes (small : c.Small)
    (chroma : u.length = divCeil2 width ∧ v.length = divCeil2 width)
    (luma : y0.length = width ∧ y1.length = width) (ordered : start ≤ width)
    (aligned : start % 2 = 0 ∨ start = width) (size0 : old0.length = width * 3)
    (size1 : old1.length = width * 3) :
    Returns (planarPairColumns c y0 y1 u v start width)
      (rowUpTo (planarPixel c y0 u v) width old0 start,
        rowUpTo (planarPixel c y1 u v) width old1 start) ()
      (rowUpTo (planarPixel c y0 u v) width old0 width,
        rowUpTo (planarPixel c y1 u v) width old1 width) := by
  refine @Returns.forStep2 _ _ start width _ (fun n =>
    (rowUpTo (planarPixel c y0 u v) width old0 n, rowUpTo (planarPixel c y1 u v) width old1 n))
    ordered fun column later inside parity => ?_
  have half : column / 2 < divCeil2 width := by unfold divCeil2; omega
  -- One row of the pair; the other row is not touched meanwhile.
  have pixels (luma old : List UInt8) (known : luma.length = width)
      (size : old.length = width * 3) :
      Returns (forRange column (min (column + 2) width) fun x => do
          let y ← read luma x
          let u ← read u (column / 2)
          let v ← read v (column / 2)
          within (x * 3) (x * 3 + 3) (yuvPixel c y u v))
        (rowUpTo (planarPixel c luma u v) width old column) ()
        (rowUpTo (planarPixel c luma u v) width old (min (column + 2) width)) := by
    refine Returns.forRange (by omega) fun x low high => ?_
    have shared := chroma_of_pair aligned later inside parity low high
    refine .bind (.read (d := 0) (by omega)) (.bind (.read (d := 0) (by omega))
      (.bind (.read (d := 0) (by omega)) ?_))
    refine writes_pixel isRgb_planar size (by omega) ?_
    rw [planarPixel, shared]
    exact yuvPixel_writes small
  exact .bind (.onFst (pixels y0 old0 luma.1 size0)) (.onSnd (pixels y1 old1 luma.2 size1))

theorem readChroma_returns {σ : Type} {s : σ} {chroma : Nat} (bound : chroma + 1 < uv.length) :
    Returns (readChroma vuOrder uv chroma) s (chromaPair vuOrder uv chroma) s := by
  unfold readChroma chromaPair
  cases vuOrder
  · exact .bind (.read (by omega)) (.bind (.read bound) .pure)
  · exact .bind (.read bound) (.bind (.read (by omega)) .pure)

theorem semiplanarColumns_writes (small : c.Small) (chroma : uv.length = divCeil2 width * 2)
    (luma : y.length = width) (ordered : start ≤ width)
    (aligned : start % 2 = 0 ∨ start = width) (size : old.length = width * 3) :
    Returns (semiplanarColumns c vuOrder y uv start width)
      (rowUpTo (semiplanarPixel c vuOrder y uv) width old start) ()
      (rowUpTo (semiplanarPixel c vuOrder y uv) width old width) := by
  refine Returns.forStep2 ordered fun column later inside parity => ?_
  have half : column / 2 < divCeil2 width := by unfold divCeil2; omega
  refine .bind (readChroma_returns (by omega)) ?_
  refine Returns.forRange (by omega) fun x low high => ?_
  have shared := chroma_of_pair aligned later inside parity low high
  refine .bind (.read (d := 0) (by omega)) ?_
  refine writes_pixel isRgb_semiplanar size (by omega) ?_
  rw [semiplanarPixel, shared]
  exact yuvPixel_writes small

theorem semiplanarPairColumns_writes (small : c.Small) (chroma : uv.length = divCeil2 width * 2)
    (luma : y0.length = width ∧ y1.length = width) (ordered : start ≤ width)
    (aligned : start % 2 = 0 ∨ start = width) (size0 : old0.length = width * 3)
    (size1 : old1.length = width * 3) :
    Returns (semiplanarPairColumns c vuOrder y0 y1 uv start width)
      (rowUpTo (semiplanarPixel c vuOrder y0 uv) width old0 start,
        rowUpTo (semiplanarPixel c vuOrder y1 uv) width old1 start) ()
      (rowUpTo (semiplanarPixel c vuOrder y0 uv) width old0 width,
        rowUpTo (semiplanarPixel c vuOrder y1 uv) width old1 width) := by
  let rows (n : Nat) := (rowUpTo (semiplanarPixel c vuOrder y0 uv) width old0 n,
    rowUpTo (semiplanarPixel c vuOrder y1 uv) width old1 n)
  refine @Returns.forStep2 _ _ start width _ rows ordered
    fun column later inside parity => ?_
  have half : column / 2 < divCeil2 width := by unfold divCeil2; omega
  refine .bind (readChroma_returns (by omega)) ?_
  refine @Returns.forRange _ _ column (min (column + 2) width) _ rows (by omega)
    fun x low high => ?_
  have shared := chroma_of_pair aligned later inside parity low high
  have pixel (luma old : List UInt8) (size : old.length = width * 3) :
      Returns (within (x * 3) (x * 3 + 3) (yuvPixel c (luma.getD x 0)
        (chromaPair vuOrder uv (column / 2 * 2)).1 (chromaPair vuOrder uv (column / 2 * 2)).2))
        (rowUpTo (semiplanarPixel c vuOrder luma uv) width old x) ()
        (rowUpTo (semiplanarPixel c vuOrder luma uv) width old (x + 1)) := by
    refine writes_pixel isRgb_semiplanar size (by omega) ?_
    rw [semiplanarPixel, shared]
    exact yuvPixel_writes small
  exact .bind (.read (by omega)) (.bind (.onFst (pixel y0 old0 size0))
    (.bind (.read (by omega)) (.onSnd (pixel y1 old1 size1))))

end Columns

end CameraRs

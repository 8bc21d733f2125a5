/-
The crops of `camera2_zoom_crop`: which zooms an active array takes, and where their crops are.
-/

import CameraRs.Camera2.Controls

namespace CameraRs.Camera2.Controls

namespace Rect

/-- The edges that do not come first, in whole numbers. -/
def right (rect : Rect) : Int := rect.left.toInt + rect.width.toInt

def bottom (rect : Rect) : Int := rect.top.toInt + rect.height.toInt

structure Inside (inner outer : Rect) : Prop where
  left : outer.left.toInt ≤ inner.left.toInt
  top : outer.top.toInt ≤ inner.top.toInt
  right : inner.right ≤ outer.right
  bottom : inner.bottom ≤ outer.bottom

/-- The margins on opposite sides differ by at most one. -/
structure Centred (inner outer : Rect) : Prop where
  across : inner.left.toInt - outer.left.toInt ≤ outer.right - inner.right ∧
    outer.right - inner.right ≤ inner.left.toInt - outer.left.toInt + 1
  down : inner.top.toInt - outer.top.toInt ≤ outer.bottom - inner.bottom ∧
    outer.bottom - inner.bottom ≤ inner.top.toInt - outer.top.toInt + 1

end Rect

/-- What is left of a side, and the margin before it. -/
def side (size zoom : Int) : Int := size * 100 / zoom

def margin (size zoom : Int) : Int := (size - side size zoom) / 2

theorem side_nonneg {size zoom : Int} (proper : 0 < size) (least : 100 ≤ zoom) :
    0 ≤ side size zoom :=
  Int.ediv_nonneg (by omega) (by omega)

theorem side_le {size zoom : Int} (proper : 0 < size) (least : 100 ≤ zoom) :
    side size zoom ≤ size := by
  have scaled : size * 100 ≤ size * zoom := Int.mul_le_mul_of_nonneg_left least (by omega)
  exact Int.ediv_le_of_le_mul (by omega) scaled

theorem side_antitone {size zoom closer : Int} (proper : 0 < size) (least : 100 ≤ zoom)
    (more : zoom ≤ closer) : side size closer ≤ side size zoom := by
  have kept := side_nonneg proper (by omega : 100 ≤ closer)
  refine Int.le_ediv_of_mul_le (by omega) ?_
  calc side size closer * zoom
      ≤ side size closer * closer := Int.mul_le_mul_of_nonneg_left more kept
    _ ≤ size * 100 := Int.ediv_mul_le _ (by omega)

structure Crops (sensor : Rect) (zoom : Int) (crop : Rect) : Prop where
  left : crop.left.toInt = sensor.left.toInt + margin sensor.width.toInt zoom
  top : crop.top.toInt = sensor.top.toInt + margin sensor.height.toInt zoom
  width : crop.width.toInt = side sensor.width.toInt zoom
  height : crop.height.toInt = side sensor.height.toInt zoom

/-- What `camera2_zoom_crop` asks for. -/
structure Croppable (sensor : Rect) (zoom : Int) : Prop where
  least : 100 ≤ zoom
  left : 0 ≤ sensor.left.toInt
  top : 0 ≤ sensor.top.toInt
  width : 0 < sensor.width.toInt
  height : 0 < sensor.height.toInt
  across : 0 < side sensor.width.toInt zoom
  down : 0 < side sensor.height.toInt zoom
  horizontal : sensor.left.toInt + margin sensor.width.toInt zoom ≤ 2147483647
  vertical : sensor.top.toInt + margin sensor.height.toInt zoom ≤ 2147483647

theorem int32_ofInt {n : Int} (lower : -2147483648 ≤ n) (upper : n ≤ 2147483647) :
    (Int32.ofInt n).toInt = n :=
  Int32.toInt_ofInt_of_le (by omega) (by omega)

theorem zoomCrop_eq {sensor : Rect} {zoom100 : Int32} (proper : ¬(zoom100 < 100 ∨
      sensor.left < 0 ∨ sensor.top < 0 ∨ sensor.width ≤ 0 ∨ sensor.height ≤ 0)) :
    zoomCrop sensor zoom100 =
      if side sensor.width.toInt zoom100.toInt = 0 ∨ side sensor.height.toInt zoom100.toInt = 0 ∨
          sensor.left.toInt + margin sensor.width.toInt zoom100.toInt > 2147483647 ∨
          sensor.top.toInt + margin sensor.height.toInt zoom100.toInt > 2147483647 then none
      else
        some
          { left := Int32.ofInt (sensor.left.toInt + margin sensor.width.toInt zoom100.toInt)
            top := Int32.ofInt (sensor.top.toInt + margin sensor.height.toInt zoom100.toInt)
            width := Int32.ofInt (side sensor.width.toInt zoom100.toInt)
            height := Int32.ofInt (side sensor.height.toInt zoom100.toInt) } := by
  unfold zoomCrop
  rw [if_neg proper]
  simp only [not_or, Int32.lt_iff_toInt_lt, Int32.le_iff_toInt_le, Int32.reduceToInt,
    Int.not_lt, Int.not_le] at proper
  obtain ⟨least, -, -, width, height⟩ := proper
  have across := side_le width least
  have down := side_le height least
  simp only [margin, side] at across down ⊢
  rw [Int.tdiv_eq_ediv_of_nonneg (a := sensor.width.toInt * 100) (by omega),
    Int.tdiv_eq_ediv_of_nonneg (a := sensor.height.toInt * 100) (by omega),
    Int.tdiv_eq_ediv_of_nonneg (by omega), Int.tdiv_eq_ediv_of_nonneg (by omega)]
  rfl

theorem zoomCrop_isSome_iff {sensor : Rect} {zoom100 : Int32} :
    (zoomCrop sensor zoom100).isSome = true ↔ Croppable sensor zoom100.toInt := by
  by_cases proper : zoom100 < 100 ∨ sensor.left < 0 ∨ sensor.top < 0 ∨ sensor.width ≤ 0 ∨
      sensor.height ≤ 0
  · have refused : zoomCrop sensor zoom100 = none := if_pos proper
    rw [refused]
    simp only [Int32.lt_iff_toInt_lt, Int32.le_iff_toInt_le, Int32.reduceToInt] at proper
    refine ⟨fun impossible => (nomatch impossible), fun fits => ?_⟩
    obtain ⟨least, left, top, width, height, -, -, -, -⟩ := fits
    omega
  · rw [zoomCrop_eq proper]
    simp only [not_or, Int32.lt_iff_toInt_lt, Int32.le_iff_toInt_le, Int32.reduceToInt,
      Int.not_lt, Int.not_le] at proper
    obtain ⟨least, left, top, width, height⟩ := proper
    have across := side_nonneg width least
    have down := side_nonneg height least
    split
    next refused =>
      refine ⟨fun impossible => (nomatch impossible), fun fits => ?_⟩
      obtain ⟨-, -, -, -, -, positive, positive', small, small'⟩ := fits
      omega
    next accepted =>
      exact ⟨fun _ => ⟨least, left, top, width, height, by omega, by omega, by omega, by omega⟩,
        fun _ => rfl⟩

theorem zoomCrop_crops {sensor crop : Rect} {zoom100 : Int32}
    (cropped : zoomCrop sensor zoom100 = some crop) : Crops sensor zoom100.toInt crop := by
  have fits : Croppable sensor zoom100.toInt :=
    zoomCrop_isSome_iff.mp (cropped ▸ rfl)
  have proper : ¬(zoom100 < 100 ∨ sensor.left < 0 ∨ sensor.top < 0 ∨ sensor.width ≤ 0 ∨
      sensor.height ≤ 0) := by
    intro refused
    have none : zoomCrop sensor zoom100 = none := if_pos refused
    rw [none] at cropped
    cases cropped
  obtain ⟨least, left, top, width, height, across, down, horizontal, vertical⟩ := fits
  have narrower := side_le width least
  have lower := side_le height least
  have widest := sensor.width.toInt_lt
  have highest := sensor.height.toInt_lt
  rw [zoomCrop_eq proper, if_neg (by omega)] at cropped
  cases cropped
  have before : 0 ≤ margin sensor.width.toInt zoom100.toInt := by unfold margin; omega
  have above : 0 ≤ margin sensor.height.toInt zoom100.toInt := by unfold margin; omega
  exact ⟨int32_ofInt (by omega) horizontal, int32_ofInt (by omega) vertical,
    int32_ofInt (by omega) (by omega), int32_ofInt (by omega) (by omega)⟩

theorem Crops.inside {sensor crop wider : Rect} {zoom closer : Int}
    (fits : Croppable sensor zoom) (more : zoom ≤ closer)
    (outer : Crops sensor zoom wider) (inner : Crops sensor closer crop) : crop.Inside wider := by
  have across := side_antitone fits.width fits.least more
  have down := side_antitone fits.height fits.least more
  have left := outer.left
  have left' := inner.left
  have top := outer.top
  have top' := inner.top
  have width := outer.width
  have width' := inner.width
  have height := outer.height
  have height' := inner.height
  unfold margin at left left' top top'
  constructor
  · omega
  · omega
  · unfold Rect.right
    omega
  · unfold Rect.bottom
    omega

theorem Crops.centred {sensor crop : Rect} {zoom : Int} (crops : Crops sensor zoom crop) :
    crop.Centred sensor := by
  have left := crops.left
  have top := crops.top
  have width := crops.width
  have height := crops.height
  unfold margin at left top
  constructor
  · unfold Rect.right
    omega
  · unfold Rect.bottom
    omega

theorem Croppable.wider {sensor : Rect} {zoom wider : Int} (fits : Croppable sensor zoom)
    (least : 100 ≤ wider) (less : wider ≤ zoom) : Croppable sensor wider := by
  have across := side_antitone fits.width least less
  have down := side_antitone fits.height least less
  have positive := fits.across
  have positive' := fits.down
  have horizontal := fits.horizontal
  have vertical := fits.vertical
  unfold margin at horizontal vertical
  refine ⟨least, fits.left, fits.top, fits.width, fits.height, by omega, by omega, ?_, ?_⟩
  · unfold margin
    omega
  · unfold margin
    omega

theorem Crops.whole {sensor crop : Rect} (crops : Crops sensor 100 crop) : crop = sensor := by
  have full (size : Int) : side size 100 = size := Int.mul_ediv_cancel _ (by decide)
  have none (size : Int) : margin size 100 = 0 := by rw [margin, full, Int.sub_self]; rfl
  obtain ⟨left, top, width, height⟩ := crops
  rw [none, Int.add_zero, Int32.toInt_inj] at left top
  rw [full, Int32.toInt_inj] at width height
  cases crop
  cases sensor
  simp only at left top width height
  subst left top width height
  rfl

theorem zoomCrop_wider {sensor crop : Rect} {zoom100 wider : Int32}
    (cropped : zoomCrop sensor zoom100 = some crop) (least : 100 ≤ wider)
    (less : wider ≤ zoom100) :
    ∃ outer, zoomCrop sensor wider = some outer ∧ Crops sensor wider.toInt outer ∧
      crop.Inside outer := by
  have fits : Croppable sensor zoom100.toInt := zoomCrop_isSome_iff.mp (cropped ▸ rfl)
  rw [Int32.le_iff_toInt_le] at least less
  have wide := fits.wider least less
  obtain ⟨outer, found⟩ := Option.isSome_iff_exists.mp (zoomCrop_isSome_iff.mpr wide)
  have outerCrops := zoomCrop_crops found
  exact ⟨outer, found, outerCrops, Crops.inside wide less outerCrops (zoomCrop_crops cropped)⟩

theorem zoomCrop_inside {sensor crop : Rect} {zoom100 : Int32}
    (cropped : zoomCrop sensor zoom100 = some crop) :
    zoomCrop sensor 100 = some sensor ∧ crop.Inside sensor := by
  have fits : Croppable sensor zoom100.toInt := zoomCrop_isSome_iff.mp (cropped ▸ rfl)
  obtain ⟨whole, found, crops, inside⟩ :=
    zoomCrop_wider cropped (Int32.le_refl 100) (Int32.le_iff_toInt_le.mpr fits.least)
  have same : whole = sensor := crops.whole
  subst same
  exact ⟨found, inside⟩

/-- The zooms that an active array takes reach from 100, the whole array, up to the last one, and
each crop is centred and inside of all that came before it. -/
theorem zoom_crops_nested {sensor crop : Rect} {zoom100 : Int32}
    (cropped : zoomCrop sensor zoom100 = some crop) :
    crop.Inside sensor ∧ crop.Centred sensor ∧ zoomCrop sensor 100 = some sensor ∧
      (∀ wider : Int32, 100 ≤ wider → wider ≤ zoom100 →
        ∃ outer, zoomCrop sensor wider = some outer ∧ crop.Inside outer) := by
  obtain ⟨whole, inside⟩ := zoomCrop_inside cropped
  refine ⟨inside, (zoomCrop_crops cropped).centred, whole, fun wider least less => ?_⟩
  obtain ⟨outer, found, -, around⟩ := zoomCrop_wider cropped least less
  exact ⟨outer, found, around⟩

theorem zoom_crops_nested_double : ∃ crop, zoomCrop ⟨8, 8, 4000, 3000⟩ 200 = some crop ∧
    crop.Inside ⟨8, 8, 4000, 3000⟩ := by
  have cropped : zoomCrop ⟨8, 8, 4000, 3000⟩ 200 = some ⟨1008, 758, 2000, 1500⟩ := by
    decide +kernel
  exact ⟨_, cropped, (zoom_crops_nested cropped).1⟩

end CameraRs.Camera2.Controls

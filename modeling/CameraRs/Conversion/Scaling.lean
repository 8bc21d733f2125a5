/-
Mapped conversion: the cached maps are the nearest-neighbour formula, rows are
resized by it on the general path and on the 2:3 and 3:4 shortcuts, and the
packed, scalar and row-wise scalers write the requested image.
-/

import CameraRs.Conversion.Reference

namespace CameraRs

open Lib Fill

/-! ### Cached maps -/

/-- The columns that the map of these dimensions holds. -/
def nearestColumns (sourceWidth destinationWidth : Nat) : List Nat :=
  (List.range destinationWidth).map (sourceColumn sourceWidth destinationWidth)

def nearestRows (sourceHeight destinationHeight : Nat) (bottomUp : Bool) : List Nat :=
  (List.range destinationHeight).map (sourceRow sourceHeight destinationHeight bottomUp)

/-- The map holds what its dimensions ask for. -/
def NearestMap.Fresh : NearestMap → Prop
  | ⟨(sourceWidth, sourceHeight, destinationWidth, destinationHeight, bottomUp), x, y⟩ =>
      x = nearestColumns sourceWidth destinationWidth ∧
        y = nearestRows sourceHeight destinationHeight bottomUp

section Maps

variable {limit source destination : Nat}

theorem mapM_map {α β : Type} {f : α → Option β} {g : α → β} {items : List α}
    (defined : ∀ item ∈ items, f item = some (g item)) : items.mapM f = some (items.map g) := by
  induction items with
  | nil => rfl
  | cons head tail ih =>
      rw [List.mapM_cons, defined head List.mem_cons_self,
        ih fun item member => defined item (List.mem_cons_of_mem head member)]
      rfl

theorem mapM_values {α β : Type} {f : α → Option β} {g : α → β} {items : List α}
    {values : List β} (value : ∀ item b, f item = some b → b = g item)
    (all : items.mapM f = some values) : values = items.map g := by
  induction items generalizing values with
  | nil =>
      cases all
      rfl
  | cons head tail ih =>
      rw [List.mapM_cons] at all
      cases first : f head with
      | none =>
          rw [first] at all
          cases all
      | some b =>
          rw [first] at all
          cases rest : tail.mapM f with
          | none =>
              rw [rest] at all
              cases all
          | some bs =>
              rw [rest] at all
              cases all
              rw [List.map_cons, ← value head b first, ← ih rest]

theorem nearestEntry_value {x b : Nat} (entry : nearestEntry limit source destination x = some b) :
    b = sourceColumn source destination x := by
  unfold nearestEntry at entry
  split at entry
  · exact (Option.some.inj entry).symm
  · cases entry

private theorem nearestRow_value {bottomUp : Bool} {y b : Nat}
    (entry : (nearestEntry limit source destination y).bind
      (fun row => if bottomUp then flipped source row else some row) = some b) :
    b = sourceRow source destination bottomUp y := by
  obtain ⟨row, known, rest⟩ := Option.bind_eq_some_iff.mp entry
  have formula : row = y * source / destination := nearestEntry_value known
  unfold sourceRow
  rw [← formula]
  cases bottomUp with
  | false => exact (Option.some.inj rest).symm
  | true =>
      obtain ⟨above, first, second⟩ := Option.bind_eq_some_iff.mp rest
      unfold checkedSub at first second
      split at first
      · split at second
        · cases first
          cases second
          rw [if_pos rfl]
          omega
        · cases second
      · cases first

theorem NearestMap.update_fresh {ε : Type} {sourceWidth sourceHeight destinationWidth
    destinationHeight : Nat} {bottomUp : Bool} {map next : NearestMap} {result : Except ε Unit}
    (fresh : map.Fresh)
    (ran : NearestMap.update limit sourceWidth sourceHeight destinationWidth destinationHeight
      bottomUp map = some (result, next)) :
    next.Fresh ∧ next.dimensions =
      (sourceWidth, sourceHeight, destinationWidth, destinationHeight, bottomUp) := by
  unfold NearestMap.update at ran
  simp only at ran
  split at ran
  · rename_i same
    cases ran
    exact ⟨fresh, same⟩
  · split at ran
    · rename_i x y xs ys
      cases ran
      exact ⟨⟨mapM_values (fun _ _ => nearestEntry_value) xs,
        mapM_values (fun _ _ => nearestRow_value) ys⟩, rfl⟩
    · cases ran

theorem NearestMap.update_returns {ε : Type} {sourceWidth sourceHeight destinationWidth
    destinationHeight : Nat} {bottomUp : Bool} {map : NearestMap} (fresh : map.Fresh)
    (tall : 0 < sourceHeight)
    (columns : ∀ x, x < destinationWidth → x * sourceWidth < limit)
    (rows : ∀ y, y < destinationHeight → y * sourceHeight < limit) :
    ∃ next : NearestMap, Returns (NearestMap.update limit sourceWidth sourceHeight
        destinationWidth destinationHeight bottomUp : Fill NearestMap ε Unit) map () next ∧
      next.Fresh ∧ next.x = nearestColumns sourceWidth destinationWidth ∧
      next.y = nearestRows sourceHeight destinationHeight bottomUp := by
  have finish {next : NearestMap} (ran : Returns (NearestMap.update limit sourceWidth
      sourceHeight destinationWidth destinationHeight bottomUp : Fill NearestMap ε Unit) map ()
      next) : ∃ next : NearestMap, Returns (NearestMap.update limit sourceWidth sourceHeight
        destinationWidth destinationHeight bottomUp : Fill NearestMap ε Unit) map () next ∧
      next.Fresh ∧ next.x = nearestColumns sourceWidth destinationWidth ∧
      next.y = nearestRows sourceHeight destinationHeight bottomUp := by
    obtain ⟨⟨dimensions, x, y⟩, known⟩ : ∃ shape : NearestMap, next = shape := ⟨next, rfl⟩
    subst known
    obtain ⟨kept, dims⟩ := update_fresh fresh ran
    cases dims
    exact ⟨_, ran, kept, kept.1, kept.2⟩
  by_cases same : map.dimensions =
      (sourceWidth, sourceHeight, destinationWidth, destinationHeight, bottomUp)
  · exact @finish map (by
      unfold Returns NearestMap.update
      simp only
      rw [if_pos same])
  · have x := @mapM_map _ _ (nearestEntry limit sourceWidth destinationWidth)
      (sourceColumn sourceWidth destinationWidth) (List.range destinationWidth) fun x member => by
        rw [nearestEntry, if_pos (columns x (List.mem_range.mp member)), sourceColumn]
    have y := @mapM_map _ _ (fun destination =>
        (nearestEntry limit sourceHeight destinationHeight destination).bind fun row =>
          if bottomUp then flipped sourceHeight row else some row)
      (sourceRow sourceHeight destinationHeight bottomUp) (List.range destinationHeight)
      fun y member => by
        have inside := List.mem_range.mp member
        have below : y * sourceHeight / destinationHeight < sourceHeight :=
          sourceColumn_lt inside tall
        simp only [nearestEntry, if_pos (rows y inside), Option.bind_some]
        unfold sourceRow
        generalize y * sourceHeight / destinationHeight = row at below
        cases bottomUp with
        | false => rfl
        | true =>
            simp only [flipped, if_true]
            rw [checkedSub, if_pos (by omega), Option.bind_some, checkedSub, if_pos (by omega)]
            congr 1
            omega
    exact @finish ⟨_, _, _⟩ (by
      unfold Returns NearestMap.update
      simp only
      rw [if_neg same, x, y])

theorem length_nearestColumns : (nearestColumns source destination).length = destination := by
  simp [nearestColumns]

theorem getElem_nearestColumns {k : Nat} (bound : k < (nearestColumns source destination).length) :
    (nearestColumns source destination)[k] = sourceColumn source destination k := by
  simp [nearestColumns]

theorem length_nearestRows {bottomUp : Bool} :
    (nearestRows source destination bottomUp).length = destination := by
  simp [nearestRows]

theorem getElem_nearestRows {bottomUp : Bool} {k : Nat}
    (bound : k < (nearestRows source destination bottomUp).length) :
    (nearestRows source destination bottomUp)[k] = sourceRow source destination bottomUp k := by
  simp [nearestRows]

end Maps

/-! ### Rows -/

section Rows

variable {pixel : Nat → List UInt8} {source destination : Nat}

theorem blocks_of_row (rgb : IsRgb pixel) {start count : Nat} (inside : start + count ≤ source) :
    blocks (fun i => pixel (start + i)) count =
      slice (blocks pixel source) (start * 3) (start * 3 + count * 3) := by
  rw [← blocks_slices]
  refine blocks_congr fun i bound => ?_
  rw [← Nat.add_mul, slice_blocks rgb (show start + i < source by omega)]

/-- Copying `kept` of every `size` pixels is nearest-neighbour scaling by
`kept / size` when one pixel of each group is dropped. -/
theorem copyGroups_writes (rgb : IsRgb pixel) {groups kept size : Nat} (positive : 0 < kept)
    (dropped : size = kept + 1) :
    Writes (copyGroups (blocks pixel (groups * size)) (size * 3) (kept * 3))
      (blocks (fun x => pixel (sourceColumn (groups * size) (groups * kept) x)) (groups * kept)) := by
  intro old same
  have total : (blocks (fun x => pixel (sourceColumn (groups * size) (groups * kept) x))
      (groups * kept)).length = groups * kept * 3 := length_blocks fun x => rgb _
  have length : (blocks pixel (groups * size)).length = groups * size * 3 := rgb.row
  have oldLength : old.length = groups * (kept * 3) := by rw [same, total, Nat.mul_assoc]
  have sourceLength : (blocks pixel (groups * size)).length = groups * (size * 3) := by
    rw [length, Nat.mul_assoc]
  refine .bind .getState (.bind (.assertThat ?_) ?_)
  · rw [oldLength, sourceLength]
    exact ⟨Nat.mul_mod_left _ _, Nat.mul_mod_left _ _⟩
  rw [oldLength, sourceLength, Nat.mul_div_cancel _ (by omega), Nat.mul_div_cancel _ (by omega),
    Nat.min_self]
  -- The wanted row, one group at a time.
  have regrouped : blocks (fun x => pixel (sourceColumn (groups * size) (groups * kept) x))
      (groups * kept) = blocks (fun g => blocks (fun i => pixel (g * size + i)) kept) groups := by
    rw [← blocks_mul]
    refine blocks_congr fun g bound => blocks_congr fun i inside => ?_
    have column : sourceColumn (groups * size) (groups * kept) (g * kept + i) = g * size + i := by
      rw [sourceColumn, show (g * kept + i) * (groups * size) = groups * ((g * kept + i) * size) by
        ring, Nat.mul_div_mul_left _ _ (by omega)]
      subst dropped
      refine Nat.div_eq_of_lt_le ?_ ?_ <;> nlinarith
    rw [column]
  rw [regrouped] at same ⊢
  refine (Fills.rounds (fun g => length_blocks fun i => rgb _) fun g old bound fits => ?_).writes
    old same
  refine Writes.block (fun g => length_blocks fun i => rgb _) bound fits fun part partSame => ?_
  have room : (g + 1) * size ≤ groups * size := Nat.mul_le_mul_right size bound
  rw [Nat.succ_mul] at room
  have line := blocks_of_row rgb (show g * size + kept ≤ groups * size by omega)
  rw [line] at partSame ⊢
  rw [← Nat.mul_assoc]
  refine .bind (.view (by omega) (by rw [length]; omega)) (.copyFromSlice partSame.symm)

theorem resizeRgbRowNearest_writes (rgb : IsRgb pixel) (positive : 0 < source) :
    Writes (resizeRgbRowNearest (blocks pixel source) (nearestColumns source destination))
      (blocks (fun x => pixel (sourceColumn source destination x)) destination) := by
  intro old same
  have length : (blocks pixel source).length = source * 3 := rgb.row
  have total : (blocks (fun x => pixel (sourceColumn source destination x)) destination).length =
      destination * 3 := length_blocks fun x => rgb _
  refine .bind .getState ?_
  rw [length, same, total, Nat.mul_div_cancel _ (by omega), Nat.mul_div_cancel _ (by omega),
    length_nearestColumns]
  dsimp only
  split
  · rename_i ratio
    obtain ⟨groups, rfl⟩ : ∃ groups, source = groups * 3 := ⟨source / 3, by omega⟩
    obtain rfl : destination = groups * 2 := by omega
    exact copyGroups_writes rgb (by omega) rfl old same
  · split
    · rename_i ratio
      obtain ⟨groups, rfl⟩ : ∃ groups, source = groups * 4 := ⟨source / 4, by omega⟩
      obtain rfl : destination = groups * 3 := by omega
      exact copyGroups_writes rgb (by omega) rfl old same
    · have chunks := @Fills.chunks UInt8 Nat CameraError
        (fun x => pixel (sourceColumn source destination x)) 3
        (nearestColumns source destination) (fun sourceX => do
          let bytes ← view (blocks pixel source) (sourceX * 3) (sourceX * 3 + 3)
          copyFromSlice bytes) (fun x => rgb _) (by omega) fun k bound part partSame => by
            rw [length_nearestColumns] at bound
            rw [getElem_nearestColumns]
            have inside := sourceColumn_lt bound positive
            have line := slice_blocks rgb inside
            have copied : Returns (view (blocks pixel source) (sourceColumn source destination k * 3)
                (sourceColumn source destination k * 3 + 3) : RgbFill (List UInt8)) part
                (pixel (sourceColumn source destination k)) part := by
              have ran := @Returns.view _ CameraError _ part (blocks pixel source)
                (sourceColumn source destination k * 3) (sourceColumn source destination k * 3 + 3)
                (by omega) (by rw [length]; omega)
              rwa [line] at ran
            exact .bind copied (.copyFromSlice partSame.symm)
      rw [length_nearestColumns] at chunks
      exact chunks.writes old same

end Rows

/-! ### Scalers -/

section Scalers

variable {layout : FrameLayout} {data : List UInt8} {c : Coefficients} {outW outH : Nat}

theorem chunks_rows {row : Nat → RgbFill Unit} (positive : 0 < outW)
    (tall : 0 < layout.height.toNat)
    (rows : ∀ r, r < layout.height.toNat → Writes (row r)
      (blocks (fun x => referencePixel layout data c
        (sourceColumn layout.width.toNat outW x) r) outW)) :
    Fills (forChunks (outW * 3)
        (nearestRows layout.height.toNat outH layout.bottomUp) row)
      (requestedImage layout data c outW outH) := by
  have chunks := @Fills.chunks UInt8 Nat CameraError
    (fun y => blocks (fun x => referencePixel layout data c
      (sourceColumn layout.width.toNat outW x)
      (sourceRow layout.height.toNat outH layout.bottomUp y)) outW) (outW * 3)
    (nearestRows layout.height.toNat outH layout.bottomUp) row
    (fun y => length_blocks fun x => isRgb_reference) (by omega) fun k bound => by
      rw [getElem_nearestRows]
      rw [length_nearestRows] at bound
      exact rows _ (sourceRow_lt bound tall)
  rwa [length_nearestRows] at chunks

theorem chunks_pixels {r : Nat} {pixel : Nat → RgbFill Unit} (wide : 0 < layout.width.toNat)
    (pixels : ∀ x, x < layout.width.toNat → Writes (pixel x) (referencePixel layout data c x r)) :
    Writes (forChunks 3 (nearestColumns layout.width.toNat outW) pixel)
      (blocks (fun x => referencePixel layout data c
        (sourceColumn layout.width.toNat outW x) r) outW) := by
  have chunks := @Fills.chunks UInt8 Nat CameraError
    (fun x => referencePixel layout data c (sourceColumn layout.width.toNat outW x) r) 3
    (nearestColumns layout.width.toNat outW) pixel (fun x => isRgb_reference) (by omega)
    fun k bound => by
      rw [getElem_nearestColumns]
      rw [length_nearestColumns] at bound
      exact pixels _ (sourceColumn_lt bound wide)
  rw [length_nearestColumns] at chunks
  exact chunks.writes

theorem scalePacked_fills {p : PlaneLayout} {pixel : Nat → RgbFill Unit} (positive : 0 < outW)
    (wide : 0 < layout.width.toNat) (tall : 0 < layout.height.toNat)
    (pixels : ∀ x r, x < layout.width.toNat → r < layout.height.toNat →
      Writes (pixel (p.offset + r * p.rowStride + x * p.pixelStride))
        (referencePixel layout data c x r)) :
    Fills (scalePacked p outW (nearestColumns layout.width.toNat outW)
        (nearestRows layout.height.toNat outH layout.bottomUp) pixel)
      (requestedImage layout data c outW outH) :=
  chunks_rows positive tall fun r bound =>
    chunks_pixels wide fun x inside => pixels x r inside bound

theorem sample_inside {p : PlaneLayout} {spec : PlaneSpec} {r x : Nat}
    (holds : FrameLayout.Holds data.length p spec) (bound : r < spec.rows)
    (column : x < spec.cols) :
    p.offset + r * p.rowStride + x * p.pixelStride + spec.channels ≤ data.length := by
  have rows : r * p.rowStride ≤ (spec.rows - 1) * p.rowStride :=
    Nat.mul_le_mul_right _ (by omega)
  have columns : x * p.pixelStride ≤ (spec.cols - 1) * p.pixelStride :=
    Nat.mul_le_mul_right _ (by omega)
  have extent := holds.extent
  have inside := holds.inside
  unfold FrameLayout.rowBytes at extent
  omega

theorem slice_three {start : Nat} (inside : start + 3 ≤ data.length) :
    slice data start (start + 3) =
      [data.getD start 0, data.getD (start + 1) 0, data.getD (start + 2) 0] := by
  apply List.ext_getElem?
  intro i
  match i with
  | 0 | 1 | 2 =>
      rw [slice, List.getElem?_take_of_lt (by omega), List.getElem?_drop,
        List.getElem?_eq_getElem (by omega)]
      simp [List.getD_eq_getElem?_getD, List.getElem?_eq_getElem (show start < data.length by omega),
        List.getElem?_eq_getElem (show start + 1 < data.length by omega),
        List.getElem?_eq_getElem (show start + 2 < data.length by omega)]
  | i + 3 =>
      rw [List.getElem?_eq_none (by simp [slice]), List.getElem?_eq_none (by simp)]

theorem copyThree_writes {start : Nat} (inside : start + 3 ≤ data.length) :
    Writes (do
      let bytes ← view data start (start + 3)
      copyFromSlice bytes : RgbFill Unit)
      [data.getD start 0, data.getD (start + 1) 0, data.getD (start + 2) 0] := by
  intro old same
  have bytes := @Returns.view _ CameraError _ old data start (start + 3) (by omega) inside
  rw [slice_three inside] at bytes
  exact .bind bytes (.copyFromSlice same.symm)

theorem swapThree_writes {start : Nat} (inside : start + 3 ≤ data.length) :
    Writes (do
      let red ← read data (start + 2)
      store 0 red
      let green ← read data (start + 1)
      store 1 green
      let blue ← read data start
      store 2 blue : RgbFill Unit)
      [data.getD (start + 2) 0, data.getD (start + 1) 0, data.getD start 0] := by
  intro old same
  match old, same with
  | [first, second, third], _ =>
      exact .bind (.read (by omega)) (.bind (.store (by simp)) (.bind (.read (by omega))
        (.bind (.store (by simp)) (.bind (.read (by omega)) (.store (by simp))))))

private theorem fillThree_writes {start : Nat} (inside : start < data.length) :
    Writes (do
      let gray ← read data start
      fillWith gray : RgbFill Unit)
      [data.getD start 0, data.getD start 0, data.getD start 0] := by
  intro old same
  match old, same with
  | [first, second, third], _ => exact .bind (.read inside) (.fillWith rfl)

theorem rgbRow_slice {start width : Nat} (inside : start + width * 3 ≤ data.length) :
    slice data start (start + width * 3) =
      blocks (fun x => [data.getD (start + x * 3) 0, data.getD (start + x * 3 + 1) 0,
        data.getD (start + x * 3 + 2) 0]) width := by
  rw [← blocks_slices]
  exact blocks_congr fun x bound => slice_three (by omega)

theorem packed_plane {channels : Nat} (accepted : layout.validate data.length = .ok ())
    (raw : layout.format.isCompressed = false)
    (specs : layout.planeSpecs =
      some [⟨layout.width.toNat, layout.height.toNat, channels⟩]) :
    ∃ p, layout.planes = [p] ∧
      FrameLayout.Holds data.length p ⟨layout.width.toNat, layout.height.toNat, channels⟩ ∧
      ∀ x r, x < layout.width.toNat → r < layout.height.toNat →
        p.offset + r * p.rowStride + x * p.pixelStride + channels ≤ data.length := by
  obtain ⟨p, planes, holds, -⟩ := FrameLayout.validate_one accepted raw specs
  exact ⟨p, planes, holds, fun x r column bound => sample_inside holds bound column⟩

theorem scaleNearest_fills (accepted : layout.validate data.length = .ok ())
    (raw : layout.format.isCompressed = false) (packed : layout.format.isYuv = false)
    (positive : 0 < outW) :
    Fills (scaleNearest layout data outW (nearestColumns layout.width.toNat outW)
        (nearestRows layout.height.toNat outH layout.bottomUp))
      (requestedImage layout data c outW outH) := by
  obtain ⟨wide, tall, -⟩ := FrameLayout.validate_ok accepted
  have first {p : PlaneLayout} (planes : layout.planes = [p]) (s : List UInt8) :
      Returns (read layout.planes 0 : RgbFill PlaneLayout) s p s := by
    rw [planes]
    rfl
  intro old fits
  cases format : layout.format with
  | yuyv | uyvy | nv12 | nv21 | yuv420p => rw [format] at packed; cases packed
  | mjpeg | h264 => rw [format] at raw; cases raw
  | rgb8 =>
      obtain ⟨p, planes, holds, inside⟩ := @packed_plane layout data 3 accepted raw (by
        simp only [FrameLayout.planeSpecs, format])
      have pixel (x r : Nat) : referencePixel layout data c x r =
          [data.getD (p.offset + r * p.rowStride + x * p.pixelStride) 0,
            data.getD (p.offset + r * p.rowStride + x * p.pixelStride + 1) 0,
            data.getD (p.offset + r * p.rowStride + x * p.pixelStride + 2) 0] := by
        simp only [referencePixel, sourceByte, format, planes, Nat.add_zero]
      refine .bind (first planes old) ?_
      simp only [format]
      split
      · rename_i tight
        refine chunks_rows positive tall (fun r bound => ?_) old fits
        have room := inside (layout.width.toNat - 1) r (by omega) bound
        rw [tight] at room
        have line : slice data (p.offset + r * p.rowStride)
            (p.offset + r * p.rowStride + layout.width.toNat * 3) =
            blocks (fun x => referencePixel layout data c x r) layout.width.toNat := by
          rw [rgbRow_slice (by omega)]
          refine blocks_congr fun x _ => ?_
          rw [pixel, tight]
        intro row same
        have bytes := @Returns.view _ CameraError _ row data (p.offset + r * p.rowStride)
          (p.offset + r * p.rowStride + layout.width.toNat * 3) (by omega) (by omega)
        rw [line] at bytes
        exact .bind bytes (resizeRgbRowNearest_writes (fun x => isRgb_reference) wide row same)
      · refine scalePacked_fills positive wide tall (fun x r column bound => ?_) old fits
        rw [pixel]
        exact copyThree_writes (inside x r column bound)
  | rgba8 =>
      obtain ⟨p, planes, -, inside⟩ := @packed_plane layout data 4 accepted raw (by
        simp only [FrameLayout.planeSpecs, format])
      refine .bind (first planes old) ?_
      simp only [format]
      refine scalePacked_fills positive wide tall (fun x r column bound => ?_) old fits
      simp only [referencePixel, sourceByte, format, planes, Nat.add_zero]
      have room := inside x r column bound
      exact copyThree_writes (by omega)
  | argb8 =>
      obtain ⟨p, planes, -, inside⟩ := @packed_plane layout data 4 accepted raw (by
        simp only [FrameLayout.planeSpecs, format])
      refine .bind (first planes old) ?_
      simp only [format]
      refine scalePacked_fills positive wide tall (fun x r column bound => ?_) old fits
      simp only [referencePixel, sourceByte, format, planes]
      have room := inside x r column bound
      exact copyThree_writes (by omega)
  | bgr8 =>
      obtain ⟨p, planes, -, inside⟩ := @packed_plane layout data 3 accepted raw (by
        simp only [FrameLayout.planeSpecs, format])
      refine .bind (first planes old) ?_
      simp only [format]
      refine scalePacked_fills positive wide tall (fun x r column bound => ?_) old fits
      simp only [referencePixel, sourceByte, format, planes, Nat.add_zero]
      exact swapThree_writes (inside x r column bound)
  | bgra8 =>
      obtain ⟨p, planes, -, inside⟩ := @packed_plane layout data 4 accepted raw (by
        simp only [FrameLayout.planeSpecs, format])
      refine .bind (first planes old) ?_
      simp only [format]
      refine scalePacked_fills positive wide tall (fun x r column bound => ?_) old fits
      simp only [referencePixel, sourceByte, format, planes, Nat.add_zero]
      have room := inside x r column bound
      exact swapThree_writes (by omega)
  | gray8 =>
      obtain ⟨p, planes, -, inside⟩ := @packed_plane layout data 1 accepted raw (by
        simp only [FrameLayout.planeSpecs, format])
      refine .bind (first planes old) ?_
      simp only [format]
      refine scalePacked_fills positive wide tall (fun x r column bound => ?_) old fits
      simp only [referencePixel, sourceByte, format, planes, Nat.add_zero]
      exact fillThree_writes (inside x r column bound)

end Scalers

end CameraRs

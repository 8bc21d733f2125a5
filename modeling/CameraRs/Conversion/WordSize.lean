/-
The maps of a conversion on words of 32 and of 64 bits.

A map entry is a product of two sizes before it is a quotient. The sizes are of 32 bits each, so
a word of 64 bits holds every product. In a word of 32 bits the last column and the last row
decide.
-/

import CameraRs.Conversion.Scaling

namespace CameraRs

open Lib Fill

namespace NearestMap

inductive Cached (bits : Nat) : NearestMap → Prop
  | new : Cached bits {}
  | update {map next : NearestMap} {result : CameraResult Unit}
      {sourceWidth sourceHeight destinationWidth destinationHeight : Nat} {bottomUp : Bool}
      (cached : Cached bits map)
      (ran : NearestMap.update (2 ^ bits) sourceWidth sourceHeight destinationWidth
        destinationHeight bottomUp map = some (result, next)) : Cached bits next

/-- The map between these sizes. It is what an update makes of a new map. -/
structure Exact (bits sourceWidth sourceHeight destinationWidth destinationHeight : Nat)
    (bottomUp : Bool) (map : NearestMap) : Prop where
  columns : map.x.length = destinationWidth ∧
    ∀ (i : Nat) (inside : i < map.x.length), map.x[i] = i * sourceWidth / destinationWidth
  rows : map.y.length = destinationHeight ∧ ∀ (j : Nat) (inside : j < map.y.length), map.y[j] =
    if bottomUp then sourceHeight - 1 - j * sourceHeight / destinationHeight
    else j * sourceHeight / destinationHeight
  below : (∀ x ∈ map.x, x < sourceWidth) ∧ ∀ y ∈ map.y, y < sourceHeight
  monotone : map.x.Pairwise (· ≤ ·) ∧
    if bottomUp then map.y.Pairwise (· ≥ ·) else map.y.Pairwise (· ≤ ·)
  fresh : Returns (NearestMap.update (2 ^ bits) sourceWidth sourceHeight destinationWidth
    destinationHeight bottomUp : Fill NearestMap CameraError Unit) {} () map

def Fits (bits sourceWidth sourceHeight destinationWidth destinationHeight : Nat) : Prop :=
  (destinationWidth - 1) * sourceWidth < 2 ^ bits ∧
    (destinationHeight - 1) * sourceHeight < 2 ^ bits

variable {bits limit source destination : Nat} {bottomUp : Bool} {map next : NearestMap}
  {sourceWidth sourceHeight destinationWidth destinationHeight : Nat}

/-! ### Overflow -/

theorem products_lt (last : (destination - 1) * source < limit) {k : Nat}
    (inside : k < destination) : k * source < limit :=
  lt_of_le_of_lt (Nat.mul_le_mul_right source (Nat.le_sub_one_of_lt inside)) last

theorem defined_of_mapM {α β : Type} {f : α → Option β} {items : List α} {values : List β}
    (all : items.mapM f = some values) : ∀ item ∈ items, ∃ value, f item = some value := by
  induction items generalizing values with
  | nil => exact fun item there => absurd there List.not_mem_nil
  | cons head tail ih =>
      rw [List.mapM_cons] at all
      obtain ⟨value, first, rest⟩ := Option.bind_eq_some_iff.mp all
      obtain ⟨others, later, -⟩ := Option.bind_eq_some_iff.mp rest
      exact List.forall_mem_cons.mpr ⟨⟨value, first⟩, ih later⟩

private theorem product_of_entry {k value : Nat}
    (entry : nearestEntry limit source destination k = some value) : k * source < limit := by
  unfold nearestEntry at entry
  split at entry
  · next fits => exact fits
  · contradiction

theorem last_product (positive : 0 < limit)
    (each : ∀ k ∈ List.range destination, ∃ value,
      nearestEntry limit source destination k = some value) :
    (destination - 1) * source < limit := by
  rcases Nat.eq_zero_or_pos destination with none | some
  · rw [none, Nat.zero_sub, Nat.zero_mul]
    exact positive
  · obtain ⟨value, entry⟩ := each (destination - 1) (List.mem_range.mpr (Nat.sub_one_lt_of_lt some))
    exact product_of_entry entry

theorem fits_of_new (wide : 0 < sourceWidth)
    (returns : Returns (NearestMap.update (2 ^ bits) sourceWidth sourceHeight destinationWidth
      destinationHeight bottomUp : Fill NearestMap CameraError Unit) {} () next) :
    Fits bits sourceWidth sourceHeight destinationWidth destinationHeight := by
  have positive : 0 < 2 ^ bits := Nat.two_pow_pos bits
  unfold Returns NearestMap.update at returns
  dsimp only at returns
  split at returns
  · next same =>
      exact absurd (congrArg Prod.fst same) wide.ne
  · split at returns
    · next xs ys =>
        refine ⟨last_product positive (defined_of_mapM xs), last_product positive ?_⟩
        intro k there
        obtain ⟨value, row⟩ := defined_of_mapM ys k there
        obtain ⟨entry, found, -⟩ := Option.bind_eq_some_iff.mp row
        exact ⟨entry, found⟩
    · contradiction

/-! ### Entries -/

theorem Cached.fresh (cached : Cached bits map) : map.Fresh := by
  induction cached with
  | new => exact ⟨rfl, rfl⟩
  | update _ ran ih => exact (update_fresh ih ran).1

theorem sourceColumn_mono {i j : Nat} (order : i ≤ j) :
    sourceColumn source destination i ≤ sourceColumn source destination j :=
  Nat.div_le_div_right (Nat.mul_le_mul_right source order)

theorem pairwise_columns : (nearestColumns source destination).Pairwise (· ≤ ·) :=
  List.pairwise_map.mpr (List.pairwise_lt_range.imp fun before => sourceColumn_mono before.le)

theorem pairwise_rows : if bottomUp then (nearestRows source destination bottomUp).Pairwise (· ≥ ·)
    else (nearestRows source destination bottomUp).Pairwise (· ≤ ·) := by
  cases bottomUp with
  | false => exact pairwise_columns
  | true =>
      refine List.pairwise_map.mpr (List.pairwise_lt_range.imp fun before => ?_)
      exact Nat.sub_le_sub_left (sourceColumn_mono before.le) (source - 1)

private theorem exact_of_entries (wide : 0 < sourceWidth) (tall : 0 < sourceHeight)
    (columns : map.x = nearestColumns sourceWidth destinationWidth)
    (rows : map.y = nearestRows sourceHeight destinationHeight bottomUp)
    (fresh : Returns (NearestMap.update (2 ^ bits) sourceWidth sourceHeight destinationWidth
      destinationHeight bottomUp : Fill NearestMap CameraError Unit) {} () map) :
    map.Exact bits sourceWidth sourceHeight destinationWidth destinationHeight bottomUp where
  columns := by
    simp only [columns, length_nearestColumns, getElem_nearestColumns, sourceColumn, implies_true,
      and_self]
  rows := by
    simp only [rows, length_nearestRows, getElem_nearestRows, sourceRow, implies_true, and_self]
  below := by
    rw [columns, rows]
    constructor
    · intro x there
      obtain ⟨k, inside, rfl⟩ := List.mem_map.mp there
      exact sourceColumn_lt (List.mem_range.mp inside) wide
    · intro y there
      obtain ⟨k, inside, rfl⟩ := List.mem_map.mp there
      exact sourceRow_lt (List.mem_range.mp inside) tall
  monotone := by
    rw [columns, rows]
    exact ⟨pairwise_columns, pairwise_rows⟩
  fresh := fresh

theorem exact_of_fits (cached : Cached bits map) (wide : 0 < sourceWidth) (tall : 0 < sourceHeight)
    (fits : Fits bits sourceWidth sourceHeight destinationWidth destinationHeight) :
    ∃ next : NearestMap, Returns (NearestMap.update (2 ^ bits) sourceWidth sourceHeight
        destinationWidth destinationHeight bottomUp :
          Fill NearestMap CameraError Unit) map () next ∧
      next.Exact bits sourceWidth sourceHeight destinationWidth destinationHeight bottomUp := by
  have columns (k : Nat) : k < destinationWidth → k * sourceWidth < 2 ^ bits :=
    products_lt fits.1
  have rows (k : Nat) : k < destinationHeight → k * sourceHeight < 2 ^ bits :=
    products_lt fits.2
  obtain ⟨next, returns, -, x, y⟩ := @update_returns (2 ^ bits) CameraError sourceWidth sourceHeight
    destinationWidth destinationHeight bottomUp map cached.fresh tall columns rows
  obtain ⟨new, computed, -, x', y'⟩ := @update_returns (2 ^ bits) CameraError sourceWidth
    sourceHeight destinationWidth destinationHeight bottomUp {} (Cached.fresh (@Cached.new bits))
    tall columns rows
  have same : new = next := by
    have dims := (update_fresh cached.fresh returns).2
    have dims' := (update_fresh (Cached.fresh (@Cached.new bits)) computed).2
    cases next
    cases new
    simp_all
  refine ⟨next, returns, exact_of_entries wide tall x y ?_⟩
  rw [← same]
  exact computed

/-! ### Words -/

theorem fits_sixtyFour (sourceWidth sourceHeight destinationWidth destinationHeight : UInt32) :
    Fits 64 sourceWidth.toNat sourceHeight.toNat destinationWidth.toNat
      destinationHeight.toNat := by
  have product (source destination : UInt32) :
      (destination.toNat - 1) * source.toNat < 2 ^ 64 :=
    calc
      (destination.toNat - 1) * source.toNat ≤ 2 ^ 32 * source.toNat :=
        Nat.mul_le_mul_right _ (Nat.le_trans (Nat.sub_le _ 1) destination.toNat_lt.le)
      _ < 2 ^ 32 * 2 ^ 32 := Nat.mul_lt_mul_of_pos_left source.toNat_lt (by decide)
      _ = 2 ^ 64 := by decide
  exact ⟨product sourceWidth destinationWidth, product sourceHeight destinationHeight⟩

/-- With words of 64 bits every update leaves the exact map; with words of 32 bits those do
whose largest products fit. -/
theorem update_exact_iff (word : bits = 32 ∨ bits = 64)
    {sourceWidth sourceHeight destinationWidth destinationHeight : UInt32}
    (wide : sourceWidth ≠ 0) (tall : sourceHeight ≠ 0) (cached : Cached bits map) :
    (∃ next : NearestMap, Returns (NearestMap.update (2 ^ bits) sourceWidth.toNat
        sourceHeight.toNat destinationWidth.toNat destinationHeight.toNat bottomUp :
          Fill NearestMap CameraError Unit) map () next ∧
      next.Exact bits sourceWidth.toNat sourceHeight.toNat destinationWidth.toNat
        destinationHeight.toNat bottomUp) ↔
      (bits = 32 → (destinationWidth.toNat - 1) * sourceWidth.toNat < 2 ^ 32 ∧
        (destinationHeight.toNat - 1) * sourceHeight.toNat < 2 ^ 32) := by
  have positive := toNat_pos wide
  have fits_iff : Fits bits sourceWidth.toNat sourceHeight.toNat destinationWidth.toNat
      destinationHeight.toNat ↔
      (bits = 32 → (destinationWidth.toNat - 1) * sourceWidth.toNat < 2 ^ 32 ∧
        (destinationHeight.toNat - 1) * sourceHeight.toNat < 2 ^ 32) := by
    rcases word with rfl | rfl
    · exact ⟨fun fits _ => fits, fun fits => fits rfl⟩
    · exact ⟨fun _ => by simp, fun _ => fits_sixtyFour _ _ _ _⟩
  rw [← fits_iff]
  constructor
  · rintro ⟨next, -, exact⟩
    exact fits_of_new positive exact.fresh
  · exact exact_of_fits cached positive (toNat_pos tall)

theorem update_exact_iff_half :
    (∃ next : NearestMap, Returns (NearestMap.update (2 ^ 32) (640 : UInt32).toNat
        (480 : UInt32).toNat (320 : UInt32).toNat (240 : UInt32).toNat true :
          Fill NearestMap CameraError Unit) {} () next ∧
      next.Exact 32 (640 : UInt32).toNat (480 : UInt32).toNat (320 : UInt32).toNat
        (240 : UInt32).toNat true) ↔
      (32 = 32 → ((320 : UInt32).toNat - 1) * (640 : UInt32).toNat < 2 ^ 32 ∧
        ((240 : UInt32).toNat - 1) * (480 : UInt32).toNat < 2 ^ 32) :=
  update_exact_iff (.inl rfl) (by decide) (by decide) .new

/-- A row of 65536 pixels, widened by one pixel, takes a product of 33 bits. -/
theorem not_always_widened :
    ¬ ∀ (bits : Nat) (sourceWidth sourceHeight destinationWidth destinationHeight : UInt32)
      (bottomUp : Bool), bits = 32 ∨ bits = 64 → sourceWidth ≠ 0 → sourceHeight ≠ 0 →
      destinationWidth ≠ 0 → destinationHeight ≠ 0 →
      sourceWidth.toNat * sourceHeight.toNat * 4 < 2 ^ (bits - 1) →
      destinationWidth.toNat * destinationHeight.toNat * 3 < 2 ^ (bits - 1) →
      ∃ next : NearestMap, Returns (NearestMap.update (2 ^ bits) sourceWidth.toNat
          sourceHeight.toNat destinationWidth.toNat destinationHeight.toNat bottomUp :
            Fill NearestMap CameraError Unit) {} () next ∧
        next.Exact bits sourceWidth.toNat sourceHeight.toNat destinationWidth.toNat
          destinationHeight.toNat bottomUp := by
  intro always
  obtain ⟨next, -, exact⟩ := always 32 65536 1 65537 1 false (.inl rfl) (by decide) (by decide)
    (by decide) (by decide) (by decide) (by decide)
  have product := (fits_of_new (by decide) exact.fresh).1
  exact absurd product (by decide)

end NearestMap

end CameraRs

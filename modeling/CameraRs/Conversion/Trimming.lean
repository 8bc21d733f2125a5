/-
What is kept of an MJPEG payload: everything up to the last end marker.
-/

import CameraRs.Conversion.Converter
import CameraRs.Lib.Prefixes

namespace CameraRs

open Lib

def startMarker : List UInt8 := [0xff, 0xd8]
def endMarker : List UInt8 := [0xff, 0xd9]

/-- The payload begins as a JPEG image does, and ends somewhere. -/
structure HasImage (data : List UInt8) : Prop where
  long : 4 ≤ data.length
  starts : startMarker <+: data
  ends : endMarker <:+: data

variable {data p : List UInt8}

theorem endMarker_beyond (starts : startMarker <+: data) (inside : p <+: data)
    (ends : endMarker <:+ p) : 4 ≤ p.length := by
  obtain ⟨later, rfl⟩ := starts
  obtain ⟨earlier, rfl⟩ := ends
  obtain ⟨rest, same⟩ := inside
  match earlier with
  | [] => simp [startMarker, endMarker] at same
  | [first] => simp [startMarker, endMarker] at same
  | first :: second :: more =>
      simp only [endMarker, List.length_append, List.length_cons, List.length_nil]
      omega

private theorem startMarker_kept (starts : startMarker <+: data) (inside : p <+: data)
    (long : 4 ≤ p.length) : startMarker <+: p :=
  List.prefix_of_prefix_length_le starts inside (by
    have two : startMarker.length = 2 := rfl
    omega)

theorem HasImage.trimmed (image : HasImage data) (inside : p <+: data) (ends : endMarker <:+ p) :
    HasImage p where
  long := endMarker_beyond image.starts inside ends
  starts := startMarker_kept image.starts inside (endMarker_beyond image.starts inside ends)
  ends := ends.isInfix

private theorem completeFrame_headless (headless : ¬ (4 ≤ data.length ∧ startMarker <+: data)) :
    ∃ error, completeFrame data = .error error := by
  refine ⟨_, if_pos ?_⟩
  rw [List.isPrefixOf_iff_prefix]
  by_cases long : 4 ≤ data.length
  · exact .inr fun starts => headless ⟨long, starts⟩
  · exact .inl (Nat.lt_of_not_le long)

theorem endMarker_at {k : Nat} (within : k < data.length - 1) :
    slice data k (k + 2) = [0xff, 0xd9] ↔ endMarker <:+ data.take (k + 2) := by
  have inside : k + endMarker.length ≤ data.length := by
    have two : endMarker.length = 2 := rfl
    omega
  exact slice_eq_iff_suffix inside

theorem endMarker_place {j : Nat} (inside : j ≤ data.length) (ends : endMarker <:+ data.take j) :
    ∃ k, j = k + 2 ∧ k < data.length - 1 := by
  have two : 2 ≤ (data.take j).length := ends.length_le
  rw [List.length_take, Nat.min_eq_left inside] at two
  exact ⟨j - 2, by omega, by omega⟩

theorem completeFrame_searched (long : 4 ≤ data.length) (starts : startMarker <+: data) :
    (∃ p, completeFrame data = .ok p ∧ LongestPrefix (endMarker <:+ ·) data p) ∨
      (∃ error, completeFrame data = .error error) ∧ ¬ endMarker <:+: data := by
  have headed : ¬ (data.length < 4 ∨ ¬ [0xff, 0xd8].isPrefixOf data) := by
    rw [List.isPrefixOf_iff_prefix, not_or, not_not]
    exact ⟨Nat.not_lt.mpr long, starts⟩
  have search := find?_reverse_range (data.length - 1) fun position =>
    decide (slice data position (position + 2) = [0xff, 0xd9])
  rw [completeFrame, if_neg headed]
  split
  · next whole =>
      exact .inl ⟨data, rfl, .whole (List.isSuffixOf_iff_suffix.mp whole)⟩
  · split
    · next k found =>
        rw [found] at search
        obtain ⟨within, holds, last⟩ := search
        refine .inl ⟨_, rfl, .of_last ((endMarker_at within).mp (of_decide_eq_true holds)) ?_⟩
        intro j beyond inside ends
        obtain ⟨later, rfl, place⟩ := endMarker_place inside ends
        have nothing := of_decide_eq_false (last later (by omega) place)
        exact nothing ((endMarker_at place).mpr ends)
    · next missing =>
        rw [missing] at search
        refine .inr ⟨⟨_, rfl⟩, fun contained => ?_⟩
        obtain ⟨q, ends, inside⟩ := List.infix_iff_suffix_prefix.mp contained
        rw [List.prefix_iff_eq_take.mp inside] at ends
        obtain ⟨k, same, place⟩ := endMarker_place inside.length_le ends
        rw [same] at ends
        exact of_decide_eq_false (search k place) ((endMarker_at place).mpr ends)

theorem completeFrame_ok (image : HasImage data) :
    ∃ p, completeFrame data = .ok p ∧ LongestPrefix (endMarker <:+ ·) data p := by
  rcases completeFrame_searched image.long image.starts with trimmed | ⟨_, unended⟩
  · exact trimmed
  · exact absurd image.ends unended

private theorem completeFrame_error (other : ¬ HasImage data) :
    ∃ error, completeFrame data = .error error := by
  by_cases headed : 4 ≤ data.length ∧ startMarker <+: data
  · obtain ⟨long, starts⟩ := headed
    rcases completeFrame_searched long starts with ⟨p, _, longest⟩ | ⟨refused, _⟩
    · have ends := longest.holds.isInfix.trans longest.isPrefix.isInfix
      exact absurd ⟨long, starts, ends⟩ other
    · exact refused
  · exact completeFrame_headless headed

theorem completeFrame_ok_iff :
    completeFrame data = .ok p ↔ HasImage data ∧ LongestPrefix (endMarker <:+ ·) data p := by
  constructor
  · intro trimmed
    by_cases image : HasImage data
    · obtain ⟨q, made, longest⟩ := completeFrame_ok image
      obtain rfl := Except.ok.inj (made.symm.trans trimmed)
      exact ⟨image, longest⟩
    · obtain ⟨error, refused⟩ := completeFrame_error image
      rw [refused] at trimmed
      contradiction
  · rintro ⟨image, longest⟩
    obtain ⟨q, made, other⟩ := completeFrame_ok image
    rw [made, other.unique longest]

/-- A payload is trimmed if and only if it holds an image. What is kept is the longest prefix
that ends in the end marker, and trimming it again changes nothing. -/
theorem trim_exact (data p : List UInt8) :
    (completeFrame data = .ok p ↔ HasImage data ∧ LongestPrefix (endMarker <:+ ·) data p) ∧
      ((∃ q, completeFrame data = .ok q) ↔ HasImage data) ∧
      (completeFrame data = .ok p → 4 ≤ p.length ∧ completeFrame p = .ok p) := by
  refine ⟨completeFrame_ok_iff, ?_, ?_⟩
  · constructor
    · rintro ⟨q, trimmed⟩
      exact (completeFrame_ok_iff.mp trimmed).1
    · intro image
      obtain ⟨q, trimmed, _⟩ := completeFrame_ok image
      exact ⟨q, trimmed⟩
  · intro trimmed
    obtain ⟨image, longest⟩ := completeFrame_ok_iff.mp trimmed
    have kept := image.trimmed longest.isPrefix longest.holds
    exact ⟨kept.long, completeFrame_ok_iff.mpr ⟨kept, longest.again⟩⟩

/-- Padding behind the last marker is cut off; a marker before it is kept. -/
example : completeFrame [0xff, 0xd8, 0xff, 0xd9, 1, 0xff, 0xd9, 0, 0] =
    .ok [0xff, 0xd8, 0xff, 0xd9, 1, 0xff, 0xd9] := by
  decide

end CameraRs

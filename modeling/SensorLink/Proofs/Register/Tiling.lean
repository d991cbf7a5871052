/-
The pieces of a transfer tile it.

* `Span.Tiles` — pieces that follow one another without gap or overlap, none of
  them empty and none longer than the size they are cut to;
* `tiles_split` — the cut of a transfer tiles it;
* `getElem?_split` — the pieces of the cut by number;
* `Tiles.le`, `Tiles.sum_lengths` — a tiling ends after its start by what its pieces hold;
* `Tiles.of_append` — a piece and what is before it;
* `Tiles.exists_mem` — every multiple of the size starts a piece.

All loops over pieces are proved by induction on the tiling, not on the cut:
a tiling says what the loop needs about the piece at hand and is a tiling of the
rest.
-/
import Mathlib.Algebra.Ring.Nat
import SensorLink.Register.Span

namespace SensorLink.Span

/-- The pieces tile the range from one offset up to another.  Each of them starts
at a multiple of `size`, holds something, and is at most `size` long. -/
inductive Tiles (size : Nat) : Nat → List Span → Nat → Prop
  | nil (offset : Nat) : Tiles size offset [] offset
  | cons {offset length stop : Nat} {spans : List Span} :
      size ∣ offset → 0 < length → length ≤ size → Tiles size (offset + length) spans stop →
      Tiles size offset (⟨offset, length⟩ :: spans) stop

namespace Tiles

variable {size start stop : Nat} {spans : List Span}

theorem le (h : Tiles size start spans stop) : start ≤ stop := by
  induction h with
  | nil => exact Nat.le_refl _
  | cons _ _ _ _ ih => exact Nat.le_trans (Nat.le_add_right _ _) ih

/-- The pieces are as long as what they tile. -/
theorem sum_lengths (h : Tiles size start spans stop) :
    start + (spans.map Span.length).sum = stop := by
  induction h with
  | nil => rfl
  | cons _ _ _ _ ih =>
    rw [List.map_cons, List.sum_cons, ← Nat.add_assoc]
    exact ih

theorem shift (h : Tiles size start spans stop) {distance : Nat} (hdistance : size ∣ distance) :
    Tiles size (start + distance) (spans.map (Span.shift distance)) (stop + distance) := by
  induction h with
  | nil => exact .nil _
  | cons hdvd hpos hle _ ih =>
    refine .cons (Nat.dvd_add hdvd hdistance) hpos hle ?_
    rw [Nat.add_right_comm]
    exact ih

/-- The pieces before a piece tile what is before it. -/
theorem of_append {before after : List Span} {piece : Span}
    (h : Tiles size start (before ++ piece :: after) stop) :
    Tiles size start before piece.offset ∧ 0 < piece.length ∧ piece.length ≤ size ∧
      piece.offset + piece.length ≤ stop := by
  induction before generalizing start with
  | nil =>
    obtain _ | ⟨_, hpos, hle, htail⟩ := h
    exact ⟨.nil _, hpos, hle, htail.le⟩
  | cons first before ih =>
    obtain _ | ⟨hdvd, hpos, hle, htail⟩ := h
    obtain ⟨hbefore, hpiece⟩ := ih htail
    exact ⟨.cons hdvd hpos hle hbefore, hpiece⟩

/-- Every multiple of the size inside of the range starts a piece. -/
theorem exists_mem (h : Tiles size start spans stop) {offset : Nat} (hdvd : size ∣ offset)
    (hstart : start ≤ offset) (hstop : offset < stop) : ∃ span ∈ spans, span.offset = offset := by
  induction h with
  | nil => omega
  | @cons first length stop spans hfirst hpos hle _ ih =>
    rcases Nat.eq_or_lt_of_le hstart with rfl | hlt
    · exact ⟨_, List.mem_cons_self, rfl⟩
    -- The next multiple after `first` is at least a whole piece away.
    · have hnext : first + size ≤ offset := by
        have hdiff : size ∣ offset - first := Nat.dvd_sub hdvd hfirst
        have := Nat.le_of_dvd (by omega) hdiff
        omega
      obtain ⟨span, hmem, hspan⟩ := ih (by omega) hstop
      exact ⟨span, List.mem_cons_of_mem _ hmem, hspan⟩

end Tiles

/-- Cutting a transfer into pieces tiles it. -/
theorem tiles_split {size : Nat} (hsize : 0 < size) (total : Nat) :
    Tiles size 0 (split size total) total := by
  induction total using Nat.strongRecOn with
  | ind total ih =>
    rcases Nat.eq_zero_or_pos total with rfl | hpos
    · rw [split_zero]
      exact .nil 0
    · rw [split_of_pos hsize hpos]
      refine .cons (Nat.dvd_zero _) (by omega) (Nat.min_le_left ..) ?_
      rcases Nat.lt_or_ge size total with hlt | hge
      · have htail := (ih (total - size) (by omega)).shift (Nat.dvd_refl size)
        rw [Nat.sub_add_cancel (by omega)] at htail
        rwa [Nat.min_eq_left (by omega)]
      -- The first piece was the last one.
      · rw [Nat.sub_eq_zero_of_le hge, split_zero, List.map_nil, Nat.min_eq_right hge, Nat.zero_add]
        exact .nil total

/-- Piece `k` of a cut starts at `k * size`. -/
theorem getElem?_split {size : Nat} (hsize : 0 < size) {total k : Nat} {piece : Span}
    (h : (split size total)[k]? = some piece) :
    piece = ⟨k * size, min size (total - k * size)⟩ ∧ k * size < total := by
  rw [split, List.getElem?_map, Option.map_eq_some_iff] at h
  obtain ⟨i, hi, rfl⟩ := h
  obtain ⟨hlt, rfl⟩ := List.getElem?_eq_some_iff.mp hi
  rw [List.length_range, Nat.lt_div_iff_mul_lt hsize] at hlt
  rw [List.getElem_range]
  exact ⟨rfl, by omega⟩

end SensorLink.Span

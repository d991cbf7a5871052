/-
Cutting a transfer into pieces.

Two layers cut transfers: a register access is cut into the chunks its bus can
carry, and a request is cut into the blocks its staging buffer can hold.  Both
use the same cut.

* `Span` — a piece of a transfer: where it starts and how long it is;
* `Span.split` — pieces of a given size, and one shorter piece for a rest;
* `split_of_pos` — the first piece and the cut of what follows it;
* `split_from` — the same for the cut of a rest, told for the whole.
-/
namespace SensorLink

/-- A piece of a transfer, by its offset and its length in bytes. -/
structure Span where
  offset : Nat
  length : Nat
  deriving DecidableEq, Repr

namespace Span

/-- Cuts `total` bytes into pieces of `size` bytes; the last piece holds the rest. -/
def split (size total : Nat) : List Span :=
  (List.range ((total + size - 1) / size)).map fun i => ⟨i * size, min size (total - i * size)⟩

/-- Moves a piece up by `distance`. -/
def shift (distance : Nat) (span : Span) : Span :=
  ⟨span.offset + distance, span.length⟩

@[simp] theorem split_zero (size : Nat) : split size 0 = [] := by
  rcases size with _ | size
  · rfl
  · have : (0 + (size + 1) - 1) / (size + 1) = 0 := Nat.div_eq_of_lt (by omega)
    rw [split, this]
    rfl

theorem split_of_pos {size total : Nat} (hsize : 0 < size) (htotal : 0 < total) :
    split size total = ⟨0, min size total⟩ :: (split size (total - size)).map (shift size) := by
  -- Taking off the first piece takes one off their number.
  have hcount : (total + size - 1) / size = (total - size + size - 1) / size + 1 := by
    rcases Nat.lt_or_ge size total with h | h
    · rw [show total + size - 1 = (total - size + size - 1) + size by omega,
        Nat.add_div_right _ hsize]
    · rw [show total - size = 0 by omega, Nat.zero_add,
        show total + size - 1 = (total - 1) + size by omega, Nat.add_div_right _ hsize,
        Nat.div_eq_of_lt (by omega), Nat.div_eq_of_lt (by omega)]
  rw [split, hcount, List.range_succ_eq_map, List.map_cons, List.map_map, split, List.map_map]
  congr 1
  · simp
  · refine List.map_congr_left fun i _ => ?_
    simp only [Function.comp_apply, shift, Nat.succ_mul, mk.injEq, true_and]
    congr 1
    omega

/-- The pieces of what follows the first `done` bytes: the next one, and those of what
follows that. -/
theorem split_from {size total done : Nat} (hsize : 0 < size) (hdone : done < total) :
    (split size (total - done)).map (shift done)
      = ⟨done, min (total - done) size⟩
        :: (split size (total - (done + min (total - done) size))).map
            (shift (done + min (total - done) size)) := by
  rw [split_of_pos hsize (Nat.sub_pos_of_lt hdone), List.map_cons, List.map_map]
  refine List.cons_eq_cons.mpr ⟨?_, ?_⟩
  · rw [shift, Nat.zero_add, Nat.min_comm]
  · rcases Nat.le_total size (total - done) with hle | hle
    · rw [Nat.min_eq_right hle, Nat.sub_add_eq]
      refine List.map_congr_left fun span _ => ?_
      rw [Function.comp_apply, shift, shift, shift, Nat.add_assoc, Nat.add_comm size done]
    · rw [Nat.min_eq_left hle, Nat.sub_eq_zero_of_le hle, Nat.add_sub_of_le (Nat.le_of_lt hdone),
        Nat.sub_self, split_zero, List.map_nil, List.map_nil]

theorem map_shift_zero (spans : List Span) : spans.map (shift 0) = spans :=
  List.map_id spans

end Span

end SensorLink

/-
Ranges of addresses: what they hold, and what is outside of them.

A range is a half-open interval of exact integers, so that an empty range is apart from
every other one, wherever it starts.

* `Contents.span` — the addresses of a range;
* `read_congr` — a range reads alike from contents that agree on it;
* `patch_of_notMem` — what is outside of an overwritten range stays;
* `patch_read_twice` — of two copies from the same start, the longer one counts;
* `Window.eq_of_contents` — a window is given by what it covers and holds.
-/
import Mathlib.Data.Set.BooleanAlgebra
import Mathlib.Data.Set.Disjoint
import Mathlib.Order.CompletePartialOrder
import Mathlib.Order.Interval.Set.Basic
import SensorLink.Proofs.Control.CallerMemory

namespace SensorLink

namespace Contents

/-- The addresses of a range. -/
def span (start length : Nat) : Set Nat :=
  Set.Ico start (start + length)

@[simp] theorem mem_span {start length address : Nat} :
    address ∈ span start length ↔ start ≤ address ∧ address < start + length :=
  Iff.rfl

theorem span_mono (start : Nat) {length more : Nat} (h : length ≤ more) :
    span start length ⊆ span start more := by
  intro address hmem
  rw [mem_span] at hmem ⊢
  omega

theorem read_congr {contents contents' : Contents} {start length : Nat}
    (h : ∀ address ∈ span start length, contents' address = contents address) :
    contents'.read start length = contents.read start length := by
  refine List.map_congr_left ?_
  intro i hi
  have hi := List.mem_range.mp hi
  exact h (start + i) (mem_span.mpr ⟨by omega, by omega⟩)

theorem patch_of_notMem (contents : Contents) {start address : Nat} {data : Bytes}
    (h : address ∉ span start data.length) :
    contents.patch start data address = contents address := by
  rw [mem_span] at h
  rcases Nat.lt_or_ge address start with hlow | hlow
  · exact patch_of_lt _ _ hlow
  · exact patch_of_ge _ (by omega)

/-- A range that is apart from what was overwritten reads as before. -/
theorem read_patch_of_apart (contents : Contents) {start length other : Nat} {data : Bytes}
    (h : Disjoint (span start length) (span other data.length)) :
    (contents.patch other data).read start length = contents.read start length := by
  refine read_congr ?_
  intro address hmem
  exact patch_of_notMem _ (Set.disjoint_left.mp h hmem)

/-- A copy, address by address. -/
theorem patch_read_apply (contents source : Contents) (start first count address : Nat) :
    contents.patch start (source.read first count) address
      = if start ≤ address ∧ address < start + count then source (first + (address - start))
        else contents address := by
  by_cases hmem : start ≤ address ∧ address < start + count
  · obtain ⟨i, rfl⟩ := Nat.exists_eq_add_of_le hmem.1
    have hi : i < (source.read first count).length := by
      rw [length_read]
      omega
    rw [if_pos hmem, patch_add _ hi, Nat.add_sub_cancel_left]
    simp only [read, List.getElem_map, List.getElem_range]
  · refine (patch_of_notMem _ ?_).trans (if_neg hmem).symm
    rw [length_read]
    exact hmem

theorem patch_read_twice (contents source : Contents) (start first m n : Nat) :
    (contents.patch start (source.read first m)).patch start (source.read first n)
      = contents.patch start (source.read first (max m n)) := by
  funext address
  simp only [patch_read_apply]
  by_cases hn : start ≤ address ∧ address < start + n
  · rw [if_pos hn, if_pos (by omega)]
  · rw [if_neg hn]
    by_cases hm : start ≤ address ∧ address < start + m
    · rw [if_pos hm, if_pos (by omega)]
    · rw [if_neg hm, if_neg (by omega)]

end Contents

namespace Window

variable {window other : Window}

/-- The lowest address that a window covers is its base. -/
theorem base_eq_of_covers (h : other.Covers = window.Covers) : other.base = window.base := by
  have hself : ∀ w : Window, w.Covers w.base 0 := by
    intro w
    exact (w.covers_iff _ _).mpr ⟨Nat.le_refl _, Nat.le_add_right _ _⟩
  have hle := ((other.covers_iff _ _).mp (h ▸ hself window)).1
  have hge := ((window.covers_iff _ _).mp (h ▸ hself other)).1
  exact UInt64.toNat_inj.mp (Nat.le_antisymm hle hge)

/-- The longest range that a window covers is all of it. -/
theorem size_eq_of_covers (h : other.Covers = window.Covers) :
    other.bytes.size = window.bytes.size := by
  have hbase := base_eq_of_covers h
  have hself : ∀ w : Window, w.Covers w.base w.bytes.size := by
    intro w
    exact (w.covers_iff _ _).mpr ⟨Nat.le_refl _, Nat.le_refl _⟩
  have hle := ((other.covers_iff _ _).mp (h ▸ hself window)).2
  have hge := ((window.covers_iff _ _).mp (h ▸ hself other)).2
  rw [hbase] at hle hge
  omega

theorem eq_of_contents (hcovers : other.Covers = window.Covers)
    (hcontents : other.contents = window.contents) : other = window := by
  have hbase := base_eq_of_covers hcovers
  have hsize := size_eq_of_covers hcovers
  obtain ⟨base, bytes⟩ := window
  obtain ⟨base', bytes'⟩ := other
  simp only at hbase hsize
  subst hbase
  refine congrArg (Window.mk base') (Array.ext hsize ?_)
  intro i hi hi'
  -- The byte with number `i` is at the address `base + i`.
  have hbyte := congrFun hcontents (base'.toNat + i)
  simp only [contents_mk, Nat.le_add_right, if_true, Nat.add_sub_cancel_left] at hbyte
  rwa [Array.getElem?_eq_getElem hi, Array.getElem?_eq_getElem hi', Option.getD_some,
    Option.getD_some] at hbyte

theorem holds_of_covers (h : other.Covers = window.Covers) (address length : Nat) :
    other.Holds address length ↔ window.Holds address length := by
  rw [Holds, Holds, base_eq_of_covers h, size_eq_of_covers h]

end Window

end SensorLink

/-
Counts of bytes.

A count has sixty-four bits, so that a sum of counts may be none.  Counts are wide
enough for whatever is in memory: no length passes the greatest of them.

* `greatestCount` — the greatest count beside something of a given length;
* `addCounts?` — a sum, if it is a count;
* `endWithin?` — where a range ends, if it ends inside of something;
* `subtractWords?` — how far one word lies above another;
* `endWithin?_eq_some_iff`, `subtractWords?_eq_some_iff` — both of them in exact
  integers.
-/
namespace SensorLink

/-- The greatest count in a place where something has `length` bytes. -/
def greatestCount (length : Nat) : Nat :=
  max (UInt64.size - 1) length

/-- The sum of two counts, if it is a count. -/
def addCounts? (length a b : Nat) : Option Nat :=
  if a + b ≤ greatestCount length then some (a + b) else none

/-- The end of `count` bytes from `start` on, if it is a count and lies within the
first `length` bytes. -/
def endWithin? (length start count : Nat) : Option Nat :=
  match addCounts? length start count with
  | none => none
  | some stop => if stop ≤ length then some stop else none

/-- The difference of two words, unless it is negative. -/
def subtractWords? (a b : UInt64) : Option UInt64 :=
  if b ≤ a then some (a - b) else none

theorem endWithin?_eq_some_iff {length start count stop : Nat} :
    endWithin? length start count = some stop ↔ start + count = stop ∧ stop ≤ length := by
  unfold endWithin? addCounts? greatestCount
  constructor
  · intro h
    split at h
    · cases h
    · rename_i sum hsum
      split at hsum
      · cases hsum
        split at h
        · cases h
          exact ⟨rfl, ‹_›⟩
        · cases h
      · cases hsum
  · rintro ⟨rfl, hle⟩
    have hcount : start + count ≤ max (UInt64.size - 1) length :=
      Nat.le_trans hle (Nat.le_max_right ..)
    simp only [if_pos hcount, if_pos hle]

theorem endWithin?_eq_none_iff {length start count : Nat} :
    endWithin? length start count = none ↔ length < start + count := by
  cases hstop : endWithin? length start count with
  | none =>
    refine iff_of_true rfl (Nat.lt_of_not_le fun hle => ?_)
    cases hstop.symm.trans (endWithin?_eq_some_iff.mpr ⟨rfl, hle⟩)
  | some stop =>
    obtain ⟨rfl, hle⟩ := endWithin?_eq_some_iff.mp hstop
    exact iff_of_false (Option.some_ne_none _) (Nat.not_lt.mpr hle)

theorem subtractWords?_eq_some_iff {a b difference : UInt64} :
    subtractWords? a b = some difference ↔ b.toNat + difference.toNat = a.toNat := by
  unfold subtractWords?
  constructor
  · intro h
    split at h
    · rename_i hle
      cases h
      have := UInt64.le_iff_toNat_le.mp hle
      rw [UInt64.toNat_sub_of_le _ _ hle]
      omega
    · cases h
  · intro h
    have hle : b ≤ a := UInt64.le_iff_toNat_le.mpr (by omega)
    rw [if_pos hle, Option.some.injEq]
    refine UInt64.toNat_inj.mp ?_
    rw [UInt64.toNat_sub_of_le _ _ hle]
    omega

end SensorLink

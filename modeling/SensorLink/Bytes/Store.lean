/-
Byte arrays that are read and written by range.

* `Store.slice` — the bytes of a range;
* `Store.splice` — overwrites a range;
* `getElem?_slice`, `getElem?_splice` — both of them byte by byte;
* `Extent` — a range by its ends, `Extent.Within` — it lies in a store;
* `Store.copyTo`, `Store.copyFrom` — copies of a range, which trap unless it lies in the
  store and is as long as the other side.

A range that passes the end of the store is cut off there by `slice` and `splice`; what
checks its ranges itself goes through the copies.
-/
import SensorLink.Bytes
import SensorLink.Outcome

namespace SensorLink

/-- A byte array. -/
abbrev Store := Array UInt8

namespace Store

/-- The `length` bytes from `start` on; what would pass the end is missing. -/
def slice (store : Store) (start length : Nat) : Bytes :=
  (store.extract start (start + length)).toList

/-- Overwrites the bytes from `start` on; what would pass the end is dropped. -/
def splice (store : Store) (start : Nat) : Bytes → Store
  | [] => store
  | b :: rest => splice (store.setIfInBounds start b) (start + 1) rest

@[simp] theorem size_splice (store : Store) (start : Nat) (data : Bytes) :
    (store.splice start data).size = store.size := by
  induction data generalizing store start with
  | nil => rfl
  | cons b rest ih => simp [splice, ih]

theorem length_slice {store : Store} {start length : Nat} (h : start + length ≤ store.size) :
    (store.slice start length).length = length := by
  simp only [slice, Array.length_toList, Array.size_extract]
  omega

theorem getElem?_slice (store : Store) (start length i : Nat) :
    (store.slice start length)[i]? = if i < length then store[start + i]? else none := by
  rw [slice, Array.getElem?_toList, Array.getElem?_extract]
  by_cases h : i < length
  · rw [if_pos h]
    split
    · rfl
    · rw [Array.getElem?_eq_none (by omega)]
  · rw [if_neg h, if_neg (by omega)]

theorem getElem?_splice (store : Store) (start : Nat) (data : Bytes) (i : Nat) :
    (store.splice start data)[i]? =
      if start ≤ i ∧ i < start + data.length ∧ i < store.size then data[i - start]?
      else store[i]? := by
  induction data generalizing store start with
  | nil =>
    have : ¬(start ≤ i ∧ i < start + 0 ∧ i < store.size) := by omega
    simp only [splice, List.length_nil, if_neg this]
  | cons b rest ih =>
    rw [splice, ih, Array.getElem?_setIfInBounds, Array.size_setIfInBounds, List.length_cons]
    by_cases h : start = i
    · subst h
      have h₁ : ¬(start + 1 ≤ start ∧ start < start + 1 + rest.length ∧ start < store.size) := by
        omega
      rw [if_neg h₁, if_pos rfl]
      by_cases h₂ : start < store.size
      · have h₃ : start ≤ start ∧ start < start + (rest.length + 1) ∧ start < store.size := by omega
        rw [if_pos h₂, if_pos h₃, Nat.sub_self]
        rfl
      · have h₃ : ¬(start ≤ start ∧ start < start + (rest.length + 1) ∧ start < store.size) := by
          omega
        rw [if_neg h₂, if_neg h₃, Array.getElem?_eq_none (by omega)]
    · rw [if_neg h]
      by_cases h₁ : start + 1 ≤ i ∧ i < start + 1 + rest.length ∧ i < store.size
      · have h₂ : start ≤ i ∧ i < start + (rest.length + 1) ∧ i < store.size := by omega
        rw [if_pos h₁, if_pos h₂, show i - start = (i - (start + 1)) + 1 by omega,
          List.getElem?_cons_succ]
      · have h₂ : ¬(start ≤ i ∧ i < start + (rest.length + 1) ∧ i < store.size) := by omega
        rw [if_neg h₁, if_neg h₂]

end Store

/-- A range of a byte array: where it starts, and where it stops. -/
structure Extent where
  start : Nat
  stop : Nat
  deriving DecidableEq, Repr

/-- The range lies in the store. -/
def Extent.Within (extent : Extent) (store : Store) : Prop :=
  extent.start ≤ extent.stop ∧ extent.stop ≤ store.size

instance (extent : Extent) (store : Store) : Decidable (extent.Within store) :=
  inferInstanceAs (Decidable (_ ∧ _))

/-- The number of bytes in the range. -/
def Extent.length (extent : Extent) : Nat :=
  extent.stop - extent.start

namespace Store

variable {ε : Type}

/-- Copies the bytes of a range over `destination`. -/
def copyTo (store : Store) (extent : Extent) (destination : Bytes) : Run Bytes ε Unit :=
  if extent.Within store ∧ extent.length = destination.length then
    ⟨.ok (), store.slice extent.start extent.length⟩
  else ⟨.trap .outOfBounds, destination⟩

/-- Copies `source` over the bytes of a range. -/
def copyFrom (store : Store) (extent : Extent) (source : Bytes) : Run Store ε Unit :=
  if extent.Within store ∧ extent.length = source.length then
    ⟨.ok (), store.splice extent.start source⟩
  else ⟨.trap .outOfBounds, store⟩

end Store

end SensorLink

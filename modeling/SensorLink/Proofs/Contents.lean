/-
What an address space holds, seen as a byte at each address.

Register files, caller windows and flat arrays differ in how they store their
bytes.  Their contents do not: a range is read, a range is overwritten, and what
lies outside of it stays.

* `Contents` — a byte at each address;
* `Contents.read`, `Contents.patch` — a range, and the contents with a range
  overwritten;
* `read_add`, `patch_append` — adjacent ranges are one range;
* `read_patch_self` — what was written is read;
* `RegisterFile.contents`, `Window.contents` — the contents of a register file
  and of a window of caller memory.
-/
import SensorLink.Control.Boundary
import SensorLink.Register.File

namespace SensorLink

/-- A byte at each address. -/
abbrev Contents := Nat → UInt8

namespace Contents

/-- The `length` bytes from `start` on. -/
def read (contents : Contents) (start length : Nat) : Bytes :=
  (List.range length).map fun i => contents (start + i)

/-- The contents with the bytes from `start` on overwritten by `data`. -/
def patch (contents : Contents) (start : Nat) (data : Bytes) : Contents :=
  fun address => if start ≤ address then data[address - start]?.getD (contents address)
    else contents address

@[simp] theorem length_read (contents : Contents) (start length : Nat) :
    (contents.read start length).length = length := by
  simp [read]

@[simp] theorem read_zero (contents : Contents) (start : Nat) : contents.read start 0 = [] := rfl

@[simp] theorem patch_nil (contents : Contents) (start : Nat) :
    contents.patch start [] = contents := by
  funext address
  simp [patch]

theorem getElem?_read (contents : Contents) (start length i : Nat) :
    (contents.read start length)[i]?
      = if i < length then some (contents (start + i)) else none := by
  rw [read, List.getElem?_map]
  by_cases h : i < length
  · rw [List.getElem?_range h, if_pos h, Option.map_some]
  · rw [List.getElem?_eq_none (by simpa using h), if_neg h, Option.map_none]

theorem read_add (contents : Contents) (start m n : Nat) :
    contents.read start (m + n) = contents.read start m ++ contents.read (start + m) n := by
  simp only [read, List.range_add, List.map_append, List.map_map, Function.comp_def, Nat.add_assoc]

/-- Bytes that are a range, in two parts. -/
theorem append_eq_read {contents : Contents} {start : Nat} {bytes rest : Bytes}
    (h : bytes ++ rest = contents.read start (bytes ++ rest).length) :
    bytes = contents.read start bytes.length ∧
      rest = contents.read (start + bytes.length) rest.length := by
  rw [List.length_append, read_add] at h
  exact List.append_inj h (length_read ..).symm

theorem take_read (contents : Contents) (start : Nat) {n length : Nat} (h : n ≤ length) :
    (contents.read start length).take n = contents.read start n := by
  obtain ⟨rest, rfl⟩ := Nat.exists_eq_add_of_le h
  rw [read_add, List.take_left' (length_read ..)]

theorem patch_of_lt {start address : Nat} (contents : Contents) (data : Bytes)
    (h : address < start) : contents.patch start data address = contents address :=
  if_neg (by omega)

theorem patch_of_ge {start address : Nat} (contents : Contents) {data : Bytes}
    (h : start + data.length ≤ address) : contents.patch start data address = contents address := by
  rw [patch, List.getElem?_eq_none (by omega), Option.getD_none, ite_self]

/-- Inside of the range, the data is found. -/
theorem patch_add {start i : Nat} (contents : Contents) {data : Bytes} (h : i < data.length) :
    contents.patch start data (start + i) = data[i] := by
  rw [patch, if_pos (by omega), Nat.add_sub_cancel_left, List.getElem?_eq_getElem h,
    Option.getD_some]

theorem patch_append (contents : Contents) (start : Nat) (first second : Bytes) :
    contents.patch start (first ++ second)
      = (contents.patch start first).patch (start + first.length) second := by
  funext address
  -- An address lies before both parts, in one of them, or behind both.
  rcases Nat.lt_or_ge address start with hlow | hlow
  · rw [patch_of_lt _ _ hlow, patch_of_lt _ _ (by omega), patch_of_lt _ _ hlow]
  obtain ⟨i, rfl⟩ := Nat.exists_eq_add_of_le hlow
  rcases Nat.lt_or_ge i first.length with hfirst | hfirst
  · rw [patch_of_lt _ second (by omega), patch_add _ hfirst,
      patch_add _ (by rw [List.length_append]; omega), List.getElem_append_left hfirst]
  obtain ⟨j, rfl⟩ := Nat.exists_eq_add_of_le hfirst
  rcases Nat.lt_or_ge j second.length with hsecond | hsecond
  · rw [← Nat.add_assoc, patch_add _ hsecond, Nat.add_assoc,
      patch_add _ (by rw [List.length_append]; omega), List.getElem_append_right (by omega)]
    simp only [Nat.add_sub_cancel_left]
  · have hboth : start + (first ++ second).length ≤ start + (first.length + j) := by
      rw [List.length_append]
      omega
    rw [patch_of_ge _ hboth, patch_of_ge _ (by omega), patch_of_ge _ (by omega)]

theorem read_patch_self (contents : Contents) (start : Nat) (data : Bytes) :
    (contents.patch start data).read start data.length = data := by
  refine List.ext_getElem (length_read ..) ?_
  intro i hi hi'
  simp only [read, List.getElem_map, List.getElem_range, patch_add _ hi']

end Contents

namespace RegisterFile

/-- The contents of a register file; above its last register there is nothing
but zero. -/
def contents (file : RegisterFile) : Contents :=
  fun address => file.cells[address]?.getD 0

theorem read_eq_contents (file : RegisterFile) {register : UInt16} {length : Nat}
    (h : register.toNat + length ≤ registerSpace) :
    file.read register length = file.contents.read register.toNat length := by
  refine List.ext_getElem? ?_
  intro i
  rw [read, Store.getElem?_slice, Contents.getElem?_read]
  by_cases hi : i < length
  · have hsize : register.toNat + i < file.cells.size := by rw [file.size_cells]; omega
    rw [if_pos hi, if_pos hi, contents, Array.getElem?_eq_getElem hsize, Option.getD_some]
  · rw [if_neg hi, if_neg hi]

theorem contents_write (file : RegisterFile) {register : UInt16} {data : Bytes}
    (h : register.toNat + data.length ≤ registerSpace) :
    (file.write register data).contents = file.contents.patch register.toNat data := by
  obtain ⟨cells, hsize⟩ := file
  funext address
  simp only [write, contents, Store.getElem?_splice]
  by_cases hin : register.toNat ≤ address ∧ address < register.toNat + data.length
  · obtain ⟨i, rfl⟩ := Nat.exists_eq_add_of_le hin.1
    have hi : i < data.length := by omega
    rw [if_pos ⟨hin.1, hin.2, by omega⟩, Contents.patch_add _ hi, Nat.add_sub_cancel_left,
      List.getElem?_eq_getElem hi, Option.getD_some]
  · rw [if_neg fun hc => hin ⟨hc.1, hc.2.1⟩]
    rcases Nat.lt_or_ge address register.toNat with hlow | hlow
    · rw [Contents.patch_of_lt _ _ hlow, contents]
    · rw [Contents.patch_of_ge _ (by omega), contents]

end RegisterFile

namespace Window

/-- The contents of caller memory that is a window; outside of it there is
nothing but zero. -/
def contents (window : Window) : Contents :=
  fun address =>
    if window.base.toNat ≤ address then window.bytes[address - window.base.toNat]?.getD 0 else 0

theorem contents_mk (base : UInt64) (bytes : Store) (address : Nat) :
    (⟨base, bytes⟩ : Window).contents address
      = if base.toNat ≤ address then bytes[address - base.toNat]?.getD 0 else 0 := rfl

theorem position_eq {window : Window} {address : UInt64} {length : Nat}
    (h : window.Covers address length) :
    window.position address = address.toNat - window.base.toNat :=
  UInt64.toNat_sub_of_le _ _ h.1

theorem toList_fetch (window : Window) {address : UInt64} {length : Nat}
    (h : window.Covers address length) :
    (window.fetch address length h).toList = window.contents.read address.toNat length := by
  have hbounds := (window.covers_iff address length).mp h
  refine List.ext_getElem? ?_
  intro i
  rw [fetch, Vector.toList_mk, Store.getElem?_slice, Contents.getElem?_read, position_eq h]
  by_cases hi : i < length
  · have hindex : address.toNat + i - window.base.toNat
        = address.toNat - window.base.toNat + i := by
      omega
    rw [if_pos hi, if_pos hi, contents, if_pos (by omega), hindex,
      Array.getElem?_eq_getElem (by omega), Option.getD_some]
  · rw [if_neg hi, if_neg hi]

theorem contents_store (window : Window) {address : UInt64} {data : Bytes}
    (h : window.Covers address data.length) :
    (window.store address data).contents = window.contents.patch address.toNat data := by
  have hbounds := (window.covers_iff address data.length).mp h
  have hposition := position_eq h
  obtain ⟨base, bytes⟩ := window
  simp only at hbounds hposition
  funext a
  simp only [store, contents_mk, hposition, Store.getElem?_splice]
  by_cases hin : address.toNat ≤ a ∧ a < address.toNat + data.length
  · obtain ⟨i, rfl⟩ := Nat.exists_eq_add_of_le hin.1
    have hi : i < data.length := by omega
    have hindex : address.toNat + i - base.toNat - (address.toNat - base.toNat) = i := by omega
    rw [if_pos (by omega), if_pos (by omega), Contents.patch_add _ hi, hindex,
      List.getElem?_eq_getElem hi, Option.getD_some]
  · rcases Nat.lt_or_ge a address.toNat with hlow | hlow
    · rw [Contents.patch_of_lt _ _ hlow, contents_mk]
      by_cases hbase : base.toNat ≤ a
      · rw [if_pos hbase, if_pos hbase, if_neg (by omega)]
      · rw [if_neg hbase, if_neg hbase]
    · rw [Contents.patch_of_ge _ (by omega), contents_mk, if_pos (by omega), if_neg (by omega),
        if_pos (by omega)]

@[simp] theorem base_store (window : Window) (address : UInt64) (data : Bytes) :
    (window.store address data).base = window.base := rfl

@[simp] theorem size_store (window : Window) (address : UInt64) (data : Bytes) :
    (window.store address data).bytes.size = window.bytes.size :=
  Store.size_splice ..

end Window

end SensorLink

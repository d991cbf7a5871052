/-
Byte strings and the numbers they spell.

* `Bytes` — a byte string, first byte first;
* `ofLittleEndian`, `ofBigEndian` — the number that a byte string spells;
* `toLittleEndian`, `toBigEndian` — the bytes of a number at a given width;
* `capacity` — how many numbers a width has room for;
* `ofLittleEndian_toLittleEndian`, `ofBigEndian_toBigEndian` — reading back what
  was written gives the number modulo the capacity;
* `toLittleEndian_ofLittleEndian` — writing what was read gives the bytes.
-/
namespace SensorLink

/-- A byte string, first byte first. -/
abbrev Bytes := List UInt8

namespace Bytes

/-- The number spelled by the bytes, least significant byte first. -/
def ofLittleEndian : Bytes → Nat
  | [] => 0
  | b :: rest => b.toNat + 256 * ofLittleEndian rest

/-- The number spelled by the bytes, most significant byte first. -/
def ofBigEndian (bytes : Bytes) : Nat :=
  ofLittleEndian bytes.reverse

/-- The `width` low bytes of a number, least significant byte first. -/
def toLittleEndian : Nat → Nat → Bytes
  | 0, _ => []
  | width + 1, n => UInt8.ofNat n :: toLittleEndian width (n / 256)

/-- The `width` low bytes of a number, most significant byte first. -/
def toBigEndian (width n : Nat) : Bytes :=
  (toLittleEndian width n).reverse

/-- How many numbers `width` bytes can spell. -/
def capacity : Nat → Nat
  | 0 => 1
  | width + 1 => 256 * capacity width

@[simp] theorem length_toLittleEndian (width n : Nat) :
    (toLittleEndian width n).length = width := by
  induction width generalizing n with
  | zero => rfl
  | succ width ih => simp [toLittleEndian, ih]

@[simp] theorem length_toBigEndian (width n : Nat) : (toBigEndian width n).length = width := by
  simp [toBigEndian]

theorem ofLittleEndian_toLittleEndian (width n : Nat) :
    ofLittleEndian (toLittleEndian width n) = n % capacity width := by
  induction width generalizing n with
  | zero => simp [toLittleEndian, ofLittleEndian, capacity, Nat.mod_one]
  | succ width ih =>
    rw [toLittleEndian, ofLittleEndian, ih, UInt8.toNat_ofNat', capacity, Nat.mod_mul]

theorem ofLittleEndian_lt (bytes : Bytes) : ofLittleEndian bytes < capacity bytes.length := by
  induction bytes with
  | nil => exact Nat.one_pos
  | cons b rest ih =>
    have hb := b.toNat_lt
    rw [ofLittleEndian, List.length_cons, capacity]
    omega

theorem toLittleEndian_ofLittleEndian (bytes : Bytes) :
    toLittleEndian bytes.length (ofLittleEndian bytes) = bytes := by
  induction bytes with
  | nil => rfl
  | cons b rest ih =>
    have hlow : UInt8.ofNat (b.toNat + 256 * ofLittleEndian rest) = b := by
      refine UInt8.toNat_inj.mp ?_
      have hb := b.toNat_lt
      rw [UInt8.toNat_ofNat']
      omega
    have hhigh : (b.toNat + 256 * ofLittleEndian rest) / 256 = ofLittleEndian rest := by
      have hb := b.toNat_lt
      omega
    rw [ofLittleEndian, List.length_cons, toLittleEndian, hlow, hhigh, ih]

theorem ofBigEndian_toBigEndian (width n : Nat) :
    ofBigEndian (toBigEndian width n) = n % capacity width := by
  rw [ofBigEndian, toBigEndian, List.reverse_reverse, ofLittleEndian_toLittleEndian]

end Bytes

end SensorLink

/-
The address header in front of every message to the sensor.

* `header` — two bytes, high byte first;
* `splitHeader?` — takes a message apart into header and data;
* `directionBit` — on a four-wire bus the top bit of the header marks a write;
* `splitHeader?_header` — a header is read as it was written;
* `and_directionBit`, `or_directionBit_and_not` — the bit of an address that leaves
  room for it, before and after it is set.
-/
import SensorLink.Bytes

namespace SensorLink

/-- The number of bytes in a header. -/
def headerLength : Nat := 2

/-- Set in the header of a four-wire write, clear in that of a read. -/
def directionBit : UInt16 := 0x8000

/-- The header that names a register. -/
def header (register : UInt16) : Bytes :=
  Bytes.toBigEndian headerLength register.toNat

/-- The header and the data of a message, if it holds a whole header. -/
def splitHeader? : Bytes → Option (UInt16 × Bytes)
  | high :: low :: data => some (UInt16.ofNat (Bytes.ofBigEndian [high, low]), data)
  | _ => none

@[simp] theorem length_header (register : UInt16) : (header register).length = headerLength :=
  Bytes.length_toBigEndian ..

theorem splitHeader?_header (register : UInt16) (data : Bytes) :
    splitHeader? (header register ++ data) = some (register, data) := by
  obtain ⟨high, low, h⟩ : ∃ high low, header register = [high, low] := by
    match hr : header register, length_header register with
    | [high, low], _ => exact ⟨high, low, rfl⟩
  have hvalue : Bytes.ofBigEndian [high, low] = register.toNat := by
    rw [← h, header, Bytes.ofBigEndian_toBigEndian]
    exact Nat.mod_eq_of_lt register.toNat_lt
  rw [h, List.cons_append, List.cons_append, List.nil_append, splitHeader?, hvalue,
    UInt16.ofNat_toNat]

/-! ### The direction bit -/

theorem and_not_directionBit {register : UInt16} (h : register.toNat < 0x8000) :
    register &&& ~~~directionBit = register := by
  refine UInt16.toNat_inj.mp ?_
  have hmask : (~~~directionBit).toNat = 2 ^ 15 - 1 := rfl
  rw [UInt16.toNat_and, hmask, Nat.and_two_pow_sub_one_eq_mod]
  exact Nat.mod_eq_of_lt h

theorem and_directionBit {register : UInt16} (h : register.toNat < 0x8000) :
    register &&& directionBit = 0 := by
  rw [← and_not_directionBit h, UInt16.and_assoc, UInt16.not_and_self, UInt16.and_zero]

theorem or_directionBit_and (register mask : UInt16) :
    (register ||| directionBit) &&& mask = register &&& mask ||| directionBit &&& mask := by
  refine UInt16.toNat_inj.mp ?_
  simp only [UInt16.toNat_and, UInt16.toNat_or, Nat.and_or_distrib_right]

theorem or_directionBit_and_self (register : UInt16) :
    (register ||| directionBit) &&& directionBit ≠ 0 := by
  rw [or_directionBit_and, UInt16.and_self]
  intro h
  exact absurd (UInt16.or_eq_zero_iff.mp h).2 (by decide)

theorem or_directionBit_and_not {register : UInt16} (h : register.toNat < 0x8000) :
    (register ||| directionBit) &&& ~~~directionBit = register := by
  rw [or_directionBit_and, and_not_directionBit h, UInt16.and_not_self, UInt16.or_zero]

end SensorLink

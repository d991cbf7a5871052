/-
Register addresses.

* `registerSpace` — the number of registers that sixteen bits can name;
* `registerAt` — the register some bytes above another one.
-/
namespace SensorLink

/-- The number of addresses of sixteen bits. -/
def registerSpace : Nat := 0x10000

/-- The register that lies `offset` above `register`, as long as sixteen bits
hold it.  Of the offset itself only the low sixteen bits count. -/
def registerAt (register : UInt16) (offset : Nat) : Option UInt16 :=
  if register.toNat + offset % registerSpace < registerSpace then
    some (register + UInt16.ofNat offset)
  else
    none

/-- Inside the register space, registers are counted without wrapping. -/
theorem registerAt_of_lt {register : UInt16} {offset : Nat}
    (h : register.toNat + offset < registerSpace) :
    registerAt register offset = some (UInt16.ofNat (register.toNat + offset)) := by
  have hmod : offset % registerSpace = offset := Nat.mod_eq_of_lt (by omega)
  rw [registerAt, hmod, if_pos h, UInt16.ofNat_add, UInt16.ofNat_toNat]

end SensorLink

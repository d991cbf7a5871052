/-
The register file of a sensor: one byte at each sixteen-bit address.

* `RegisterFile` — 65536 bytes;
* `get` — the view: the byte at an address;
* `read`, `write` — a range of bytes, cut off at the top of the space;
* `readCyclic`, `writeCyclic` — a range that goes on at address zero;
* `ofSegments?` — a file from the ranges that are not zero.
-/
import SensorLink.Bytes.Store
import SensorLink.Register.Address

namespace SensorLink

/-- One byte for each register address. -/
structure RegisterFile where
  cells : Store
  size_cells : cells.size = registerSpace

namespace RegisterFile

/-- A file in which every register is zero. -/
def zero : RegisterFile :=
  ⟨Array.replicate registerSpace 0, Array.size_replicate⟩

theorem toNat_lt_size (file : RegisterFile) (register : UInt16) :
    register.toNat < file.cells.size := by
  rw [file.size_cells]
  exact register.toNat_lt

/-- The byte in a register. -/
def get (file : RegisterFile) (register : UInt16) : UInt8 :=
  have := file.toNat_lt_size register
  file.cells[register.toNat]

/-- The `length` bytes from `register` up. -/
def read (file : RegisterFile) (register : UInt16) (length : Nat) : Bytes :=
  file.cells.slice register.toNat length

/-- Overwrites the registers from `register` up. -/
def write (file : RegisterFile) (register : UInt16) (data : Bytes) : RegisterFile :=
  match file with
  | ⟨cells, size_cells⟩ =>
    ⟨cells.splice register.toNat data, by rw [Store.size_splice, size_cells]⟩

/-- The `length` bytes from `register` up, going on at zero past the top. -/
def readCyclic (file : RegisterFile) (register : UInt16) (length : Nat) : Bytes :=
  (List.range length).map fun i => file.get (register + UInt16.ofNat i)

/-- Overwrites the registers from `register` up, going on at zero past the top. -/
def writeCyclic (file : RegisterFile) (register : UInt16) : Bytes → RegisterFile
  | [] => file
  | b :: rest => (file.write register [b]).writeCyclic (register + 1) rest

/-- The file that holds the given ranges, later ones on top of earlier ones, and
zero elsewhere; every range must lie in the register space. -/
def ofSegments? (segments : List (UInt16 × Bytes)) : Option RegisterFile :=
  segments.foldlM (fun file (register, data) =>
    if register.toNat + data.length ≤ registerSpace then some (file.write register data) else none)
    zero

theorem length_read (file : RegisterFile) {register : UInt16} {length : Nat}
    (h : register.toNat + length ≤ registerSpace) :
    (file.read register length).length = length :=
  Store.length_slice (by rw [file.size_cells]; exact h)

@[simp] theorem length_readCyclic (file : RegisterFile) (register : UInt16) (length : Nat) :
    (file.readCyclic register length).length = length := by
  simp [readCyclic]

end RegisterFile

end SensorLink

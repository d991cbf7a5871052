/-
Numbers inside a byte string, as sensor result blocks hold them.

* `NumberFormat` — width, byte order and sign of a number;
* `NumberFormat.readAt?` — the number at an offset, if it fits in the buffer;
* `readAt?_of_le`, `readAt?_isSome_iff` — it fits if its end does, as an exact integer;
* `swapWords` — turns every whole four-byte word round.
-/
import SensorLink.Bytes
import SensorLink.Count

namespace SensorLink

/-- The end of a number that is stored first. -/
inductive ByteOrder where
  | little
  | big
  deriving DecidableEq, Repr

/-- How a number is laid out in memory. -/
structure NumberFormat where
  width : Nat
  order : ByteOrder
  signed : Bool
  deriving DecidableEq, Repr

namespace NumberFormat

/-- A single byte. -/
def byte : NumberFormat := ⟨1, .little, false⟩

/-- An unsigned big-endian half word. -/
def bigHalf : NumberFormat := ⟨2, .big, false⟩

/-- An unsigned little-endian half word. -/
def littleHalf : NumberFormat := ⟨2, .little, false⟩

/-- A signed little-endian half word. -/
def signedHalf : NumberFormat := ⟨2, .little, true⟩

/-- An unsigned big-endian word. -/
def bigWord : NumberFormat := ⟨4, .big, false⟩

/-- An unsigned little-endian word. -/
def littleWord : NumberFormat := ⟨4, .little, false⟩

/-- A signed little-endian word. -/
def signedWord : NumberFormat := ⟨4, .little, true⟩

/-- The number that the bytes spell, a signed one in two's complement. -/
def value (format : NumberFormat) (bytes : Bytes) : Int :=
  let magnitude := match format.order with
    | .little => Bytes.ofLittleEndian bytes
    | .big => Bytes.ofBigEndian bytes
  if format.signed then Int.bmod magnitude (Bytes.capacity format.width) else magnitude

/-- The number at `offset`, if all of its bytes lie in the buffer. -/
def readAt? (format : NumberFormat) (buffer : Bytes) (offset : Nat) : Option Int :=
  (endWithin? buffer.length offset format.width).map fun stop =>
    format.value ((buffer.take stop).drop offset)

/-- A number whose bytes lie in the buffer, as exact integers, is read. -/
theorem readAt?_of_le (format : NumberFormat) {buffer : Bytes} {offset : Nat}
    (h : offset + format.width ≤ buffer.length) :
    format.readAt? buffer offset
      = some (format.value ((buffer.drop offset).take format.width)) := by
  rw [readAt?, endWithin?_eq_some_iff.mpr ⟨rfl, h⟩, Option.map_some, ← List.take_drop]

theorem readAt?_isSome_iff (format : NumberFormat) (buffer : Bytes) (offset : Nat) :
    (format.readAt? buffer offset).isSome ↔ offset + format.width ≤ buffer.length := by
  rw [readAt?, Option.isSome_map, ← Nat.not_lt, ← endWithin?_eq_none_iff,
    Option.isSome_iff_ne_none]

end NumberFormat

/-- Reverses every whole four-byte word; up to three bytes at the end stay. -/
def swapWords : Bytes → Bytes
  | a :: b :: c :: d :: rest => d :: c :: b :: a :: swapWords rest
  | rest => rest

theorem length_swapWords (buffer : Bytes) : (swapWords buffer).length = buffer.length := by
  fun_induction swapWords buffer with
  | case1 a b c d rest ih => simp [ih]
  | case2 rest => rfl

end SensorLink

/-
The interface through which registers are reached.

A register bus moves one chunk of bytes at a time, between a buffer and the
registers from an address up.  How it does so is its own affair: the bus acts on
a world `ω`, and fails with errors of type `ε`.

* `RegisterBus` — the interface;
* `RegisterBus.beside` — the same bus in a world that holds something else, too.

Design notes.  A read is handed the buffer it fills, and gives it back on every
ending: a failing bus may have overwritten a part of it.  Only its length is
sure, and that is a field of the interface.
-/
import SensorLink.Bytes
import SensorLink.Outcome

namespace SensorLink

/-- A bus that reads and writes chunks of registers. -/
structure RegisterBus (ω ε : Type) where
  /-- The greatest number of bytes in a chunk. -/
  chunkSize : ω → Nat
  /-- The address just past the last register that the bus reaches. -/
  addressLimit : ω → Nat
  /-- Fills a buffer from the registers from an address up. -/
  readChunk : UInt16 → Bytes → ω → Run (Bytes × ω) ε Unit
  /-- Overwrites the registers from an address up. -/
  writeChunk : UInt16 → Bytes → ω → Run ω ε Unit
  /-- A read gives back a buffer as long as the one it was handed. -/
  length_readChunk : ∀ register buffer w,
    (readChunk register buffer w).world.1.length = buffer.length

namespace RegisterBus

variable {ω ε : Type}

/-- The bus in a world that has a second part, which the bus leaves alone. -/
def beside (bus : RegisterBus ω ε) (σ : Type) : RegisterBus (ω × σ) ε where
  chunkSize w := bus.chunkSize w.1
  addressLimit w := bus.addressLimit w.1
  readChunk register buffer := fun (w, rest) =>
    (bus.readChunk register buffer w).mapWorld fun (buffer, w) => (buffer, (w, rest))
  writeChunk register data := fun (w, rest) =>
    (bus.writeChunk register data w).mapWorld fun w => (w, rest)
  length_readChunk register buffer w := bus.length_readChunk register buffer w.1

end RegisterBus

end SensorLink

/-
A bus on loan.

Whoever works on a bus need not own it.  A borrowed bus stays at its place in the world
of its owner: every call goes through to it, and what is around it stays as it is.

* `Place` — a part of a world that can be looked at and replaced;
* `RegisterBus.borrowed` — the bus at a place, as a bus in the world around it.
-/
import SensorLink.Register.Bus

namespace SensorLink

/-- A part `ω` of a world `σ`. -/
structure Place (σ ω : Type) where
  get : σ → ω
  set : σ → ω → σ
  get_set : ∀ s w, get (set s w) = w
  set_get : ∀ s, set s (get s) = s
  set_set : ∀ s w v, set (set s w) v = set s v

namespace RegisterBus

variable {σ ω ε : Type}

/-- The bus at a place of a larger world. -/
def borrowed (bus : RegisterBus ω ε) (place : Place σ ω) : RegisterBus σ ε where
  chunkSize s := bus.chunkSize (place.get s)
  addressLimit s := bus.addressLimit (place.get s)
  readChunk register buffer s :=
    (bus.readChunk register buffer (place.get s)).mapWorld
      fun (buffer, w) => (buffer, place.set s w)
  writeChunk register data s :=
    (bus.writeChunk register data (place.get s)).mapWorld (place.set s)
  length_readChunk register buffer s := by
    exact bus.length_readChunk register buffer (place.get s)

end RegisterBus

end SensorLink

/-
A simulated sensor on a four-wire bus.

The top bit of the header tells a write from a read.  A write stores the data
from the fifteen-bit address up; a read sends the registers from there up in
place of the data.  Meanwhile the header comes back as ones.

* `FourWireTarget` — the sensor and the record of the exchanges as sent;
* `FourWireTarget.controller` — a controller with the sensor on its bus.
-/
import SensorLink.Register.File
import SensorLink.Wire.FourWire

namespace SensorLink.Bench

/-- A sensor on a four-wire bus. -/
structure FourWireTarget where
  registers : RegisterFile
  /-- The number of exchanges after which all fail. -/
  failAfter : Option Nat := none
  log : Array Bytes := #[]

namespace FourWireTarget

/-- What comes back in place of a header. -/
def idleHeader : Bytes := [0xFF, 0xFF]

/-- Answers an exchange with the given header and data. -/
def serve (first : UInt16) (data : Bytes) :
    FourWireTarget → Run (Bytes × FourWireTarget) FourWireError Unit
  | ⟨registers, failAfter, log⟩ =>
    let register := first &&& ~~~directionBit
    if registerSpace < register.toNat + data.length then
      ⟨.trap .outOfBounds, (header first ++ data, ⟨registers, failAfter, log⟩)⟩
    else if first &&& directionBit ≠ 0 then
      ⟨.ok (), (idleHeader ++ data, ⟨registers.write register data, failAfter, log⟩)⟩
    else
      ⟨.ok (), (idleHeader ++ registers.read register data.length, ⟨registers, failAfter, log⟩)⟩

/-- Records an exchange and answers it, unless no more of them succeed. -/
def exchange (buffer : Bytes) : FourWireTarget → Run (Bytes × FourWireTarget) FourWireError Unit
  | ⟨registers, failAfter, log⟩ =>
    let target : FourWireTarget := ⟨registers, failAfter, log.push buffer⟩
    if failAfter.any (· < log.size + 1) then ⟨.error .other, (buffer, target)⟩
    else
      match splitHeader? buffer with
      | none => ⟨.trap .outOfBounds, (buffer, target)⟩
      | some (first, data) => target.serve first data

theorem length_serve (first : UInt16) (data : Bytes) (target : FourWireTarget) :
    (target.serve first data).world.1.length = headerLength + data.length := by
  obtain ⟨registers, failAfter, log⟩ := target
  simp only [serve]
  split
  · simp
  split
  · simp only [idleHeader, headerLength, List.length_append, List.length_cons, List.length_nil]
  · rename_i hfits _
    simp only [idleHeader, headerLength, List.length_append, List.length_cons, List.length_nil,
      registers.length_read (Nat.not_lt.mp hfits)]

/-- A controller with the sensor on its bus. -/
def controller : FourWireBus FourWireTarget FourWireError where
  exchange := exchange
  length_exchange buffer target := by
    obtain ⟨registers, failAfter, log⟩ := target
    simp only [exchange]
    split
    · rfl
    · match buffer with
      | [] => rfl
      | [_] => rfl
      | high :: low :: data =>
        simp only [splitHeader?, length_serve, List.length_cons, headerLength]
        omega

end FourWireTarget

end SensorLink.Bench

/-
A simulated sensor on a two-wire bus.

The first two bytes of a message set the register pointer, and the others are
stored from there up.  A read streams registers from the pointer, which stays
where it is.

* `TwoWireMessage` — a transaction, as an analyser on the bus shows it;
* `TwoWireTarget` — the sensor and the record of its transactions;
* `TwoWireTarget.controller` — a controller with the sensor on its bus.
-/
import SensorLink.Register.File
import SensorLink.Wire.TwoWire

namespace SensorLink.Bench

/-- A transaction on a two-wire bus. -/
inductive TwoWireMessage where
  | write (address : UInt8) (message : Bytes)
  | read (address : UInt8) (length : Nat)
  | writeRead (address : UInt8) (message : Bytes) (length : Nat)
  deriving DecidableEq, Repr

/-- A sensor on a two-wire bus. -/
structure TwoWireTarget where
  registers : RegisterFile
  pointer : UInt16 := 0
  /-- The transactions made so far. -/
  attempts : Nat := 0
  /-- The number of transactions after which all fail. -/
  failAfter : Option Nat := none
  log : Array TwoWireMessage := #[]

namespace TwoWireTarget

/-- Counts and records a transaction, unless no more of them succeed. -/
def accept (message : TwoWireMessage) : TwoWireTarget → Run TwoWireTarget TwoWireError Unit
  | ⟨registers, pointer, attempts, failAfter, log⟩ =>
    if failAfter.any (· < attempts + 1) then
      ⟨.error .other, ⟨registers, pointer, attempts + 1, failAfter, log⟩⟩
    else
      ⟨.ok (), ⟨registers, pointer, attempts + 1, failAfter, log.push message⟩⟩

/-- Sets the pointer and stores what follows the header. -/
def receive (message : Bytes) : TwoWireTarget → Run TwoWireTarget TwoWireError Unit
  | ⟨registers, pointer, attempts, failAfter, log⟩ =>
    match splitHeader? message with
    | none => ⟨.trap .outOfBounds, ⟨registers, pointer, attempts, failAfter, log⟩⟩
    | some (register, data) =>
      if register.toNat + data.length ≤ registerSpace then
        ⟨.ok (), ⟨registers.write register data, register, attempts, failAfter, log⟩⟩
      else ⟨.trap .outOfBounds, ⟨registers, register, attempts, failAfter, log⟩⟩

/-- Fills a buffer from the pointer up. -/
def stream (buffer : Bytes) (target : TwoWireTarget) :
    Run (Bytes × TwoWireTarget) TwoWireError Unit :=
  if target.pointer.toNat + buffer.length ≤ registerSpace then
    ⟨.ok (), (target.registers.read target.pointer buffer.length, target)⟩
  else ⟨.trap .outOfBounds, (buffer, target)⟩

theorem length_stream (buffer : Bytes) (target : TwoWireTarget) :
    (target.stream buffer).world.1.length = buffer.length := by
  unfold stream
  split
  · exact target.registers.length_read (by assumption)
  · rfl

/-- Serves a message. -/
def write (address : UInt8) (message : Bytes) (target : TwoWireTarget) :
    Run TwoWireTarget TwoWireError Unit :=
  (target.accept (.write address message)).andThen fun _ target => target.receive message

/-- Serves a read. -/
def read (address : UInt8) (buffer : Bytes) (target : TwoWireTarget) :
    Run (Bytes × TwoWireTarget) TwoWireError Unit :=
  match target.accept (.read address buffer.length) with
  | ⟨.ok _, target⟩ => target.stream buffer
  | ⟨.error e, target⟩ => ⟨.error e, (buffer, target)⟩
  | ⟨.trap t, target⟩ => ⟨.trap t, (buffer, target)⟩

/-- Serves a combined transaction, of whose message only the header counts. -/
def writeRead (address : UInt8) (message buffer : Bytes) (target : TwoWireTarget) :
    Run (Bytes × TwoWireTarget) TwoWireError Unit :=
  match (target.accept (.writeRead address message buffer.length)).andThen fun _ target =>
      target.receive (message.take headerLength) with
  | ⟨.ok _, target⟩ => target.stream buffer
  | ⟨.error e, target⟩ => ⟨.error e, (buffer, target)⟩
  | ⟨.trap t, target⟩ => ⟨.trap t, (buffer, target)⟩

/-- A controller with the sensor on its bus. -/
def controller : TwoWireBus TwoWireTarget TwoWireError where
  write := write
  read := read
  writeRead := writeRead
  length_read address buffer target := by
    unfold read
    split
    · exact length_stream ..
    · rfl
    · rfl
  length_writeRead address message buffer target := by
    unfold writeRead
    split
    · exact length_stream ..
    · rfl
    · rfl

end TwoWireTarget

end SensorLink.Bench

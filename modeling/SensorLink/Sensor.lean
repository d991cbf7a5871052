/-
A sensor behind a register bus: single registers, identity, name.

* `readByte`, `writeByte` — accesses of one register;
* `detect` — selects the first page and checks the identity registers;
* `sensorName` — the name under which a sensor is known;
* `SensorCall`, `SensorCall.run` — every call on a sensor, as a value.
-/
import SensorLink.Register.Access

namespace SensorLink

/-- Selects the page of registers that the lower addresses show. -/
def pageSelectRegister : UInt16 := 0x7FFF

/-- Holds the model of the sensor. -/
def deviceIdRegister : UInt16 := 0x0000

/-- Holds the revision of the sensor. -/
def revisionIdRegister : UInt16 := 0x0001

/-- What the identity registers of a sensor hold. -/
structure Identity where
  deviceId : UInt8
  revisionId : UInt8
  deriving DecidableEq, Repr

/-- The identity of the sensor that this library is for. -/
def Identity.expected : Identity := ⟨0xF0, 0x0C⟩

/-- The name of the sensor, shared by all of its instances. -/
def sensorModel : String := "vl53l8cx"

/-- The name of a sensor: its model, and its number if it has one. -/
def sensorName (number : Option UInt8) : String :=
  match number with
  | none => sensorModel
  | some n => s!"{sensorModel}{n.toNat}"

namespace RegisterBus

variable {ω ε : Type}

/-- Reads one register. -/
def readByte (bus : RegisterBus ω ε) (register : UInt16) (w : ω) : Run ω (AccessError ε) UInt8 :=
  match bus.read register [0] w with
  | ⟨outcome, (buffer, w)⟩ => ⟨outcome.map fun _ => buffer.headD 0, w⟩

/-- Writes one register. -/
def writeByte (bus : RegisterBus ω ε) (register : UInt16) (value : UInt8) (w : ω) :
    Run ω (AccessError ε) Unit :=
  bus.write register [value] w

/-- Selects the first page and reads the identity, which must be the expected
one. -/
def detect (bus : RegisterBus ω ε) (w : ω) : Run ω (AccessError ε) Identity :=
  (bus.writeByte pageSelectRegister 0 w).andThen fun _ w =>
  (bus.readByte deviceIdRegister w).andThen fun deviceId w =>
  (bus.readByte revisionIdRegister w).andThen fun revisionId w =>
    if (⟨deviceId, revisionId⟩ : Identity) = Identity.expected then
      ⟨.ok ⟨deviceId, revisionId⟩, w⟩
    else
      ⟨.error (.unknownSensor deviceId revisionId), w⟩

end RegisterBus

/-- A call on a sensor. -/
inductive SensorCall where
  | readByte (register : UInt16)
  | writeByte (register : UInt16) (value : UInt8)
  | read (register : UInt16) (buffer : Bytes)
  | write (register : UInt16) (data : Bytes)
  | detect
  deriving DecidableEq, Repr

/-- What a call on a sensor gives. -/
inductive SensorValue where
  | none
  | byte (value : UInt8)
  | identity (identity : Identity)
  deriving DecidableEq, Repr

/-- Makes a call.  The buffer beside the final world is that of a `read`, and is
empty for every other call. -/
def SensorCall.run {ω ε : Type} (bus : RegisterBus ω ε) (w : ω) :
    SensorCall → Run (Bytes × ω) (AccessError ε) SensorValue
  | readByte register => ((bus.readByte register w).map .byte).mapWorld ([], ·)
  | writeByte register value =>
    ((bus.writeByte register value w).map fun _ => .none).mapWorld ([], ·)
  | read register buffer => (bus.read register buffer w).map fun _ => .none
  | write register data => ((bus.write register data w).map fun _ => .none).mapWorld ([], ·)
  | detect => ((bus.detect w).map .identity).mapWorld ([], ·)

end SensorLink

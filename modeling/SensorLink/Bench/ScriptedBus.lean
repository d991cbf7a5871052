/-
A register bus whose chunk size and address limit can be chosen freely.

It takes chunks of any length, goes on at register zero past the top of the
register space, and fails on schedule.  Chunk size and address limit are only
announced, and bind nobody.

* `ScriptedCall` — a call: for a read the length, for a write the data;
* `ScriptedBus` — limits, registers, schedule and record;
* `ScriptedBus.registerBus` — the register bus.
-/
import SensorLink.Bench.Fault
import SensorLink.Register.File

namespace SensorLink.Bench

/-- A chunk call on a scripted bus. -/
inductive ScriptedCall where
  | read (register : UInt16) (length : Nat)
  | write (register : UInt16) (data : Bytes)
  deriving DecidableEq, Repr

/-- A bus with limits of free choice; its errors are words. -/
structure ScriptedBus where
  chunkSize : Nat
  addressLimit : Nat
  registers : RegisterFile
  schedule : Schedule String
  log : Array ScriptedCall := #[]

namespace ScriptedBus

/-- Fills a buffer from the registers from `register` up. -/
def readChunk (register : UInt16) (buffer : Bytes) :
    ScriptedBus → Run (Bytes × ScriptedBus) String Unit
  | ⟨chunkSize, addressLimit, registers, schedule, log⟩ =>
    let log := log.push (.read register buffer.length)
    match schedule.next with
    | (some fault, schedule) =>
      ⟨.error fault.cause, (spoil fault.spoilt buffer,
        ⟨chunkSize, addressLimit, registers, schedule, log⟩)⟩
    | (none, schedule) =>
      ⟨.ok (), (registers.readCyclic register buffer.length,
        ⟨chunkSize, addressLimit, registers, schedule, log⟩)⟩

/-- Overwrites the registers from `register` up. -/
def writeChunk (register : UInt16) (data : Bytes) : ScriptedBus → Run ScriptedBus String Unit
  | ⟨chunkSize, addressLimit, registers, schedule, log⟩ =>
    let log := log.push (.write register data)
    match schedule.next with
    | (some fault, schedule) =>
      ⟨.error fault.cause, ⟨chunkSize, addressLimit, registers, schedule, log⟩⟩
    | (none, schedule) =>
      ⟨.ok (), ⟨chunkSize, addressLimit, registers.writeCyclic register data, schedule, log⟩⟩

/-- The register bus, which announces the limits it was given. -/
def registerBus : RegisterBus ScriptedBus String where
  chunkSize := chunkSize
  addressLimit := addressLimit
  readChunk := readChunk
  writeChunk := writeChunk
  length_readChunk register buffer bus := by
    obtain ⟨chunkSize, addressLimit, registers, schedule, log⟩ := bus
    simp only [readChunk]
    split
    · exact length_spoil ..
    · exact registers.length_readCyclic ..

end ScriptedBus

end SensorLink.Bench

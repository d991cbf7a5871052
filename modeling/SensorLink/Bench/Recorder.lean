/-
A register bus that records its chunk calls.

* `ChunkCall` — a call: direction, register and length;
* `Recorder` — registers with a chunk limit, a record of the calls and, at most,
  one call that fails;
* `Recorder.registerBus` — the recorder as a register bus.
-/
import SensorLink.Register.Access
import SensorLink.Register.File

namespace SensorLink.Bench

/-- A chunk call on a register bus. -/
structure ChunkCall where
  direction : Direction
  register : UInt16
  length : Nat
  deriving DecidableEq, Repr

/-- Registers that are reached in chunks of at most `limit` bytes. -/
structure Recorder where
  limit : Nat
  registers : RegisterFile
  /-- The number of the call that fails. -/
  failOn : Option Nat := none
  log : Array ChunkCall := #[]

namespace Recorder

/-- Records a call; calls longer than the limit are refused before that. -/
def record (call : ChunkCall) : Recorder → Run Recorder Unit Unit
  | ⟨limit, registers, failOn, log⟩ =>
    if limit < call.length then ⟨.trap .oversizedChunk, ⟨limit, registers, failOn, log⟩⟩
    else
      ⟨if failOn = some log.size then .error () else .ok (),
        ⟨limit, registers, failOn, log.push call⟩⟩

/-- Fills a buffer from the registers from `register` up. -/
def readChunk (register : UInt16) (buffer : Bytes) (recorder : Recorder) :
    Run (Bytes × Recorder) Unit Unit :=
  match recorder.record ⟨.read, register, buffer.length⟩ with
  | ⟨.ok _, recorder⟩ =>
    if register.toNat + buffer.length ≤ registerSpace then
      ⟨.ok (), (recorder.registers.read register buffer.length, recorder)⟩
    else ⟨.trap .outOfBounds, (buffer, recorder)⟩
  | ⟨.error e, recorder⟩ => ⟨.error e, (buffer, recorder)⟩
  | ⟨.trap t, recorder⟩ => ⟨.trap t, (buffer, recorder)⟩

/-- Overwrites the registers from `register` up. -/
def writeChunk (register : UInt16) (data : Bytes) (recorder : Recorder) :
    Run Recorder Unit Unit :=
  (recorder.record ⟨.write, register, data.length⟩).andThen
    fun _ ⟨limit, registers, failOn, log⟩ =>
      if register.toNat + data.length ≤ registerSpace then
        ⟨.ok (), ⟨limit, registers.write register data, failOn, log⟩⟩
      else ⟨.trap .outOfBounds, ⟨limit, registers, failOn, log⟩⟩

/-- The recorder as a register bus: it reaches every register. -/
def registerBus : RegisterBus Recorder Unit where
  chunkSize recorder := recorder.limit
  addressLimit _ := registerSpace
  readChunk := readChunk
  writeChunk := writeChunk
  length_readChunk register buffer recorder := by
    unfold readChunk
    split
    · split
      · exact RegisterFile.length_read _ (by assumption)
      · rfl
    · rfl
    · rfl

end Recorder

end SensorLink.Bench

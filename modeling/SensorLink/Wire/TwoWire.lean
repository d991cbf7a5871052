/-
Registers over a two-wire (I2C) bus.

A register address travels as a two-byte header.  A write sends header and data
in one message.  A read sends the header and then reads, in one combined
transaction or, for controllers that cannot do that, in two.

* `TwoWireBus` — the controller, as a sensor link uses it;
* `TwoWireLink` — a controller, the settings of one sensor and a staging buffer;
* `TwoWireLink.registerBus` — the link as a register bus.
-/
import SensorLink.Bytes.Scratch
import SensorLink.Register.Address
import SensorLink.Register.Bus
import SensorLink.Wire.Header

namespace SensorLink

/-- The part of a message that was not acknowledged. -/
inductive AcknowledgePhase where
  | address
  | data
  | unknown
  deriving DecidableEq, Repr

/-- Errors of a two-wire controller. -/
inductive TwoWireError where
  | bus
  | arbitrationLoss
  | noAcknowledge (phase : AcknowledgePhase)
  | overrun
  | other
  deriving DecidableEq, Repr

/-- The error in words. -/
def TwoWireError.text : TwoWireError → String
  | bus => "Bus"
  | arbitrationLoss => "ArbitrationLoss"
  | noAcknowledge .address => "NoAcknowledge(Address)"
  | noAcknowledge .data => "NoAcknowledge(Data)"
  | noAcknowledge .unknown => "NoAcknowledge(Unknown)"
  | overrun => "Overrun"
  | other => "Other"

/-- A two-wire controller: transactions with the target at a bus address. -/
structure TwoWireBus (σ ε : Type) where
  /-- Sends a message. -/
  write : UInt8 → Bytes → σ → Run σ ε Unit
  /-- Fills a buffer. -/
  read : UInt8 → Bytes → σ → Run (Bytes × σ) ε Unit
  /-- Sends a message and fills a buffer, in one transaction. -/
  writeRead : UInt8 → Bytes → Bytes → σ → Run (Bytes × σ) ε Unit
  length_read : ∀ target buffer s, (read target buffer s).world.1.length = buffer.length
  length_writeRead : ∀ target message buffer s,
    (writeRead target message buffer s).world.1.length = buffer.length

/-- How a sensor is reached on a two-wire bus. -/
structure TwoWireSettings where
  /-- The seven-bit bus address of the sensor. -/
  address : UInt8 := 0x29
  /-- Whether a read is one combined transaction. -/
  combined : Bool := true
  deriving DecidableEq, Repr

/-- The greatest number of data bytes in a two-wire message. -/
def twoWireChunkSize : Nat := 1024

/-- A sensor on a two-wire bus. -/
structure TwoWireLink (σ : Type) where
  settings : TwoWireSettings
  staging : Scratch (headerLength + twoWireChunkSize)
  bus : σ

namespace TwoWireLink

variable {σ ε : Type}

/-- Binds a controller to a sensor. -/
def bind (settings : TwoWireSettings) (bus : σ) : TwoWireLink σ :=
  ⟨settings, Scratch.zero _, bus⟩

/-- Fills a buffer from the registers from `register` up. -/
def readChunk (controller : TwoWireBus σ ε) (register : UInt16) (buffer : Bytes) :
    TwoWireLink σ → Run (Bytes × TwoWireLink σ) ε Unit
  | ⟨settings, staging, bus⟩ =>
    if twoWireChunkSize < buffer.length then
      ⟨.trap .oversizedChunk, (buffer, ⟨settings, staging, bus⟩)⟩
    else if settings.combined then
      (controller.writeRead settings.address (header register) buffer bus).mapWorld
        fun (buffer, bus) => (buffer, ⟨settings, staging, bus⟩)
    else
      match controller.write settings.address (header register) bus with
      | ⟨.ok _, bus⟩ =>
        (controller.read settings.address buffer bus).mapWorld
          fun (buffer, bus) => (buffer, ⟨settings, staging, bus⟩)
      | ⟨.error e, bus⟩ => ⟨.error e, (buffer, ⟨settings, staging, bus⟩)⟩
      | ⟨.trap t, bus⟩ => ⟨.trap t, (buffer, ⟨settings, staging, bus⟩)⟩

/-- Overwrites the registers from `register` up. -/
def writeChunk (controller : TwoWireBus σ ε) (register : UInt16) (data : Bytes) :
    TwoWireLink σ → Run (TwoWireLink σ) ε Unit
  | ⟨settings, staging, bus⟩ =>
    if twoWireChunkSize < data.length then ⟨.trap .oversizedChunk, ⟨settings, staging, bus⟩⟩
    else if headerLength + twoWireChunkSize < headerLength + data.length then
      ⟨.trap .outOfBounds, ⟨settings, staging, bus⟩⟩
    else
      let staging := staging.put (header register ++ data)
      let message := staging.front (headerLength + data.length)
      (controller.write settings.address message bus).mapWorld fun bus => ⟨settings, staging, bus⟩

/-- The link as a register bus: it reaches every register. -/
def registerBus (controller : TwoWireBus σ ε) : RegisterBus (TwoWireLink σ) ε where
  chunkSize _ := twoWireChunkSize
  addressLimit _ := registerSpace
  readChunk := readChunk controller
  writeChunk := writeChunk controller
  length_readChunk register buffer link := by
    obtain ⟨settings, staging, bus⟩ := link
    simp only [readChunk]
    split
    · rfl
    · split
      · exact controller.length_writeRead ..
      · split
        · exact controller.length_read ..
        · rfl
        · rfl

end TwoWireLink

end SensorLink

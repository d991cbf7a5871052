/-
Registers over a four-wire (SPI) bus.

Every access is one full-duplex exchange: a two-byte header, in which the top
bit marks a write, and as many bytes as are to be moved.  Addresses have fifteen
bits, so only the lower half of the register space is reached.

* `FourWireBus` — the controller, as a sensor link uses it;
* `FourWireSettings`, `FourWireSettings.validate` — the settings and their check;
* `FourWireLink` — a controller, checked settings and an exchange buffer;
* `FourWireLink.registerBus` — the link as a register bus.
-/
import SensorLink.Bytes.Scratch
import SensorLink.Register.Bus
import SensorLink.Wire.Header
import SensorLink.Wire.Setup

namespace SensorLink

/-- Errors of a four-wire controller. -/
inductive FourWireError where
  | overrun
  | modeFault
  | frameFormat
  | chipSelectFault
  | other
  deriving DecidableEq, Repr

/-- The error in words. -/
def FourWireError.text : FourWireError → String
  | overrun => "Overrun"
  | modeFault => "ModeFault"
  | frameFormat => "FrameFormat"
  | chipSelectFault => "ChipSelectFault"
  | other => "Other"

/-- A four-wire controller. -/
structure FourWireBus (σ ε : Type) where
  /-- Sends a buffer and replaces it by what came back meanwhile. -/
  exchange : Bytes → σ → Run (Bytes × σ) ε Unit
  length_exchange : ∀ buffer s, (exchange buffer s).world.1.length = buffer.length

/-- How a sensor is reached on a four-wire bus. -/
structure FourWireSettings where
  /-- Clock polarity and phase, as the usual mode number. -/
  mode : Fin 4 := 0
  speedHz : UInt32 := 2000000
  bitsPerWord : UInt8 := 8
  chipSelect : UInt8 := 0
  deriving DecidableEq, Repr

/-- The length of the exchange buffer. -/
def fourWireTransferSize : Nat := 4096

/-- The greatest number of data bytes in an exchange. -/
def fourWireChunkSize : Nat := fourWireTransferSize - headerLength

/-- The number of registers that fifteen bits can name. -/
def fourWireSpace : Nat := 0x8000

namespace FourWireSettings

/-- Settings the sensor can work with: words of one byte and a running clock. -/
def validate (settings : FourWireSettings) : Except SetupError Unit :=
  if settings.bitsPerWord ≠ 8 then .error (.wordSize settings.bitsPerWord)
  else if settings.speedHz = 0 then .error .zeroSpeed
  else .ok ()

end FourWireSettings

/-- A sensor on a four-wire bus. -/
structure FourWireLink (σ : Type) where
  settings : FourWireSettings
  buffer : Scratch fourWireTransferSize
  bus : σ

namespace FourWireLink

variable {σ ε : Type}

/-- Binds a controller to a sensor, if the settings allow it. -/
def bind (settings : FourWireSettings) (bus : σ) : Except SetupError (FourWireLink σ) :=
  match settings.validate with
  | .ok _ => .ok ⟨settings, Scratch.zero _, bus⟩
  | .error e => .error e

/-- Sends `message` from the front of the exchange buffer; what comes back is
left there, and is given back as well. -/
def exchange (controller : FourWireBus σ ε) (message : Bytes) :
    FourWireLink σ → Run (Bytes × FourWireLink σ) ε Unit
  | ⟨settings, scratch, bus⟩ =>
    let scratch := scratch.put message
    match controller.exchange (scratch.front message.length) bus with
    | ⟨outcome, (answer, bus)⟩ => ⟨outcome, (answer, ⟨settings, scratch.put answer, bus⟩)⟩

/-- Fills a buffer from the registers from `register` up; only an exchange that
succeeds reaches the buffer. -/
def readChunk (controller : FourWireBus σ ε) (register : UInt16) (buffer : Bytes)
    (link : FourWireLink σ) : Run (Bytes × FourWireLink σ) ε Unit :=
  if fourWireChunkSize < buffer.length then ⟨.trap .oversizedChunk, (buffer, link)⟩
  else if register &&& directionBit ≠ 0 then ⟨.trap .directionBitSet, (buffer, link)⟩
  else if fourWireTransferSize < headerLength + buffer.length then
    ⟨.trap .outOfBounds, (buffer, link)⟩
  else
    match link.exchange controller (header register ++ List.replicate buffer.length 0) with
    | ⟨.ok _, (answer, link)⟩ => ⟨.ok (), (answer.drop headerLength, link)⟩
    | ⟨.error e, (_, link)⟩ => ⟨.error e, (buffer, link)⟩
    | ⟨.trap t, (_, link)⟩ => ⟨.trap t, (buffer, link)⟩

/-- Overwrites the registers from `register` up. -/
def writeChunk (controller : FourWireBus σ ε) (register : UInt16) (data : Bytes)
    (link : FourWireLink σ) : Run (FourWireLink σ) ε Unit :=
  if fourWireChunkSize < data.length then ⟨.trap .oversizedChunk, link⟩
  else if register &&& directionBit ≠ 0 then ⟨.trap .directionBitSet, link⟩
  else if fourWireTransferSize < headerLength + data.length then ⟨.trap .outOfBounds, link⟩
  else
    (link.exchange controller (header (register ||| directionBit) ++ data)).mapWorld
      fun (_, link) => link

/-- An answer is as long as the message, if the message fits into the buffer. -/
theorem length_exchange (controller : FourWireBus σ ε) {message : Bytes} (link : FourWireLink σ)
    (h : message.length ≤ fourWireTransferSize) :
    (link.exchange controller message).world.1.length = message.length := by
  obtain ⟨settings, scratch, bus⟩ := link
  exact (controller.length_exchange ..).trans (Scratch.length_front _ h)

/-- The link as a register bus: it reaches the lower half of the registers. -/
def registerBus (controller : FourWireBus σ ε) : RegisterBus (FourWireLink σ) ε where
  chunkSize _ := fourWireChunkSize
  addressLimit _ := fourWireSpace
  readChunk := readChunk controller
  writeChunk := writeChunk controller
  length_readChunk register buffer link := by
    unfold readChunk
    split
    · rfl
    split
    · rfl
    split
    · rfl
    · rename_i hlength
      have hmessage : (header register ++ List.replicate buffer.length 0).length
          = headerLength + buffer.length := by simp
      have := link.length_exchange controller (hmessage ▸ Nat.not_lt.mp hlength)
      split
      · rename_i heq
        rw [heq] at this
        simp only [List.length_drop]
        rw [this, hmessage, Nat.add_sub_cancel_left]
      · rfl
      · rfl

end FourWireLink

end SensorLink

/-
The bus that a board happens to have.

A sensor is wired to a two-wire or to a four-wire bus, never to both; which one
is known only when the board is set up.

* `Binding` — the one bus that was supplied;
* `Binding.select` — takes the supplied bus, if there is exactly one;
* `Binding.registerBus` — the bound bus as a register bus, its errors tagged.
-/
import SensorLink.Register.Bus
import SensorLink.Wire.Setup

namespace SensorLink

/-- Either of two buses. -/
inductive Binding (α β : Type) where
  | twoWire (bus : α)
  | fourWire (bus : β)

/-- An error of either of two buses. -/
inductive BindingError (ε δ : Type) where
  | twoWire (source : ε)
  | fourWire (source : δ)
  deriving DecidableEq, Repr

/-- The error in words, given words for the errors of either bus. -/
def BindingError.text {ε δ : Type} (twoWireText : ε → String) (fourWireText : δ → String) :
    BindingError ε δ → String
  | twoWire source => s!"I2c({twoWireText source})"
  | fourWire source => s!"Spi({fourWireText source})"

namespace Binding

variable {α β ε δ : Type}

/-- Binds the bus that is present. -/
def select : Option α → Option β → Except SetupError (Binding α β)
  | some bus, none => .ok (twoWire bus)
  | none, some bus => .ok (fourWire bus)
  | none, none => .error .noBus
  | some _, some _ => .error .bothBuses

/-- Whether the bound bus is the two-wire one. -/
def isTwoWire : Binding α β → Bool
  | twoWire _ => true
  | fourWire _ => false

/-- The bound bus; everything about it is that of the bus itself. -/
def registerBus (twoWireBus : RegisterBus α ε) (fourWireBus : RegisterBus β δ) :
    RegisterBus (Binding α β) (BindingError ε δ) where
  chunkSize
    | twoWire bus => twoWireBus.chunkSize bus
    | fourWire bus => fourWireBus.chunkSize bus
  addressLimit
    | twoWire bus => twoWireBus.addressLimit bus
    | fourWire bus => fourWireBus.addressLimit bus
  readChunk register buffer
    | twoWire bus => ((twoWireBus.readChunk register buffer bus).mapError .twoWire).mapWorld
        fun (buffer, bus) => (buffer, twoWire bus)
    | fourWire bus => ((fourWireBus.readChunk register buffer bus).mapError .fourWire).mapWorld
        fun (buffer, bus) => (buffer, fourWire bus)
  writeChunk register data
    | twoWire bus => ((twoWireBus.writeChunk register data bus).mapError .twoWire).mapWorld twoWire
    | fourWire bus =>
      ((fourWireBus.writeChunk register data bus).mapError .fourWire).mapWorld fourWire
  length_readChunk register buffer binding := by
    cases binding with
    | twoWire bus => exact twoWireBus.length_readChunk ..
    | fourWire bus => exact fourWireBus.length_readChunk ..

end Binding

end SensorLink

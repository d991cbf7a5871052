/-
Why a sensor cannot be set up as asked.
-/
namespace SensorLink

/-- A fault in the wiring or the settings of a sensor. -/
inductive SetupError where
  /-- No bus was supplied. -/
  | noBus
  /-- Both a two-wire and a four-wire bus were supplied. -/
  | bothBuses
  /-- The four-wire word is not one byte long. -/
  | wordSize (bits : UInt8)
  /-- The four-wire clock stands still. -/
  | zeroSpeed
  deriving DecidableEq, Repr

/-- The fault in words. -/
def SetupError.message : SetupError → String
  | noBus => "no transport bound"
  | bothBuses => "I2C and SPI transports are mutually exclusive"
  | wordSize bits => s!"unsupported SPI word size: {bits.toNat} bits"
  | zeroSpeed => "SPI clock speed is zero"

end SensorLink

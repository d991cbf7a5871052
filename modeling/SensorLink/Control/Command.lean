/-
The numbers of the control commands.

A command number packs the direction of the argument, its size, a kind and an
index into thirty-two bits.  The fields are not masked: the upper two bits of a
sixteen-bit size overlap the direction.

* `commandNumber` — the packing;
* `Command` — the commands, `Command.number` — their numbers;
* `Command.ofNumber` — the command with a number;
* `ofNumber_number`, `ofNumber_eq_ok_iff` — every command is found by its number and by no
  other;
* `ofNumber_eq_error` — any other number is handed back.
-/
namespace SensorLink

/-- Packs the fields of a command number. -/
def commandNumber (direction : UInt32) (kind index : UInt8) (size : UInt16) : UInt32 :=
  (direction <<< 30) ||| (size.toUInt32 <<< 16) ||| (kind.toUInt32 <<< 8) ||| index.toUInt32

/-- The kind that all commands of a sensor share: the letter `a`. -/
def commandKind : UInt8 := 0x61

/-- The argument of the command is neither read nor written. -/
def argumentUnused : UInt32 := 0

/-- The command both reads its argument and writes through it. -/
def argumentExchanged : UInt32 := 3

/-- The commands of the control endpoint. -/
inductive Command where
  /-- Moves bytes between registers and caller memory. -/
  | transfer
  /-- Waits until the sensor has data. -/
  | waitForInterrupt
  deriving DecidableEq, Repr

namespace Command

/-- The number of a command. -/
def number : Command → UInt32
  | transfer => commandNumber argumentExchanged commandKind 1 16
  | waitForInterrupt => commandNumber argumentUnused commandKind 2 0

/-- The command with a number.  A number that no command has is handed back. -/
def ofNumber (n : UInt32) : Except UInt32 Command :=
  if n = transfer.number then .ok transfer
  else if n = waitForInterrupt.number then .ok waitForInterrupt
  else .error n

/-- The command with a number, if there is one. -/
def ofNumber? (n : UInt32) : Option Command :=
  (ofNumber n).toOption

theorem ofNumber_number (command : Command) : ofNumber command.number = .ok command := by
  cases command <;> rfl

theorem ofNumber_eq_error {n : UInt32} (h : ∀ command : Command, n ≠ command.number) :
    ofNumber n = .error n := by
  rw [ofNumber, if_neg (h transfer), if_neg (h waitForInterrupt)]

theorem ofNumber_eq_ok_iff {n : UInt32} {command : Command} :
    ofNumber n = .ok command ↔ n = command.number := by
  constructor
  · intro h
    unfold ofNumber at h
    split at h
    · rename_i htransfer
      rw [← Except.ok.inj h, htransfer]
    · split at h
      · rename_i hwait
        rw [← Except.ok.inj h, hwait]
      · cases h
  · rintro rfl
    exact ofNumber_number command

end Command

end SensorLink

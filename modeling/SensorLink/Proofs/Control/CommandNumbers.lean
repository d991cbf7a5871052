/-
Which fields a command number keeps apart, and which numbers are commands.

The fields are put side by side without masks.  Of the direction only two bits have room, and
the two upper bits of a size fall on the same place: there, and only there, different fields
give one number.

* `sharedBits` — what is at the place where direction and size overlap;
* `toNat_commandNumber` — a number, field by field;
* `CommandFields` — the fields of a number, and how they are read back;
* `number_eq_iff` — the fields that give one number;
* `ofNumber_number`, `number_ofNumber` — reading back fields that have room, and packing what
  was read back;
* `ofNumber_transfer_iff`, `ofNumber_wait_iff` — the fields of the two commands;
* `packing_and_commands` — all of this, and that no other number is a command.
-/
import Mathlib.Algebra.Ring.Nat
import Mathlib.Data.Set.Function
import SensorLink.Control.Endpoint

namespace SensorLink

/-- The two upper bits of a number, which a direction and the upper end of a size share. -/
def sharedBits (direction : UInt32) (size : UInt16) : Nat :=
  direction.toNat % 4 ||| size.toNat / 2 ^ 14

/-- A number, field by field. -/
theorem toNat_commandNumber (direction : UInt32) (kind index : UInt8) (size : UInt16) :
    (commandNumber direction kind index size).toNat
      = 2 ^ 30 * sharedBits direction size
        + (2 ^ 16 * (size.toNat % 2 ^ 14) + (2 ^ 8 * kind.toNat + index.toNat)) := by
  have hkind := kind.toNat_lt
  have hindex := index.toNat_lt
  have hsize := size.toNat_lt
  have hdirection : (direction <<< 30).toNat = 2 ^ 30 * (direction.toNat % 4) := by
    rw [UInt32.toNat_shiftLeft, Nat.shiftLeft_eq]
    show direction.toNat * 2 ^ 30 % 2 ^ 32 = _
    omega
  have hsizes : (size.toUInt32 <<< 16).toNat
      = 2 ^ 30 * (size.toNat / 2 ^ 14) + 2 ^ 16 * (size.toNat % 2 ^ 14) := by
    rw [UInt32.toNat_shiftLeft, Nat.shiftLeft_eq, UInt16.toNat_toUInt32]
    show size.toNat * 2 ^ 16 % 2 ^ 32 = _
    omega
  have hkinds : (kind.toUInt32 <<< 8).toNat = 2 ^ 8 * kind.toNat := by
    rw [UInt32.toNat_shiftLeft, Nat.shiftLeft_eq, UInt8.toNat_toUInt32]
    show kind.toNat * 2 ^ 8 % 2 ^ 32 = _
    omega
  have hshared : 2 ^ 30 * (direction.toNat % 4) ||| 2 ^ 30 * (size.toNat / 2 ^ 14)
      = 2 ^ 30 * sharedBits direction size := by
    rw [sharedBits]
    simp only [Nat.mul_comm (2 ^ 30), ← Nat.shiftLeft_eq, Nat.shiftLeft_or_distrib]
  have hlow : 2 ^ 16 * (size.toNat % 2 ^ 14) < 2 ^ 30 := by omega
  have hpair : 2 ^ 8 * kind.toNat + index.toNat < 2 ^ 16 := by omega
  have hrest : 2 ^ 16 * (size.toNat % 2 ^ 14) + (2 ^ 8 * kind.toNat + index.toNat) < 2 ^ 30 := by
    omega
  -- The size is cut where it meets the direction; then each part lies below the next one.
  calc (commandNumber direction kind index size).toNat
      = 2 ^ 30 * (direction.toNat % 4)
          ||| (2 ^ 30 * (size.toNat / 2 ^ 14) + 2 ^ 16 * (size.toNat % 2 ^ 14))
          ||| 2 ^ 8 * kind.toNat ||| index.toNat := by
        rw [commandNumber, UInt32.toNat_or, UInt32.toNat_or, UInt32.toNat_or, hdirection, hsizes,
          hkinds, UInt8.toNat_toUInt32]
    _ = 2 ^ 30 * (direction.toNat % 4)
          ||| (2 ^ 30 * (size.toNat / 2 ^ 14) ||| 2 ^ 16 * (size.toNat % 2 ^ 14))
          ||| (2 ^ 8 * kind.toNat + index.toNat) := by
        rw [Nat.two_pow_add_eq_or_of_lt hlow, Nat.two_pow_add_eq_or_of_lt hindex, Nat.or_assoc]
    _ = 2 ^ 30 * sharedBits direction size
          ||| (2 ^ 16 * (size.toNat % 2 ^ 14) ||| (2 ^ 8 * kind.toNat + index.toNat)) := by
        rw [← Nat.or_assoc, hshared, Nat.or_assoc]
    _ = 2 ^ 30 * sharedBits direction size
          + (2 ^ 16 * (size.toNat % 2 ^ 14) + (2 ^ 8 * kind.toNat + index.toNat)) := by
        rw [← Nat.two_pow_add_eq_or_of_lt hpair, ← Nat.two_pow_add_eq_or_of_lt hrest]

/-- The fields of a command number. -/
@[ext]
structure CommandFields where
  direction : UInt32
  kind : UInt8
  index : UInt8
  size : UInt16

namespace CommandFields

/-- The number that packs the fields. -/
def number (fields : CommandFields) : UInt32 :=
  commandNumber fields.direction fields.kind fields.index fields.size

/-- The fields that are read back from a number. -/
def ofNumber (n : UInt32) : CommandFields where
  direction := n >>> 30
  kind := (n >>> 8).toUInt8
  index := n.toUInt8
  size := (n >>> 16).toUInt16 &&& 0x3FFF

/-- The shared bits of fields. -/
def shared (fields : CommandFields) : Nat :=
  sharedBits fields.direction fields.size

/-- No field needs more room than it has for itself. -/
structure Fits (fields : CommandFields) : Prop where
  direction_lt : fields.direction.toNat < 4
  size_lt : fields.size.toNat < 2 ^ 14

theorem Fits.shared_eq {fields : CommandFields} (h : fields.Fits) :
    fields.shared = fields.direction.toNat := by
  rw [shared, sharedBits, Nat.mod_eq_of_lt h.direction_lt, Nat.div_eq_of_lt h.size_lt,
    Nat.or_zero]

theorem toNat_number (fields : CommandFields) :
    fields.number.toNat = 2 ^ 30 * fields.shared
      + (2 ^ 16 * (fields.size.toNat % 2 ^ 14)
        + (2 ^ 8 * fields.kind.toNat + fields.index.toNat)) :=
  toNat_commandNumber ..

/-- Two packings give one number just if kind, index, the lower bits of the size and the shared
bits are the same. -/
theorem number_eq_iff (fields other : CommandFields) :
    fields.number = other.number ↔
      fields.kind = other.kind ∧ fields.index = other.index ∧
        fields.size.toNat % 2 ^ 14 = other.size.toNat % 2 ^ 14 ∧
        fields.shared = other.shared := by
  have hkind := fields.kind.toNat_lt
  have hindex := fields.index.toNat_lt
  have hkind' := other.kind.toNat_lt
  have hindex' := other.index.toNat_lt
  rw [← UInt32.toNat_inj, ← UInt8.toNat_inj, ← UInt8.toNat_inj, toNat_number, toNat_number]
  constructor
  · intro h
    omega
  · rintro ⟨hk, hi, hs, hd⟩
    rw [hk, hi, hs, hd]

/-! ### Reading back -/

section OfNumber

variable (n : UInt32)

theorem toNat_direction_ofNumber : (ofNumber n).direction.toNat = n.toNat / 2 ^ 30 := by
  rw [ofNumber, UInt32.toNat_shiftRight, Nat.shiftRight_eq_div_pow]
  rfl

theorem toNat_kind_ofNumber : (ofNumber n).kind.toNat = n.toNat / 2 ^ 8 % 2 ^ 8 := by
  rw [ofNumber, UInt32.toNat_toUInt8, UInt32.toNat_shiftRight, Nat.shiftRight_eq_div_pow]
  rfl

theorem toNat_index_ofNumber : (ofNumber n).index.toNat = n.toNat % 2 ^ 8 :=
  UInt32.toNat_toUInt8 n

theorem toNat_size_ofNumber : (ofNumber n).size.toNat = n.toNat / 2 ^ 16 % 2 ^ 14 := by
  rw [ofNumber, UInt16.toNat_and, UInt32.toNat_toUInt16, UInt32.toNat_shiftRight,
    Nat.shiftRight_eq_div_pow]
  show n.toNat / 2 ^ 16 % 2 ^ 16 &&& 2 ^ 14 - 1 = _
  rw [Nat.and_two_pow_sub_one_eq_mod]
  omega

theorem fits_ofNumber : (ofNumber n).Fits where
  direction_lt := by
    have hn := n.toNat_lt
    rw [toNat_direction_ofNumber]
    omega
  size_lt := by
    rw [toNat_size_ofNumber]
    omega

/-- What was read back from a number gives the number again. -/
theorem number_ofNumber : (ofNumber n).number = n := by
  refine UInt32.toNat_inj.mp ?_
  rw [toNat_number, (fits_ofNumber n).shared_eq, toNat_direction_ofNumber, toNat_kind_ofNumber,
    toNat_index_ofNumber, toNat_size_ofNumber]
  omega

end OfNumber

/-- Fields that have room are read back as they were. -/
theorem Fits.ofNumber_number {fields : CommandFields} (h : fields.Fits) :
    ofNumber fields.number = fields := by
  have hnumber := fields.toNat_number
  have hkind := fields.kind.toNat_lt
  have hindex := fields.index.toNat_lt
  have hdirection := h.direction_lt
  have hsize := h.size_lt
  rw [h.shared_eq] at hnumber
  refine CommandFields.ext ?_ ?_ ?_ ?_
  · refine UInt32.toNat_inj.mp ?_
    rw [toNat_direction_ofNumber]
    omega
  · refine UInt8.toNat_inj.mp ?_
    rw [toNat_kind_ofNumber]
    omega
  · refine UInt8.toNat_inj.mp ?_
    rw [toNat_index_ofNumber]
    omega
  · refine UInt16.toNat_inj.mp ?_
    rw [toNat_size_ofNumber]
    omega

/-! ### Commands -/

/-- The fields of a transfer. -/
structure AreTransfer (fields : CommandFields) : Prop where
  kind : fields.kind = 0x61
  index : fields.index = 1
  size : fields.size.toNat % 2 ^ 14 = 16
  shared : fields.shared = 3

/-- The fields of a wait. -/
structure AreWait (fields : CommandFields) : Prop where
  kind : fields.kind = 0x61
  index : fields.index = 2
  size : fields.size = 0
  direction : fields.direction.toNat % 4 = 0

theorem ofNumber_transfer_iff (fields : CommandFields) :
    Command.ofNumber fields.number = .ok .transfer ↔ fields.AreTransfer := by
  have hiff := fields.number_eq_iff ⟨argumentExchanged, commandKind, 1, 16⟩
  rw [Command.ofNumber_eq_ok_iff]
  constructor
  · intro h
    obtain ⟨hkind, hindex, hsize, hshared⟩ := hiff.mp h
    exact ⟨hkind, hindex, hsize, hshared⟩
  · rintro ⟨hkind, hindex, hsize, hshared⟩
    exact hiff.mpr ⟨hkind, hindex, hsize, hshared⟩

theorem ofNumber_wait_iff (fields : CommandFields) :
    Command.ofNumber fields.number = .ok .waitForInterrupt ↔ fields.AreWait := by
  have hiff := fields.number_eq_iff ⟨argumentUnused, commandKind, 2, 0⟩
  -- No shared bit is set just if neither the direction nor the size has one.
  have hshared : fields.shared = 0 ↔
      fields.direction.toNat % 4 = 0 ∧ fields.size.toNat / 2 ^ 14 = 0 :=
    Nat.or_eq_zero_iff
  rw [Command.ofNumber_eq_ok_iff]
  constructor
  · intro h
    obtain ⟨hkind, hindex, hlow, hzero⟩ := hiff.mp h
    obtain ⟨hdirection, hhigh⟩ := hshared.mp hzero
    refine ⟨hkind, hindex, ?_, hdirection⟩
    refine UInt16.toNat_inj.mp ?_
    have hlow : fields.size.toNat % 2 ^ 14 = 0 := hlow
    show fields.size.toNat = 0
    omega
  · rintro ⟨hkind, hindex, hsize, hdirection⟩
    refine hiff.mpr ⟨hkind, hindex, ?_, ?_⟩
    · rw [hsize]
    · refine hshared.mpr ⟨hdirection, ?_⟩
      rw [hsize]
      rfl

theorem ofNumber_eq_error {fields : CommandFields} (htransfer : ¬fields.AreTransfer)
    (hwait : ¬fields.AreWait) : Command.ofNumber fields.number = .error fields.number := by
  refine Command.ofNumber_eq_error fun command hnumber => ?_
  have hcommand := Command.ofNumber_eq_ok_iff.mpr hnumber
  cases command with
  | transfer => exact htransfer (fields.ofNumber_transfer_iff.mp hcommand)
  | waitForInterrupt => exact hwait (fields.ofNumber_wait_iff.mp hcommand)

/-- Every number packs fields that have room, and these can be read back; fields that do not
have room give the number of others just if they differ in nothing but how the shared bits
come about.  A number is a command by its fields, and every other number is refused with the
number itself as the cause, and nothing else happens. -/
theorem packing_and_commands :
    (∀ fields other : CommandFields, fields.number = other.number ↔
        fields.kind = other.kind ∧ fields.index = other.index ∧
          fields.size.toNat % 2 ^ 14 = other.size.toNat % 2 ^ 14 ∧
          fields.shared = other.shared) ∧
      Set.InjOn number {fields | fields.Fits} ∧
      (∀ fields : CommandFields, fields.Fits → ofNumber fields.number = fields) ∧
      (∀ n, (ofNumber n).Fits ∧ (ofNumber n).number = n) ∧
      (∀ fields : CommandFields,
        (Command.ofNumber fields.number = .ok .transfer ↔ fields.AreTransfer) ∧
          (Command.ofNumber fields.number = .ok .waitForInterrupt ↔ fields.AreWait)) ∧
      ∀ fields : CommandFields, ¬fields.AreTransfer → ¬fields.AreWait →
        Command.ofNumber fields.number = .error fields.number ∧
          ∀ {ω ε ι ρ : Type} (bridge : Bridge ι ρ) (bus : RegisterBus ω ε)
            (boundary : Boundary ω) (argument : UInt64) (waiter : ι) (cancelled : Bool)
            (endpoint : Endpoint ρ) (w : ω),
            Endpoint.dispatch bridge bus boundary fields.number argument waiter cancelled endpoint w
              = ⟨.error (.unknownCommand fields.number), (endpoint, w)⟩ := by
  refine ⟨number_eq_iff, ?_, fun _ h => h.ofNumber_number, ?_, ?_, ?_⟩
  · intro fields hfits other hfits' hnumber
    rw [← hfits.ofNumber_number, ← hfits'.ofNumber_number, hnumber]
  · intro n
    exact ⟨fits_ofNumber n, number_ofNumber n⟩
  · intro fields
    exact ⟨fields.ofNumber_transfer_iff, fields.ofNumber_wait_iff⟩
  · intro fields htransfer hwait
    have hrefused := ofNumber_eq_error htransfer hwait
    refine ⟨hrefused, ?_⟩
    intro ω ε ι ρ bridge bus boundary argument waiter cancelled endpoint w
    rw [Endpoint.dispatch, hrefused]

/-- A size whose upper bits are set stands in for the direction. -/
example : Command.ofNumber (commandNumber 0 0x61 1 0xC010) = .ok .transfer := by rfl

end CommandFields

end SensorLink

/-
Scheduled faults.

A bench lets single bus calls fail.  The calls of a bus are counted from zero,
and a schedule says which of them fail, how, and what they leave in the buffer
they were to fill.

* `Fault`, `Schedule` — a fault and the schedule of a bus;
* `Schedule.next` — counts a call and gives its fault;
* `Faulty` — anything behind a schedule; `Faulty.twoWire`, `Faulty.fourWire` —
  controllers behind a schedule.  A call that fails never reaches them.
-/
import SensorLink.Wire.FourWire
import SensorLink.Wire.TwoWire

namespace SensorLink.Bench

/-- A bus call that fails. -/
structure Fault (ε : Type) where
  /-- The number of the call. -/
  index : Nat
  cause : ε
  /-- How many bytes of the buffer are spoilt before the call fails. -/
  spoilt : Nat
  deriving DecidableEq, Repr

/-- The calls made so far, and the faults that are planned, latest plan first. -/
structure Schedule (ε : Type) where
  calls : Nat
  faults : List (Fault ε)

namespace Schedule

variable {ε : Type}

/-- The schedule of a bus that has not been called; of two faults of the same
call the later one counts. -/
def ofList (faults : List (Fault ε)) : Schedule ε :=
  ⟨0, faults.reverse⟩

/-- Plans a fault whose number is counted from the next call on. -/
def plan (fault : Fault ε) (schedule : Schedule ε) : Schedule ε :=
  { schedule with
    faults := { fault with index := schedule.calls + fault.index } :: schedule.faults }

/-- Counts a call, and gives its fault if one is planned. -/
def next (schedule : Schedule ε) : Option (Fault ε) × Schedule ε :=
  (schedule.faults.find? (·.index = schedule.calls),
    { schedule with calls := schedule.calls + 1 })

end Schedule

/-- The bytes that a failing call leaves in a spoilt buffer. -/
def spoil (count : Nat) (buffer : Bytes) : Bytes :=
  List.replicate (min count buffer.length) 0xEE ++ buffer.drop count

@[simp] theorem length_spoil (count : Nat) (buffer : Bytes) :
    (spoil count buffer).length = buffer.length := by
  simp only [spoil, List.length_append, List.length_replicate, List.length_drop]
  omega

/-- A bus behind a schedule of faults. -/
structure Faulty (σ ε : Type) where
  schedule : Schedule ε
  inner : σ

namespace Faulty

variable {σ ε : Type}

/-- Makes a call unless it is planned to fail. -/
def send (call : σ → Run σ ε Unit) : Faulty σ ε → Run (Faulty σ ε) ε Unit
  | ⟨schedule, inner⟩ =>
    match schedule.next with
    | (some fault, schedule) => ⟨.error fault.cause, ⟨schedule, inner⟩⟩
    | (none, schedule) => (call inner).mapWorld fun inner => ⟨schedule, inner⟩

/-- Makes a call that fills a buffer unless it is planned to fail; then `spoiled`
says what becomes of the buffer. -/
def fill (spoiled : Nat → Bytes → Bytes) (buffer : Bytes) (call : σ → Run (Bytes × σ) ε Unit) :
    Faulty σ ε → Run (Bytes × Faulty σ ε) ε Unit
  | ⟨schedule, inner⟩ =>
    match schedule.next with
    | (some fault, schedule) =>
      ⟨.error fault.cause, (spoiled fault.spoilt buffer, ⟨schedule, inner⟩)⟩
    | (none, schedule) =>
      (call inner).mapWorld fun (buffer, inner) => (buffer, ⟨schedule, inner⟩)

theorem length_fill {spoiled : Nat → Bytes → Bytes} {buffer : Bytes}
    {call : σ → Run (Bytes × σ) ε Unit}
    (hspoiled : ∀ count, (spoiled count buffer).length = buffer.length)
    (hcall : ∀ s, (call s).world.1.length = buffer.length) (faulty : Faulty σ ε) :
    (fill spoiled buffer call faulty).world.1.length = buffer.length := by
  obtain ⟨schedule, inner⟩ := faulty
  simp only [fill]
  split
  · exact hspoiled _
  · exact hcall _

/-- A two-wire controller behind a schedule of faults. -/
def twoWire (controller : TwoWireBus σ ε) : TwoWireBus (Faulty σ ε) ε where
  write address message := send (controller.write address message)
  read address buffer := fill spoil buffer (controller.read address buffer)
  writeRead address message buffer :=
    fill spoil buffer (controller.writeRead address message buffer)
  length_read _ buffer := length_fill (length_spoil · buffer) (controller.length_read _ _)
  length_writeRead _ _ buffer :=
    length_fill (length_spoil · buffer) (controller.length_writeRead _ _ _)

/-- What a failing exchange leaves behind: the header is never spoilt. -/
def spoilData (count : Nat) (buffer : Bytes) : Bytes :=
  buffer.take headerLength ++ spoil count (buffer.drop headerLength)

@[simp] theorem length_spoilData (count : Nat) (buffer : Bytes) :
    (spoilData count buffer).length = buffer.length := by
  simp only [spoilData, List.length_append, List.length_take, length_spoil, List.length_drop]
  omega

/-- A four-wire controller behind a schedule of faults. -/
def fourWire (controller : FourWireBus σ ε) : FourWireBus (Faulty σ ε) ε where
  exchange buffer := fill spoilData buffer (controller.exchange buffer)
  length_exchange buffer :=
    length_fill (length_spoilData · buffer) (controller.length_exchange _)

end Faulty

end SensorLink.Bench

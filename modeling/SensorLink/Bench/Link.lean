/-
Links to simulated sensors.

* `Link` — a link to a sensor on a two-wire or a four-wire bus, either of them
  behind a schedule of faults;
* `Link.registerBus` — the link, through its binding, as a register bus;
* `WireEntry` — a recorded transaction on the wires;
* `LinkPlan` — what a link is built from.
-/
import SensorLink.Bench.FourWireTarget
import SensorLink.Bench.Fault
import SensorLink.Bench.TwoWireTarget
import SensorLink.Wire.Binding

namespace SensorLink.Bench

/-- A link to a simulated sensor on a two-wire bus. -/
abbrev TwoWireRig := TwoWireLink (Faulty TwoWireTarget TwoWireError)

/-- A link to a simulated sensor on a four-wire bus. -/
abbrev FourWireRig := FourWireLink (Faulty FourWireTarget FourWireError)

/-- A link to a simulated sensor. -/
abbrev Link := Binding TwoWireRig FourWireRig

/-- The two-wire link as a register bus. -/
def TwoWireRig.registerBus : RegisterBus TwoWireRig TwoWireError :=
  TwoWireLink.registerBus (Faulty.twoWire TwoWireTarget.controller)

/-- The four-wire link as a register bus. -/
def FourWireRig.registerBus : RegisterBus FourWireRig FourWireError :=
  FourWireLink.registerBus (Faulty.fourWire FourWireTarget.controller)

/-- An error on the wires of a link. -/
abbrev LinkError := BindingError TwoWireError FourWireError

/-- The error in words, the kind of wires first. -/
def LinkError.text : LinkError → String :=
  BindingError.text TwoWireError.text FourWireError.text

/-- Either link, through its binding, as a register bus. -/
def Link.registerBus : RegisterBus Link LinkError :=
  Binding.registerBus TwoWireRig.registerBus FourWireRig.registerBus

/-- A recorded transaction of a link. -/
inductive WireEntry where
  | message (message : TwoWireMessage)
  | exchange (sent : Bytes)
  deriving DecidableEq, Repr

/-- How a sensor is reached over a link. -/
abbrev LinkSettings := Binding TwoWireSettings FourWireSettings

namespace Link

/-- The number of transactions so far, those that failed included. -/
def calls : Link → Nat
  | .twoWire link => link.bus.schedule.calls
  | .fourWire link => link.bus.schedule.calls

/-- The number of transactions that reached the sensor and were recorded. -/
def logSize : Link → Nat
  | .twoWire link => link.bus.inner.log.size
  | .fourWire link => link.bus.inner.log.size

/-- The recorded transactions from number `start` on. -/
def logFrom (start : Nat) : Link → List WireEntry
  | .twoWire link => (link.bus.inner.log.toList.drop start).map .message
  | .fourWire link => (link.bus.inner.log.toList.drop start).map .exchange

/-- The registers of the sensor. -/
def registers : Link → RegisterFile
  | .twoWire link => link.bus.inner.registers
  | .fourWire link => link.bus.inner.registers

/-- Overwrites registers of the sensor behind the back of the bus. -/
def load (register : UInt16) (data : Bytes) : Link → Link
  | .twoWire ⟨settings, staging, ⟨schedule, ⟨registers, pointer, attempts, failAfter, log⟩⟩⟩ =>
    .twoWire ⟨settings, staging,
      ⟨schedule, ⟨registers.write register data, pointer, attempts, failAfter, log⟩⟩⟩
  | .fourWire ⟨settings, buffer, ⟨schedule, ⟨registers, failAfter, log⟩⟩⟩ =>
    .fourWire ⟨settings, buffer, ⟨schedule, ⟨registers.write register data, failAfter, log⟩⟩⟩

/-- Plans a fault, counted from the next transaction on, if its cause is an error
of the bus. -/
def plan (index spoilt : Nat) : LinkError → Link → Option Link
  | .twoWire cause, .twoWire ⟨settings, staging, ⟨schedule, inner⟩⟩ =>
    some (.twoWire ⟨settings, staging, ⟨schedule.plan ⟨index, cause, spoilt⟩, inner⟩⟩)
  | .fourWire cause, .fourWire ⟨settings, buffer, ⟨schedule, inner⟩⟩ =>
    some (.fourWire ⟨settings, buffer, ⟨schedule.plan ⟨index, cause, spoilt⟩, inner⟩⟩)
  | _, _ => none

/-- Lets the sensor fail after `count` transactions, counted from its very first
one. -/
def failAfter (count : Nat) : Link → Link
  | .twoWire ⟨settings, staging, ⟨schedule, inner⟩⟩ =>
    .twoWire ⟨settings, staging, ⟨schedule, { inner with failAfter := some count }⟩⟩
  | .fourWire ⟨settings, buffer, ⟨schedule, inner⟩⟩ =>
    .fourWire ⟨settings, buffer, ⟨schedule, { inner with failAfter := some count }⟩⟩

/-- How the sensor is reached. -/
def settings : Link → LinkSettings
  | .twoWire link => .twoWire link.settings
  | .fourWire link => .fourWire link.settings

/-- Takes a link apart and binds its bus again with other settings, if they are
settings for that kind of bus. -/
def rebind : LinkSettings → Link → Except SetupError Link
  | .twoWire settings, .twoWire link => .ok (.twoWire (.bind settings link.bus))
  | .fourWire settings, .fourWire link =>
    (FourWireLink.bind settings link.bus).map Binding.fourWire
  | _, link => .ok link

end Link

/-- What a link to a simulated sensor is built from. -/
structure LinkPlan (S ε : Type) where
  settings : S
  registers : RegisterFile
  failAfter : Option Nat
  faults : List (Fault ε)

/-- Builds a two-wire link. -/
def LinkPlan.twoWire (plan : LinkPlan TwoWireSettings TwoWireError) : TwoWireRig :=
  .bind plan.settings
    { schedule := .ofList plan.faults
      inner := { registers := plan.registers, failAfter := plan.failAfter } }

/-- Builds a four-wire link, if its settings are valid. -/
def LinkPlan.fourWire (plan : LinkPlan FourWireSettings FourWireError) :
    Except SetupError FourWireRig :=
  FourWireLink.bind plan.settings
    { schedule := .ofList plan.faults
      inner := { registers := plan.registers, failAfter := plan.failAfter } }

end SensorLink.Bench

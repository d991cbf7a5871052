/-
The buses a bench can put a sensor on.

* `Bus` — a recorder, a link used directly or through its binding, or a scripted
  bus;
* `Cause` — an error of any of them, `Cause.text` — in words;
* `Bus.registerBus` — all of them as one register bus;
* `BusPlan`, `BusPlan.build` — what a bus is built from.
-/
import SensorLink.Bench.Link
import SensorLink.Bench.Recorder
import SensorLink.Bench.ScriptedBus

namespace SensorLink.Bench

/-- An error of a bus on the bench. -/
inductive Cause where
  | recorder
  | twoWire (source : TwoWireError)
  | fourWire (source : FourWireError)
  | bound (source : LinkError)
  | scripted (words : String)
  deriving DecidableEq, Repr

/-- The error in words. -/
def Cause.text : Cause → String
  | recorder => "()"
  | twoWire source => source.text
  | fourWire source => source.text
  | bound source => LinkError.text source
  | scripted words => words

/-- The error on the wires of a link that a cause names, whether it comes through
the binding or not. -/
def Cause.onWires? : Cause → Option LinkError
  | twoWire source => some (.twoWire source)
  | fourWire source => some (.fourWire source)
  | bound source => some source
  | recorder => none
  | scripted _ => none

/-- An entry in the record of a bus. -/
inductive LogEntry where
  | chunk (call : ChunkCall)
  | wire (entry : WireEntry)
  | scripted (call : ScriptedCall)
  deriving DecidableEq, Repr

/-- A bus on the bench. -/
inductive Bus where
  | recorder (bus : Recorder)
  /-- A link without its binding: errors are those of the wires. -/
  | wired (link : Link)
  /-- A link through its binding: errors tell the wires. -/
  | bound (link : Link)
  | scripted (bus : ScriptedBus)

namespace Bus

/-- Any bus on the bench as a register bus. -/
def registerBus : RegisterBus Bus Cause where
  chunkSize
    | recorder bus => Recorder.registerBus.chunkSize bus
    | wired (.twoWire link) => TwoWireRig.registerBus.chunkSize link
    | wired (.fourWire link) => FourWireRig.registerBus.chunkSize link
    | bound link => Link.registerBus.chunkSize link
    | scripted bus => ScriptedBus.registerBus.chunkSize bus
  addressLimit
    | recorder bus => Recorder.registerBus.addressLimit bus
    | wired (.twoWire link) => TwoWireRig.registerBus.addressLimit link
    | wired (.fourWire link) => FourWireRig.registerBus.addressLimit link
    | bound link => Link.registerBus.addressLimit link
    | scripted bus => ScriptedBus.registerBus.addressLimit bus
  readChunk register buffer
    | recorder bus => ((Recorder.registerBus.readChunk register buffer bus).mapError
        fun _ => .recorder).mapWorld fun (buffer, bus) => (buffer, recorder bus)
    | wired (.twoWire link) => ((TwoWireRig.registerBus.readChunk register buffer link).mapError
        .twoWire).mapWorld fun (buffer, link) => (buffer, wired (.twoWire link))
    | wired (.fourWire link) => ((FourWireRig.registerBus.readChunk register buffer link).mapError
        .fourWire).mapWorld fun (buffer, link) => (buffer, wired (.fourWire link))
    | bound link => ((Link.registerBus.readChunk register buffer link).mapError
        .bound).mapWorld fun (buffer, link) => (buffer, bound link)
    | scripted bus => ((ScriptedBus.registerBus.readChunk register buffer bus).mapError
        .scripted).mapWorld fun (buffer, bus) => (buffer, scripted bus)
  writeChunk register data
    | recorder bus => ((Recorder.registerBus.writeChunk register data bus).mapError
        fun _ => .recorder).mapWorld recorder
    | wired (.twoWire link) => ((TwoWireRig.registerBus.writeChunk register data link).mapError
        .twoWire).mapWorld fun link => wired (.twoWire link)
    | wired (.fourWire link) => ((FourWireRig.registerBus.writeChunk register data link).mapError
        .fourWire).mapWorld fun link => wired (.fourWire link)
    | bound link => ((Link.registerBus.writeChunk register data link).mapError
        .bound).mapWorld bound
    | scripted bus => ((ScriptedBus.registerBus.writeChunk register data bus).mapError
        .scripted).mapWorld scripted
  length_readChunk _ _
    | recorder _ => Recorder.registerBus.length_readChunk ..
    | wired (.twoWire _) => TwoWireRig.registerBus.length_readChunk ..
    | wired (.fourWire _) => FourWireRig.registerBus.length_readChunk ..
    | bound _ => Link.registerBus.length_readChunk ..
    | scripted _ => ScriptedBus.registerBus.length_readChunk ..

/-- The link to the sensor, if the bus has one. -/
def link? : Bus → Option Link
  | recorder _ => none
  | wired link => some link
  | bound link => some link
  | scripted _ => none

/-- The number of bus calls so far, those that failed included. -/
def calls : Bus → Nat
  | recorder bus => bus.log.size
  | wired link => link.calls
  | bound link => link.calls
  | scripted bus => bus.schedule.calls

/-- The number of entries in the record of the bus. -/
def logSize : Bus → Nat
  | recorder bus => bus.log.size
  | wired link => link.logSize
  | bound link => link.logSize
  | scripted bus => bus.log.size

/-- The entries of the record from number `start` on. -/
def logFrom (start : Nat) : Bus → List LogEntry
  | recorder bus => (bus.log.toList.drop start).map .chunk
  | wired link => (link.logFrom start).map .wire
  | bound link => (link.logFrom start).map .wire
  | scripted bus => (bus.log.toList.drop start).map .scripted

/-- The registers behind the bus. -/
def registers : Bus → RegisterFile
  | recorder bus => bus.registers
  | wired link => link.registers
  | bound link => link.registers
  | scripted bus => bus.registers

/-- Overwrites registers behind the back of the bus. -/
def load (register : UInt16) (data : Bytes) : Bus → Bus
  | recorder ⟨limit, registers, failOn, log⟩ =>
    recorder ⟨limit, registers.write register data, failOn, log⟩
  | wired link => wired (link.load register data)
  | bound link => bound (link.load register data)
  | scripted ⟨chunkSize, addressLimit, registers, schedule, log⟩ =>
    scripted ⟨chunkSize, addressLimit, registers.write register data, schedule, log⟩

/-- Plans a fault, counted from the next call on, if its cause is an error of
the bus.  A recorder keeps no more than one planned fault. -/
def plan (index spoilt : Nat) (cause : Cause) : Bus → Option Bus
  | recorder bus => some (recorder { bus with failOn := some (bus.log.size + index) })
  | wired link => cause.onWires?.bind fun e => (link.plan index spoilt e).map wired
  | bound link => cause.onWires?.bind fun e => (link.plan index spoilt e).map bound
  | scripted bus =>
    match cause with
    | .scripted words =>
      some (scripted { bus with schedule := bus.schedule.plan ⟨index, words, spoilt⟩ })
    | _ => none

/-- Lets a simulated sensor fail after `count` transactions. -/
def failAfter (count : Nat) : Bus → Option Bus
  | recorder _ => none
  | wired link => some (wired (link.failAfter count))
  | bound link => some (bound (link.failAfter count))
  | scripted _ => none

/-- Binds a link again with other settings.  Only a link without its binding is
taken apart; every other bus stays as it is. -/
def rebind (settings : LinkSettings) : Bus → Except SetupError Bus
  | wired link => (link.rebind settings).map wired
  | other => .ok other

end Bus

/-- What a bus on the bench is built from. -/
inductive BusPlan where
  | recorder (limit : Nat) (registers : RegisterFile) (failOn : Option Nat)
  | twoWire (plan : LinkPlan TwoWireSettings TwoWireError)
  | fourWire (plan : LinkPlan FourWireSettings FourWireError)
  | select (twoWire : Option (LinkPlan TwoWireSettings TwoWireError))
      (fourWire : Option (LinkPlan FourWireSettings FourWireError))
  | scripted (chunkSize addressLimit : Nat) (registers : RegisterFile)
      (faults : List (Fault String))

/-- Builds a bus.  Of a selection, all links are built before one is bound. -/
def BusPlan.build : BusPlan → Except SetupError Bus
  | .recorder limit registers failOn => .ok (.recorder { limit, registers, failOn })
  | .twoWire plan => .ok (.wired (.twoWire plan.twoWire))
  | .fourWire plan => plan.fourWire.map fun link => .wired (.fourWire link)
  | .select first none => (Binding.select (first.map LinkPlan.twoWire) none).map .bound
  | .select first (some second) =>
    match second.fourWire with
    | .error e => .error e
    | .ok link => (Binding.select (first.map LinkPlan.twoWire) (some link)).map .bound
  | .scripted chunkSize addressLimit registers faults =>
    .ok (.scripted { chunkSize, addressLimit, registers, schedule := .ofList faults })

end SensorLink.Bench

/-
A sensor on the bench and everything that can be asked of it.

* `Station` — a sensor that is set up: a bus, an endpoint and a number;
* `Action` — what can be asked for;
* `Reply` — what comes back;
* `Station.act` — carries out an action.
-/
import SensorLink.Bench.Bus
import SensorLink.Bench.CallerStore
import SensorLink.Control.Endpoint
import SensorLink.Sensor

namespace SensorLink.Bench

/-- A sensor that is set up. -/
structure Station where
  bus : Bus
  endpoint : Endpoint (Readiness Unit)
  number : Option UInt8

/-- What is asked of a sensor. -/
inductive Action where
  | call (call : SensorCall)
  | readChunk (register : UInt16) (buffer : Bytes)
  | writeChunk (register : UInt16) (data : Bytes)
  | report
  | calls
  | peek (register : UInt16) (length : Nat)
  | load (register : UInt16) (data : Bytes)
  | fault (index : Nat) (cause : Cause) (spoilt : Nat)
  | failAfter (count : Nat)
  | notify
  | isReady
  | edges (count : Nat)
  | wait (cancelled : Bool)
  /-- Takes the sensor apart and sets it up again, with other link settings and
  another number if these are given. -/
  | reopen (settings : Option LinkSettings) (number : Option (Option UInt8))
  | dispatch (command : UInt32) (argument : UInt64) (cancelled : Bool)
  | transfer (address : UInt64)
  | execute (request : Request)
  | waitForInterrupt (cancelled : Bool)

/-- The properties of a sensor that is set up. -/
structure Report where
  chunkSize : Nat
  addressLimit : Nat
  name : String
  number : Option UInt8
  ready : Bool
  settings : Option LinkSettings
  /-- Whether the bound link is the two-wire one, for a link with a binding. -/
  isTwoWire : Option Bool

/-- What a step gives. -/
inductive Reply where
  | done
  | flag (value : Bool)
  | count (value : Nat)
  | bytes (value : Bytes)
  | call (result : Except (AccessError Cause) SensorValue) (buffer : Option Bytes)
  | chunk (result : Except Cause Unit) (buffer : Option Bytes)
  | command (result : Except (RequestError Cause) Completion)
  | waited (result : Waited)
  | edges (seen : Nat)
  | report (report : Report)
  | setup (error : SetupError)
  | closed
  | trap (cause : Trap)

/-- The reply for an ending, a trap being a reply of its own. -/
def Reply.ofOutcome {ε α : Type} (reply : Except ε α → Reply) : Outcome ε α → Reply
  | .ok a => reply (.ok a)
  | .error e => reply (.error e)
  | .trap t => .trap t

/-- The buffer that a call filled, for the one call that fills a buffer. -/
def filledBuffer (buffer : Bytes) : SensorCall → Option Bytes
  | .read .. => some buffer
  | .readByte _ => none
  | .writeByte .. => none
  | .write .. => none
  | .detect => none

namespace Station

/-- The properties of the sensor. -/
def report (station : Station) : Report where
  chunkSize := Bus.registerBus.chunkSize station.bus
  addressLimit := Bus.registerBus.addressLimit station.bus
  name := sensorName station.number
  number := station.number
  ready := Readiness.bridge.isReady station.endpoint.readiness
  settings := station.bus.link?.map Link.settings
  isTwoWire := match station.bus with
    | .bound link => some link.isTwoWire
    | .recorder _ => none
    | .wired _ => none
    | .scripted _ => none

/-- The world of an endpoint on the bench: its bus and caller memory. -/
abbrev World := Bus × CallerStore

/-- The bus in the world of an endpoint. -/
def worldBus : RegisterBus World Cause :=
  Bus.registerBus.beside CallerStore

/-- Caller memory in the world of an endpoint. -/
def worldBoundary : Boundary World :=
  CallerStore.boundary.after Bus

/-- Runs a transfer of the endpoint. -/
def runTransfer (run : Staging → World → Run (Staging × World) (RequestError Cause) Unit)
    (memory : CallerStore) : Station → Reply × Option Station × CallerStore
  | ⟨bus, ⟨staging, readiness⟩, number⟩ =>
    match run staging (bus, memory) with
    | ⟨outcome, (staging, (bus, memory))⟩ =>
      (.ofOutcome .command (outcome.map fun _ => .done),
        some ⟨bus, ⟨staging, readiness⟩, number⟩, memory)

/-- Carries out an action.  Gives the reply, the sensor unless it had to be
closed, and caller memory; or nothing if the bus has no such action, or the
registers to look at or to load pass the top of the register space. -/
def act (memory : CallerStore) : Station → Action → Option (Reply × Option Station × CallerStore)
  | ⟨bus, endpoint, number⟩, .call call =>
    match call.run Bus.registerBus bus with
    | ⟨outcome, (buffer, bus)⟩ =>
      some (.ofOutcome (.call · (filledBuffer buffer call)) outcome,
        some ⟨bus, endpoint, number⟩, memory)
  | ⟨bus, endpoint, number⟩, .readChunk register buffer =>
    match Bus.registerBus.readChunk register buffer bus with
    | ⟨outcome, (buffer, bus)⟩ =>
      some (.ofOutcome (.chunk · (some buffer)) outcome, some ⟨bus, endpoint, number⟩, memory)
  | ⟨bus, endpoint, number⟩, .writeChunk register data =>
    match Bus.registerBus.writeChunk register data bus with
    | ⟨outcome, bus⟩ =>
      some (.ofOutcome (.chunk · none) outcome, some ⟨bus, endpoint, number⟩, memory)
  | station, .report => some (.report station.report, some station, memory)
  | station, .calls => some (.count station.bus.calls, some station, memory)
  | station, .peek register length =>
    if register.toNat + length ≤ registerSpace then
      some (.bytes (station.bus.registers.read register length), some station, memory)
    else none
  | ⟨bus, endpoint, number⟩, .load register data =>
    if register.toNat + data.length ≤ registerSpace then
      some (.done, some ⟨bus.load register data, endpoint, number⟩, memory)
    else none
  | ⟨bus, endpoint, number⟩, .fault index cause spoilt =>
    (bus.plan index spoilt cause).map fun bus => (.done, some ⟨bus, endpoint, number⟩, memory)
  | ⟨bus, endpoint, number⟩, .failAfter count =>
    (bus.failAfter count).map fun bus => (.done, some ⟨bus, endpoint, number⟩, memory)
  | ⟨bus, ⟨staging, readiness⟩, number⟩, .notify =>
    some (.done, some ⟨bus, ⟨staging, (Readiness.bridge.notify readiness).2⟩, number⟩, memory)
  | station, .isReady =>
    some (.flag (Readiness.bridge.isReady station.endpoint.readiness), some station, memory)
  | ⟨bus, ⟨staging, readiness⟩, number⟩, .edges count =>
    match Readiness.bridge.notifyMany count readiness with
    | (_, readiness) =>
      some (.edges count, some ⟨bus, ⟨staging, readiness⟩, number⟩, memory)
  | ⟨bus, ⟨staging, readiness⟩, number⟩, .wait cancelled =>
    match Readiness.bridge.pollOr .gate () (readiness, cancelled) with
    | ⟨result, _, readiness, _⟩ =>
      some (.waited result, some ⟨bus, ⟨staging, readiness⟩, number⟩, memory)
  | ⟨bus, ⟨_, readiness⟩, number⟩, .reopen settings newNumber =>
    match settings.elim (.ok bus) (Bus.rebind · bus) with
    | .ok bus =>
      some (.done, some ⟨bus, ⟨Scratch.zero _, readiness⟩, newNumber.getD number⟩, memory)
    | .error e => some (.setup e, none, memory)
  | ⟨bus, endpoint, number⟩, .dispatch command argument cancelled =>
    match Endpoint.dispatch Readiness.bridge worldBus worldBoundary command argument () cancelled
        endpoint (bus, memory) with
    | ⟨outcome, (endpoint, (bus, memory))⟩ =>
      some (.ofOutcome .command outcome, some ⟨bus, endpoint, number⟩, memory)
  | station, .transfer address =>
    some (station.runTransfer (Endpoint.transfer worldBus worldBoundary address) memory)
  | station, .execute request =>
    some (station.runTransfer (Endpoint.execute worldBus worldBoundary request) memory)
  | ⟨bus, ⟨staging, readiness⟩, number⟩, .waitForInterrupt cancelled =>
    match Endpoint.waitForInterrupt Readiness.bridge () cancelled readiness with
    | ⟨outcome, readiness⟩ =>
      some (.ofOutcome .command outcome, some ⟨bus, ⟨staging, readiness⟩, number⟩, memory)

end Station

end SensorLink.Bench

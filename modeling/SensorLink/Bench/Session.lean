/-
Sessions: steps carried out on several sensors that share one caller memory.

Each sensor sits on a bus of its own, with its own data-ready flag and control
endpoint.  A sensor that could not be set up, or set up again, leaves an empty
slot behind.  A trap ends the session.

* `MemoryAction` — what can be done with caller memory directly;
* `Session` — all slots and the memory;
* `Session.run` — the replies to a list of steps, with the records of the calls
  on the bus and at the boundary during each of them.
-/
import SensorLink.Bench.Station

namespace SensorLink.Bench

/-- What is done with caller memory; offsets count from its first byte. -/
inductive MemoryAction where
  | load (offset : Nat) (data : Bytes)
  | putRequest (offset : Nat) (request : Request)
  | peek (offset length : Nat)
  | fault (kind : MemoryCallKind) (index : Nat)

/-- A step of a session. -/
inductive Step where
  | station (index : Nat) (action : Action)
  | memory (action : MemoryAction)

namespace CallerStore

/-- Overwrites caller memory behind the back of the boundary, if the range lies
in it. -/
def load (offset : Nat) (data : Bytes) : CallerStore → Option CallerStore
  | ⟨⟨base, bytes⟩, gullible, checkFault, copyInFault, copyOutFault, log⟩ =>
    if offset + data.length ≤ bytes.size then
      some ⟨⟨base, bytes.splice offset data⟩, gullible, checkFault, copyInFault, copyOutFault, log⟩
    else none

/-- Carries out an action on caller memory, unless it names bytes outside. -/
def act (memory : CallerStore) : MemoryAction → Option (Reply × CallerStore)
  | .load offset data => (memory.load offset data).map (.done, ·)
  | .putRequest offset request => (memory.load offset request.encode.toList).map (.done, ·)
  | .peek offset length =>
    if offset + length ≤ memory.window.bytes.size then
      some (.bytes (memory.window.bytes.slice offset length), memory)
    else none
  | .fault kind index => some (.done, memory.plan index kind)

end CallerStore

/-- The slots of a session, closed ones being empty, and the caller memory. -/
structure Session where
  slots : Array (Option Station)
  memory : CallerStore

/-- The reply to a step, with what was recorded on the way. -/
structure Answer where
  reply : Reply
  busLog : List LogEntry
  memoryLog : List MemoryCall

namespace Session

/-- Puts a sensor on a bus, with an endpoint of its own. -/
def openStation (plan : BusPlan) (number : Option UInt8) : Except SetupError Station :=
  plan.build.map fun bus => ⟨bus, ⟨Scratch.zero _, .idle⟩, number⟩

/-- Carries out a step, unless it names something that does not exist. -/
def step : Session → Step → Option (Answer × Session)
  | ⟨slots, memory⟩, .memory action =>
    (memory.act action).map fun (reply, memory) => (⟨reply, [], []⟩, ⟨slots, memory⟩)
  | ⟨slots, memory⟩, .station index action =>
    match slots[index]? with
    | none => none
    | some none => some (⟨.closed, [], []⟩, ⟨slots, memory⟩)
    | some (some station) =>
      let slots := slots.setIfInBounds index none
      let busMark := station.bus.logSize
      let memoryMark := memory.log.size
      (station.act memory action).map fun (reply, station, memory) =>
        (⟨reply, (station.map (·.bus.logFrom busMark)).getD [],
            memory.log.toList.drop memoryMark⟩,
          ⟨slots.setIfInBounds index station, memory⟩)

/-- The answers to a list of steps, up to the first trap, unless a step names
something that does not exist. -/
def run (session : Session) : List Step → Option (List Answer)
  | [] => some []
  | step :: steps =>
    match session.step step with
    | none => none
    | some (answer, session) =>
      match answer.reply with
      | .trap _ => some [answer]
      | _ => (session.run steps).map (answer :: ·)

end Session

end SensorLink.Bench

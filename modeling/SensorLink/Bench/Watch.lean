/-
Watches: waiters of several sensors, polled by hand on a virtual clock.

* `Watched` — a waiter with its name, its sensor and how often it was woken;
* `Watch` — the clock, the data-ready flags and the waiters;
* `WatchStep`, `WatchReply` — what can be asked for, and what comes back;
* `Watch.run` — the replies to a list of steps.

Design notes.  Names of waiters can be used again, and a flag may still hold the
registration of a waiter that is gone.  Registrations therefore use serial
numbers, which are never used again.
-/
import SensorLink.Readiness.Waiter
import SensorLink.Sensor

namespace SensorLink.Bench

/-- A waiter under a name. -/
structure Watched where
  name : String
  serial : Nat
  sensor : Nat
  waiter : Waiter
  wakes : Nat

/-- Several sensors and the waiters for them. -/
structure Watch where
  /-- The time in microseconds. -/
  now : Nat
  flags : Array (Readiness Nat)
  waiters : List Watched
  /-- The serial number of the next waiter. -/
  nextSerial : Nat

/-- A step of a watch. -/
inductive WatchStep where
  | notify (sensor : Nat)
  | name (sensor : Nat)
  | edges (sensor count : Nat)
  | advance (microseconds : Nat)
  | start (name : String) (sensor : Nat) (waiter : Waiter)
  | poll (name : String)
  | drop (name : String)
  | cancel (name : String)
  | addEdges (name : String) (count : Nat)
  | failPin (name : String)

/-- What a step gives. -/
inductive WatchReply where
  | done
  | dropped (existed : Bool)
  | name (text : String)
  | edges (seen : Nat)
  | progress (progress : Waiter.Progress)

/-- The reply to a step, and what can be seen of the watch after it. -/
structure WatchAnswer where
  reply : WatchReply
  ready : List Bool
  wakes : List (String × Nat)

namespace Watch

/-- A watch over sensors that have no data, without waiters. -/
def begin (sensors : Nat) : Watch :=
  ⟨0, Array.replicate sensors .idle, [], 0⟩

/-- Counts the wakes of the waiters that are still there, by their serial numbers. -/
def wake (woken : List Nat) (watch : Watch) : Watch :=
  { watch with waiters := watch.waiters.map fun w =>
      { w with wakes := w.wakes + woken.count w.serial } }

/-- Changes the waiter with a name, if there is one. -/
def change (name : String) (f : Waiter → Waiter) (watch : Watch) : Option Watch :=
  if watch.waiters.any (·.name = name) then
    some { watch with waiters := watch.waiters.map fun w =>
      if w.name = name then { w with waiter := f w.waiter } else w }
  else none

/-- Lets the waiter with a name go. -/
def dismiss (name : String) (watch : Watch) : Watch :=
  { watch with waiters := watch.waiters.filter (·.name ≠ name) }

/-- Lets `count` interrupts of a sensor come. -/
def interrupts (sensor count : Nat) (watch : Watch) : Watch :=
  match Readiness.bridge.notifyMany count (watch.flags.getD sensor .idle) with
  | (woken, flag) => { watch with flags := watch.flags.setIfInBounds sensor flag }.wake woken

/-- Polls a waiter, which goes when it ends. -/
def pollWaiter (watched : Watched) (watch : Watch) : Waiter.Progress × Watch :=
  let flag := watch.flags.getD watched.sensor .idle
  match watched.waiter.poll Readiness.bridge watched.serial watch.now flag with
  | ⟨progress, woken, waiter, flag⟩ =>
    let watch := { watch with flags := watch.flags.setIfInBounds watched.sensor flag }.wake woken
    match progress with
    | .pending =>
      (progress, { watch with waiters := watch.waiters.map fun w =>
        if w.name = watched.name then { w with waiter } else w })
    | _ => (progress, watch.dismiss watched.name)

/-- Carries out a step, unless it names a waiter that does not exist. -/
def step (watch : Watch) : WatchStep → Option (WatchReply × Watch)
  | .notify sensor => some (.done, watch.interrupts sensor 1)
  | .name sensor => some (.name (sensorName (some (UInt8.ofNat sensor))), watch)
  | .edges sensor count => some (.edges count, watch.interrupts sensor count)
  | .advance microseconds => some (.done, { watch with now := watch.now + microseconds })
  | .start name sensor waiter =>
    let watch := watch.dismiss name
    some (.done, { watch with
      waiters := watch.waiters ++ [⟨name, watch.nextSerial, sensor, waiter, 0⟩]
      nextSerial := watch.nextSerial + 1 })
  | .poll name =>
    match watch.waiters.find? (·.name = name) with
    | none => none
    | some watched =>
      match watch.pollWaiter watched with
      | (progress, watch) => some (.progress progress, watch)
  | .drop name => some (.dropped (watch.waiters.any (·.name = name)), watch.dismiss name)
  | .cancel name => (watch.change name Waiter.cancel).map (.done, ·)
  | .addEdges name count => (watch.change name (Waiter.addEdges count)).map (.done, ·)
  | .failPin name => (watch.change name Waiter.failPin).map (.done, ·)

/-- The flags, and the wakes of the waiters that wait for nothing but a flag. -/
def answer (reply : WatchReply) (watch : Watch) : WatchAnswer where
  reply := reply
  ready := watch.flags.toList.map Readiness.bridge.isReady
  wakes := (watch.waiters.filter (·.waiter.isUntimedWait)).map fun w => (w.name, w.wakes)

/-- The answers to a list of steps, unless one names a waiter that does not
exist. -/
def run (watch : Watch) : List WatchStep → Option (List WatchAnswer)
  | [] => some []
  | step :: steps =>
    match watch.step step with
    | none => none
    | some (reply, watch) => (watch.run steps).map (watch.answer reply :: ·)

end Watch

end SensorLink.Bench

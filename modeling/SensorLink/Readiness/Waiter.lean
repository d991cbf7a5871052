/-
Waits that are polled by hand on a virtual clock.

* `Alarm` — timers that are made for a time and polled, `Alarm.future` — as futures;
* `Timer`, `Timer.alarm` — a duration that starts to run when it is first polled;
* `Cancellation` — what can make a wait give up;
* `Waiter` — a wait for the flag, a delay, or a forwarder of interrupts;
* `Waiter.poll` — one poll, with everybody it woke.

Times on the virtual clock are in microseconds.
-/
import SensorLink.Readiness

namespace SensorLink

/-- Timers on a clock that counts ticks. -/
structure Alarm (τ : Type) where
  /-- The number of ticks in a second. -/
  rate : Nat
  /-- The ticks that a timer of so many milliseconds takes. -/
  ticks : Nat → Nat
  /-- A timer that is made at a time, for a duration. -/
  start : Nat → Nat → τ
  /-- Whether the timer has run out at a time, and the timer after the look. -/
  poll : Nat → τ → Bool × τ

/-- A timer as a future, at a time. -/
def Alarm.future {ι τ : Type} (alarm : Alarm τ) (now : Nat) : Future ι τ Unit where
  poll _ timer :=
    match alarm.poll now timer with
    | (ranOut, timer) => ⟨if ranOut then some () else none, [], timer⟩
  drop timer := timer

/-- A timer: it has a deadline once it has been polled. -/
structure Timer where
  duration : Nat
  deadline : Option Nat
  deriving DecidableEq, Repr

namespace Timer

/-- A timer that has not been polled. -/
def ofMilliseconds (ms : Nat) : Timer :=
  ⟨ms * 1000, none⟩

/-- Whether the timer has run out, and the timer after the look.  The first look
sets the deadline and never finds the timer run out. -/
def poll (now : Nat) : Timer → Bool × Timer
  | ⟨duration, none⟩ => (false, ⟨duration, some (now + duration)⟩)
  | ⟨duration, some deadline⟩ => (decide (deadline ≤ now), ⟨duration, some deadline⟩)

/-- The timers of the virtual clock. -/
def alarm : Alarm Timer where
  rate := 1000000
  ticks ms := (ofMilliseconds ms).duration
  start _ duration := ⟨duration, none⟩
  poll := poll

end Timer

/-- What can make a wait give up. -/
inductive Cancellation where
  /-- Nothing. -/
  | never
  /-- An event that has not come. -/
  | outstanding
  /-- An event that has come. -/
  | complete
  deriving DecidableEq, Repr

/-- Something that is polled until it ends. -/
inductive Waiter where
  /-- A wait without end. -/
  | wait
  /-- A wait that gives up once it is cancelled. -/
  | waitOr (cancellation : Cancellation)
  /-- A wait that gives up when its timer has run out. -/
  | waitTimeout (timer : Timer)
  /-- A pause that does not look at the flag. -/
  | delay (timer : Timer)
  /-- Raises the flag for each edge of an interrupt pin, until the pin fails. -/
  | forward (edges : Nat) (failed : Bool)
  deriving DecidableEq, Repr

namespace Waiter

/-- What a poll found. -/
inductive Progress where
  | pending
  | ready
  | interrupted
  /-- The pause is over. -/
  | elapsed
  /-- The interrupt pin failed. -/
  | pinFailed
  deriving DecidableEq, Repr

/-- The progress of a wait for the flag. -/
def Progress.ofWaited : Waited → Progress
  | .ready => ready
  | .interrupted => interrupted
  | .pending => pending

/-- A poll's finding, whom it woke, and the states it left. -/
structure Polled (ι ρ : Type) where
  progress : Progress
  woken : List ι
  waiter : Waiter
  readiness : ρ

variable {ι ρ : Type}

/-- Polls the waiter called `name` at time `now`. -/
def poll (bridge : Bridge ι ρ) (name : ι) (now : Nat) (readiness : ρ) : Waiter → Polled ι ρ
  | wait =>
    match bridge.poll name readiness with
    | ⟨found, woken, readiness⟩ => ⟨.ofWaited found, woken, wait, readiness⟩
  | waitOr cancellation =>
    match bridge.pollOr .gate name (readiness, cancellation = .complete) with
    | ⟨found, woken, readiness, _⟩ => ⟨.ofWaited found, woken, waitOr cancellation, readiness⟩
  | waitTimeout timer =>
    match bridge.pollOr (Timer.alarm.future now) name (readiness, timer) with
    | ⟨found, woken, readiness, timer⟩ => ⟨.ofWaited found, woken, waitTimeout timer, readiness⟩
  | delay timer =>
    match timer.poll now with
    | (ranOut, timer) => ⟨if ranOut then .elapsed else .pending, [], delay timer, readiness⟩
  | forward edges failed =>
    match bridge.notifyMany edges readiness with
    | (woken, readiness) =>
      ⟨if failed then .pinFailed else .pending, woken, forward 0 failed, readiness⟩

/-- Whether the waiter waits for nothing but the flag and its cancellation. -/
def isUntimedWait : Waiter → Bool
  | wait => true
  | waitOr _ => true
  | waitTimeout _ => false
  | delay _ => false
  | forward .. => false

/-- Lets the event come that a waiter can be cancelled by. -/
def cancel : Waiter → Waiter
  | waitOr .outstanding => waitOr .complete
  | other => other

/-- Supplies edges to a forwarder. -/
def addEdges (count : Nat) : Waiter → Waiter
  | forward edges failed => forward (edges + count) failed
  | other => other

/-- Lets the pin of a forwarder fail after its edges. -/
def failPin : Waiter → Waiter
  | forward edges _ => forward edges true
  | other => other

end Waiter

end SensorLink

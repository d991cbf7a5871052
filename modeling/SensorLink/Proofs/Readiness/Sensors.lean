/-
Several sensors, the waits for them and everything that can happen to them.

Each sensor has a bus, an endpoint and a data-ready flag.  Any number of waits can be
outstanding at a sensor: they begin, are polled and are dropped in any order, and whoever
polls or drops a wait says whether it is cancelled by then.  A wait that has ended is gone.

* `Wait`, `Happening`, `Seen` — an outstanding wait, what happens at a sensor, what is seen;
* `SensorState.step`, `Sensors.step`, `Sensors.runAll` — one happening at a sensor, at one
  of several sensors, and a run of them with its history;
* `Wait.waited_poll` — what a poll finds;
* `SensorState.ready_step` — the flag after a happening.

Design notes.  Whom a poll or an interrupt wakes plays no part here: a waiter may be polled
whether it was woken or not.
-/
import Mathlib.Logic.Function.Basic
import SensorLink.Proofs.Operations
import SensorLink.Readiness.Waiter

namespace SensorLink

variable {ω ε μ ι κ ρ : Type}

/-- An outstanding wait for the flag of a sensor. -/
inductive Wait (μ : Type) where
  /-- A wait without end. -/
  | endless
  /-- A wait that gives up once it is cancelled. -/
  | cancellable
  /-- The same as a command, which comes with an argument and the memory of its caller. -/
  | command (argument : UInt64) (memory : μ)

/-- What happens at a sensor. -/
inductive Happening (μ ι : Type) where
  | interrupt
  /-- A forwarder finds edges on its pin, which may have failed after them. -/
  | forward (waiter : ι) (edges : Nat) (failed : Bool)
  | look
  | call (call : SensorCall)
  | transfer (argument : UInt64) (memory : μ) (waiter : ι) (cancelled : Bool)
  | start (waiter : ι) (wait : Wait μ)
  | poll (waiter : ι) (cancelled : Bool)
  | drop (waiter : ι) (cancelled : Bool)

/-- What is seen of a happening. -/
inductive Seen (μ ε : Type) where
  | nothing
  | flag (ready : Bool)
  | progress (progress : Waiter.Progress)
  | answer (answer : Answer μ ε)

/-- How far a wait has come by its progress. -/
def Waiter.Progress.waited? : Waiter.Progress → Option Waited
  | ready => some .ready
  | interrupted => some .interrupted
  | pending => some .pending
  | elapsed => none
  | pinFailed => none

/-- How far a wait has come by the answer to its command. -/
def Answer.waited? : Answer μ ε → Option Waited
  | command (.ok .done) _ => some .ready
  | command (.ok .pending) _ => some .pending
  | command (.error .interrupted) _ => some .interrupted
  | _ => none

/-- How far a wait has come by what is seen of its poll. -/
def Seen.waited? : Seen μ ε → Option Waited
  | nothing => none
  | flag _ => none
  | progress found => found.waited?
  | answer found => found.waited?

theorem Waiter.Progress.waited?_ofWaited (waited : Waited) :
    (ofWaited waited).waited? = some waited := by
  cases waited <;> rfl

/-! ### Polls -/

namespace Wait

/-- The wait ends when it is cancelled. -/
def givesUp : Wait μ → Bool
  | endless => false
  | cancellable => true
  | command _ _ => true

/-- What a poll finds: the flag comes before the cancellation. -/
def due (ready cancelled : Bool) (wait : Wait μ) : Waited :=
  if ready then .ready else if wait.givesUp && cancelled then .interrupted else .pending

section Due

variable {ready cancelled : Bool} {wait : Wait μ}

theorem due_eq_ready : wait.due ready cancelled = .ready ↔ ready = true := by
  rw [due]
  cases ready <;> cases wait.givesUp <;> cases cancelled <;> decide

theorem due_eq_interrupted : wait.due ready cancelled = .interrupted ↔
    ready = false ∧ wait.givesUp = true ∧ cancelled = true := by
  rw [due]
  cases ready <;> cases wait.givesUp <;> cases cancelled <;> decide

theorem due_eq_pending : wait.due ready cancelled = .pending ↔
    ready = false ∧ ¬(wait.givesUp = true ∧ cancelled = true) := by
  rw [due]
  cases ready <;> cases wait.givesUp <;> cases cancelled <;> decide

end Due

/-- Polls a wait.  None of the waits looks at the clock. -/
def poll (bridge : Bridge ι ρ) (bus : RegisterBus ω ε) (boundary : Boundary μ) (waiter : ι)
    (cancelled : Bool) : Wait μ → Endpoint ρ × ω → Seen μ ε × (Endpoint ρ × ω)
  | endless, (endpoint, w) =>
    let polled := Waiter.wait.poll bridge waiter 0 endpoint.readiness
    (.progress polled.progress, (⟨endpoint.staging, polled.readiness⟩, w))
  | cancellable, (endpoint, w) =>
    let cancellation := if cancelled then Cancellation.complete else .outstanding
    let polled := (Waiter.waitOr cancellation).poll bridge waiter 0 endpoint.readiness
    (.progress polled.progress, (⟨endpoint.staging, polled.readiness⟩, w))
  | command argument memory, s =>
    match (Operation.command Command.waitForInterrupt.number argument memory waiter
        cancelled).run bridge bus boundary s with
    | (answer, s) => (.answer answer, s)

/-- Drops a wait. -/
def drop (bridge : Bridge ι ρ) (cancelled : Bool) (readiness : ρ) : Wait μ → ρ
  | endless => bridge.drop readiness
  | cancellable => (bridge.dropOr .gate (readiness, cancelled)).1
  | command _ _ => (bridge.dropOr .gate (readiness, cancelled)).1

section Laws

variable {bridge : Bridge ι ρ} (hbridge : bridge.Lawful)
include hbridge

/-- A wait that is dropped leaves the flag as it is. -/
theorem isReady_drop (cancelled : Bool) (readiness : ρ) (wait : Wait μ) :
    bridge.isReady (wait.drop bridge cancelled readiness) = bridge.isReady readiness := by
  cases wait with
  | endless => exact hbridge.isReady_drop readiness
  | cancellable => exact hbridge.isReady_dropOr .gate cancelled readiness
  | command argument memory => exact hbridge.isReady_dropOr .gate cancelled readiness

variable (bus : RegisterBus ω ε) (boundary : Boundary μ) (waiter : ι) (cancelled : Bool)

/-- A poll finds what the flag and the cancellation say, and leaves the flag clear. -/
theorem waited_poll (wait : Wait μ) (endpoint : Endpoint ρ) (w : ω) :
    let polled := wait.poll bridge bus boundary waiter cancelled (endpoint, w)
    polled.1.waited? = some (wait.due (bridge.isReady endpoint.readiness) cancelled) ∧
      bridge.isReady polled.2.1.readiness = false := by
  have hresult := fun cancelled =>
    hbridge.result_pollOr_gate waiter endpoint.readiness cancelled
  have hclear := fun cancelled : Bool =>
    hbridge.isReady_pollOr .gate waiter cancelled endpoint.readiness
  cases wait with
  | endless =>
    refine ⟨?_, hbridge.isReady_poll waiter endpoint.readiness⟩
    exact (Waiter.Progress.waited?_ofWaited _).trans
      (congrArg some (hbridge.result_poll waiter endpoint.readiness))
  | cancellable =>
    refine ⟨?_, hclear _⟩
    have hcancelled : decide ((if cancelled then Cancellation.complete else .outstanding)
        = Cancellation.complete) = cancelled := by
      cases cancelled <;> rfl
    refine (Waiter.Progress.waited?_ofWaited _).trans (congrArg some ?_)
    rw [hcancelled]
    exact hresult cancelled
  | command argument memory =>
    simp only [poll, Operation.run, Endpoint.dispatch_waitForInterrupt, Endpoint.waitForInterrupt]
    have hdue := hresult cancelled
    have hstate := hclear cancelled
    obtain ⟨⟨result, woken, readiness, _⟩, hpolled⟩ : ∃ polled,
      bridge.pollOr .gate waiter (endpoint.readiness, cancelled) = polled := ⟨_, rfl⟩
    rw [hpolled] at hdue hstate ⊢
    have hdue : (command argument memory).due (bridge.isReady endpoint.readiness) cancelled
        = result := hdue.symm
    rw [hdue]
    cases result with
    | ready => exact ⟨rfl, hstate⟩
    | interrupted => exact ⟨rfl, hstate⟩
    | pending => exact ⟨rfl, hstate⟩

end Laws

end Wait

/-! ### One sensor -/

/-- A sensor on its bus, with the waits for it. -/
structure SensorState (ω μ ι ρ : Type) where
  endpoint : Endpoint ρ
  world : ω
  waits : ι → Option (Wait μ)

namespace Happening

/-- The happening raises the flag. -/
def Raises : Happening μ ι → Prop
  | interrupt => True
  | forward _ edges _ => 0 < edges
  | look => False
  | call _ => False
  | transfer .. => False
  | start _ _ => False
  | poll _ _ => False
  | drop _ _ => False

/-- The happening is a poll that was seen to take the flag. -/
def Takes (seen : Seen μ ε) : Happening μ ι → Prop
  | poll _ _ => seen.waited? = some .ready
  | interrupt => False
  | forward .. => False
  | look => False
  | call _ => False
  | transfer .. => False
  | start _ _ => False
  | drop _ _ => False

theorem Takes.not_raises {seen : Seen μ ε} {happening : Happening μ ι}
    (h : happening.Takes seen) : ¬happening.Raises := by
  cases happening with
  | poll => exact id
  | _ => exact h.elim

end Happening

namespace SensorState

/-- A sensor that has just been set up. -/
def opened (bridge : Bridge ι ρ) (staging : Staging) (w : ω) : SensorState ω μ ι ρ :=
  ⟨⟨staging, bridge.idle⟩, w, fun _ => none⟩

/-- Whether the flag of the sensor is raised. -/
def ready (bridge : Bridge ι ρ) (state : SensorState ω μ ι ρ) : Bool :=
  bridge.isReady state.endpoint.readiness

/-- Carries out an operation beside the waits. -/
def operate (bridge : Bridge ι ρ) (bus : RegisterBus ω ε) (boundary : Boundary μ)
    (operation : Operation μ ι) : SensorState ω μ ι ρ → Seen μ ε × SensorState ω μ ι ρ
  | ⟨endpoint, w, waits⟩ =>
    match operation.run bridge bus boundary (endpoint, w) with
    | (answer, (endpoint, w)) => (.answer answer, ⟨endpoint, w, waits⟩)

variable [DecidableEq ι]

/-- Drops the wait of a waiter, if there is one. -/
def dismiss (bridge : Bridge ι ρ) (waiter : ι) (cancelled : Bool) :
    SensorState ω μ ι ρ → SensorState ω μ ι ρ
  | ⟨endpoint, w, waits⟩ =>
    match waits waiter with
    | none => ⟨endpoint, w, waits⟩
    | some wait =>
      ⟨⟨endpoint.staging, wait.drop bridge cancelled endpoint.readiness⟩, w,
        Function.update waits waiter none⟩

/-- What is seen of a happening, and the sensor after it. -/
def step (bridge : Bridge ι ρ) (bus : RegisterBus ω ε) (boundary : Boundary μ) :
    Happening μ ι → SensorState ω μ ι ρ → Seen μ ε × SensorState ω μ ι ρ
  | .interrupt, ⟨endpoint, w, waits⟩ =>
    (.nothing, ⟨⟨endpoint.staging, (bridge.notify endpoint.readiness).2⟩, w, waits⟩)
  | .forward waiter edges failed, ⟨endpoint, w, waits⟩ =>
    let polled := (Waiter.forward edges failed).poll bridge waiter 0 endpoint.readiness
    (.progress polled.progress, ⟨⟨endpoint.staging, polled.readiness⟩, w, waits⟩)
  | .look, state => (.flag (state.ready bridge), state)
  | .call call, state => state.operate bridge bus boundary (.sensor call)
  | .transfer argument memory waiter cancelled, state =>
    state.operate bridge bus boundary
      (.command Command.transfer.number argument memory waiter cancelled)
  | .start waiter wait, state =>
    let state := state.dismiss bridge waiter false
    (.nothing, { state with waits := Function.update state.waits waiter (some wait) })
  | .poll waiter cancelled, ⟨endpoint, w, waits⟩ =>
    match waits waiter with
    | none => (.nothing, ⟨endpoint, w, waits⟩)
    | some wait =>
      match wait.poll bridge bus boundary waiter cancelled (endpoint, w) with
      | (seen, (endpoint, w)) =>
        (seen, ⟨endpoint, w,
          if seen.waited? = some .pending then waits else Function.update waits waiter none⟩)
  | .drop waiter cancelled, state => (.nothing, state.dismiss bridge waiter cancelled)

/-- A wait that is not outstanding is not polled. -/
theorem step_poll_none (bridge : Bridge ι ρ) (bus : RegisterBus ω ε) (boundary : Boundary μ)
    {state : SensorState ω μ ι ρ} {waiter : ι} (hwait : state.waits waiter = none)
    (cancelled : Bool) :
    state.step bridge bus boundary (.poll waiter cancelled) = (.nothing, state) := by
  obtain ⟨endpoint, w, waits⟩ := state
  simp only at hwait
  simp only [step, hwait]

omit [DecidableEq ι] in
/-- Calls and transfers have nothing to do with the flag. -/
theorem ready_operate_sensor (bridge : Bridge ι ρ) (bus : RegisterBus ω ε)
    (boundary : Boundary μ) (call : SensorCall) (state : SensorState ω μ ι ρ) :
    (state.operate bridge bus boundary (.sensor call)).2.ready bridge = state.ready bridge :=
  rfl

omit [DecidableEq ι] in
theorem ready_operate_transfer (bridge : Bridge ι ρ) (bus : RegisterBus ω ε)
    (boundary : Boundary μ) (argument : UInt64) (memory : μ) (waiter : ι) (cancelled : Bool)
    (state : SensorState ω μ ι ρ) :
    (state.operate bridge bus boundary
      (.command Command.transfer.number argument memory waiter cancelled)).2.ready bridge
        = state.ready bridge := by
  simp only [operate, Operation.run, Endpoint.dispatch_transfer]
  rfl

section Laws

variable {bridge : Bridge ι ρ} (hbridge : bridge.Lawful)
include hbridge

theorem ready_dismiss (waiter : ι) (cancelled : Bool) (state : SensorState ω μ ι ρ) :
    (state.dismiss bridge waiter cancelled).ready bridge = state.ready bridge := by
  obtain ⟨endpoint, w, waits⟩ := state
  simp only [dismiss]
  cases waits waiter with
  | none => rfl
  | some wait => exact wait.isReady_drop hbridge cancelled endpoint.readiness

variable (bus : RegisterBus ω ε) (boundary : Boundary μ)

/-- The poll of an outstanding wait finds what the flag and the cancellation say, and leaves
the flag clear. -/
theorem waited_poll {state : SensorState ω μ ι ρ} {waiter : ι} {wait : Wait μ}
    (hwait : state.waits waiter = some wait) (cancelled : Bool) :
    let polled := state.step bridge bus boundary (.poll waiter cancelled)
    polled.1.waited? = some (wait.due (state.ready bridge) cancelled) ∧
      polled.2.ready bridge = false := by
  obtain ⟨endpoint, w, waits⟩ := state
  simp only at hwait
  simp only [step, hwait]
  exact wait.waited_poll hbridge bus boundary waiter cancelled endpoint w

/-- Only a raised flag is taken. -/
theorem ready_of_takes (happening : Happening μ ι) (state : SensorState ω μ ι ρ)
    (h : happening.Takes (state.step bridge bus boundary happening).1) :
    state.ready bridge = true := by
  cases happening with
  | poll waiter cancelled =>
    have h : (state.step bridge bus boundary (.poll waiter cancelled)).1.waited? = some .ready := h
    cases hwait : state.waits waiter with
    | none =>
      rw [step_poll_none bridge bus boundary hwait] at h
      exact nomatch h
    | some wait =>
      rw [(waited_poll hbridge bus boundary hwait cancelled).1, Option.some.injEq] at h
      exact Wait.due_eq_ready.mp h
  | _ => exact h.elim

/-- After a happening the flag is raised if it was raised by it, or was before and has not
been taken. -/
theorem ready_step (happening : Happening μ ι) (state : SensorState ω μ ι ρ) :
    (state.step bridge bus boundary happening).2.ready bridge = true ↔
      happening.Raises ∨ state.ready bridge = true ∧
        ¬happening.Takes (state.step bridge bus boundary happening).1 := by
  have hkept : (False ∨ state.ready bridge = true ∧ ¬False) ↔ state.ready bridge = true := by
    rw [false_or, not_false_eq_true, and_true]
  cases happening with
  | interrupt => exact ⟨fun _ => .inl trivial, fun _ => hbridge.isReady_notify _⟩
  | forward waiter edges failed =>
    refine (hbridge.isReady_notifyMany edges state.endpoint.readiness).trans ?_
    exact or_congr_right (and_iff_left not_false).symm
  | look => exact hkept.symm
  | call call =>
    rw [step, ready_operate_sensor]
    exact hkept.symm
  | transfer argument memory waiter cancelled =>
    rw [step, ready_operate_transfer]
    exact hkept.symm
  | start waiter wait =>
    exact (Bool.eq_iff_iff.mp (ready_dismiss hbridge waiter false state)).trans hkept.symm
  | drop waiter cancelled =>
    exact (Bool.eq_iff_iff.mp (ready_dismiss hbridge waiter cancelled state)).trans hkept.symm
  | poll waiter cancelled =>
    cases hwait : state.waits waiter with
    | none =>
      rw [step_poll_none bridge bus boundary hwait]
      exact ⟨fun hready => .inr ⟨hready, nofun⟩, fun h => (h.resolve_left id).1⟩
    | some wait =>
      obtain ⟨hwaited, hclear⟩ := waited_poll hbridge bus boundary hwait cancelled
      rw [hclear]
      refine ⟨nofun, fun h => ?_⟩
      obtain ⟨hready, htakes⟩ := h.resolve_left id
      exact absurd (hwaited.trans (congrArg some (Wait.due_eq_ready.mpr hready))) htakes

end Laws

end SensorState

/-! ### Several sensors -/

/-- Sensors, named by `κ`. -/
abbrev Sensors (κ ω μ ι ρ : Type) := κ → SensorState ω μ ι ρ

/-- A happening in a history: where it was, what it was and what was seen. -/
structure Entry (κ μ ι ε : Type) where
  sensor : κ
  happening : Happening μ ι
  seen : Seen μ ε

namespace Entry

/-- The flag of a sensor was raised. -/
def RaisesAt (sensor : κ) (entry : Entry κ μ ι ε) : Prop :=
  entry.sensor = sensor ∧ entry.happening.Raises

/-- The flag of a sensor was taken: a wait for it ended well. -/
def TakesAt (sensor : κ) (entry : Entry κ μ ι ε) : Prop :=
  entry.sensor = sensor ∧ entry.happening.Takes entry.seen

theorem TakesAt.not_raisesAt {sensor : κ} {entry : Entry κ μ ι ε} (h : entry.TakesAt sensor) :
    ¬entry.RaisesAt sensor :=
  fun hraises => h.2.not_raises hraises.2

end Entry

namespace Sensors

/-- Sensors that have just been set up. -/
def opened (bridge : Bridge ι ρ) (stagings : κ → Staging) (worlds : κ → ω) :
    Sensors κ ω μ ι ρ :=
  fun sensor => .opened bridge (stagings sensor) (worlds sensor)

variable [DecidableEq κ] [DecidableEq ι]

/-- Something happens at one of the sensors. -/
def step (bridge : Bridge ι ρ) (buses : κ → RegisterBus ω ε) (boundary : Boundary μ)
    (sensor : κ) (happening : Happening μ ι) (sensors : Sensors κ ω μ ι ρ) :
    Entry κ μ ι ε × Sensors κ ω μ ι ρ :=
  match (sensors sensor).step bridge (buses sensor) boundary happening with
  | (seen, state) => (⟨sensor, happening, seen⟩, Function.update sensors sensor state)

/-- The history of what happens at the sensors, and the sensors after it. -/
def runAll (bridge : Bridge ι ρ) (buses : κ → RegisterBus ω ε) (boundary : Boundary μ) :
    List (κ × Happening μ ι) → Sensors κ ω μ ι ρ →
      List (Entry κ μ ι ε) × Sensors κ ω μ ι ρ
  | [], sensors => ([], sensors)
  | (sensor, happening) :: rest, sensors =>
    match sensors.step bridge buses boundary sensor happening with
    | (entry, sensors) =>
      match runAll bridge buses boundary rest sensors with
      | (history, sensors) => (entry :: history, sensors)

section Laws

variable {bridge : Bridge ι ρ} (hbridge : bridge.Lawful) (buses : κ → RegisterBus ω ε)
  (boundary : Boundary μ)
include hbridge

/-- The flag of a sensor is raised by what happens there, and is cleared when it is taken
there. -/
theorem ready_step (sensor place : κ) (happening : Happening μ ι) (sensors : Sensors κ ω μ ι ρ) :
    ((sensors.step bridge buses boundary place happening).2 sensor).ready bridge = true ↔
      (sensors.step bridge buses boundary place happening).1.RaisesAt sensor ∨
        (sensors sensor).ready bridge = true ∧
          ¬(sensors.step bridge buses boundary place happening).1.TakesAt sensor := by
  by_cases hplace : place = sensor
  · subst hplace
    simp only [step, Function.update_self, Entry.RaisesAt, Entry.TakesAt, true_and]
    exact SensorState.ready_step hbridge (buses place) boundary happening (sensors place)
  · simp only [step, Function.update_of_ne (Ne.symm hplace), Entry.RaisesAt, Entry.TakesAt,
      hplace, false_and, false_or, not_false_eq_true, and_true]

/-- Only a raised flag is taken. -/
theorem ready_of_takesAt {sensor place : κ} {happening : Happening μ ι}
    {sensors : Sensors κ ω μ ι ρ}
    (h : (sensors.step bridge buses boundary place happening).1.TakesAt sensor) :
    (sensors sensor).ready bridge = true := by
  obtain ⟨rfl, htakes⟩ := h
  exact SensorState.ready_of_takes hbridge (buses place) boundary happening (sensors place) htakes

end Laws

end Sensors

end SensorLink

/-
No byte that an earlier transfer left behind is ever observed.

An endpoint has a staging buffer and a link has a buffer of its own, and transfers of any
length leave their bytes there, failed ones parts of them.  Take two hosts that differ in
nothing but these bytes.  Whatever they do, and whatever fails, they get the same answers,
send the same bytes, and end with the same registers and the same caller memory.

* `Operation.runShared` — operations on one caller memory;
* `Operation.couple_runShared` — runs that start with different staging buffers;
* `Operation.observed` — all there is to see of a run, `Observation.Shows` — of which run;
* `no_stale_bytes` — runs over two wires, over four wires and over a recorder.
-/
import SensorLink.Proofs.Operations
import SensorLink.Proofs.Wire.Overwriting

namespace SensorLink

variable {ω ω' ε ε' μ ι ρ : Type}

/-! ### Operations on one caller memory -/

/-- The operation on what its caller makes of the memory that the commands before it left. -/
def Operation.on (memory : μ) : Operation (μ → μ) ι → Operation μ ι
  | sensor call => sensor call
  | command number argument change waiter cancelled =>
    command number argument (change memory) waiter cancelled

/-- Caller memory after an operation; a call on the sensor leaves it alone. -/
def Answer.memoryAfter (memory : μ) : Answer μ ε → μ
  | sensor _ _ => memory
  | command _ memory => memory

@[simp] theorem Answer.memoryAfter_mapError (memory : μ) (f : ε → ε') (answer : Answer μ ε) :
    (answer.mapError f).memoryAfter memory = answer.memoryAfter memory := by
  cases answer with
  | sensor _ _ => rfl
  | command _ _ => rfl

namespace Operation

/-- Carries out operations one after the other, all of them on the same caller memory;
nothing follows a trap. -/
def runShared (bridge : Bridge ι ρ) (bus : RegisterBus ω ε) (boundary : Boundary μ) :
    List (Operation (μ → μ) ι) → (Endpoint ρ × ω) × μ →
      List (Answer μ ε) × ((Endpoint ρ × ω) × μ)
  | [], s => ([], s)
  | operation :: operations, (s, memory) =>
    match (operation.on memory).run bridge bus boundary s with
    | (answer, s) =>
      if answer.Settled then
        match runShared bridge bus boundary operations (s, answer.memoryAfter memory) with
        | (answers, s) => (answer :: answers, s)
      else ([answer], (s, answer.memoryAfter memory))

section Couple

variable {B : Bytes → Bytes → Prop} {R : ω → ω' → Prop} {f : ε → ε'} {bus : RegisterBus ω ε}
  {bus' : RegisterBus ω' ε'} {w : ω} {w' : ω'}

theorem couple_runShared (bridge : Bridge ι ρ) (hB : Piecewise B) (h : bus.Sim bus' R f)
    (hfills : bus.Fills bus' B R f) (boundary : Boundary μ)
    (operations : List (Operation (μ → μ) ι)) (memory : μ) {endpoint endpoint' : Endpoint ρ}
    (halike : endpoint.Alike B endpoint') (hR : R w w') :
    ∃ answers next next' v v' left,
      runShared bridge bus boundary operations ((endpoint, w), memory)
          = (answers, ((next, v), left)) ∧
        runShared bridge bus' boundary operations ((endpoint', w'), memory)
          = (answers.map (Answer.mapError f), ((next', v'), left)) ∧
        next.Alike B next' ∧ R v v' := by
  -- Caller memory is the same in both runs after every operation, as a part of its answer.
  induction operations generalizing memory endpoint endpoint' w w' with
  | nil => exact ⟨[], endpoint, endpoint', w, w', memory, rfl, rfl, halike, hR⟩
  | cons operation operations ih =>
    obtain ⟨answer, next, next', v, v', hrun, hrun', hnext, hv⟩ :=
      couple_run bridge hB h hfills boundary (operation.on memory) halike hR
    simp only [runShared, hrun, hrun', Answer.settled_mapError, Answer.memoryAfter_mapError]
    by_cases hsettled : answer.Settled
    · obtain ⟨answers, last, last', u, u', left, hrest, hrest', hlast, hu⟩ :=
        ih (answer.memoryAfter memory) hnext hv
      rw [if_pos hsettled, if_pos hsettled, hrest, hrest']
      exact ⟨answer :: answers, last, last', u, u', left, rfl, rfl, hlast, hu⟩
    · rw [if_neg hsettled, if_neg hsettled]
      exact ⟨[answer], next, next', v, v', _, rfl, rfl, hnext, hv⟩

end Couple

end Operation

/-! ### What is seen -/

/-- All there is to see of a run: the answers, the data-ready flag, caller memory, the state
of the bus with the registers of its sensor, and what was sent. -/
structure Observation (μ ρ ε σ τ : Type) where
  answers : List (Answer μ ε)
  readiness : ρ
  memory : μ
  bus : σ
  traffic : List τ

/-- What is seen is what a run gave and left, if `state` finds the state of its bus: taking
down what was sent made no difference to the run. -/
structure Observation.Shows {σ τ : Type} (seen : Observation μ ρ ε σ τ) (state : ω → σ)
    (run : List (Answer μ ε) × ((Endpoint ρ × ω) × μ)) : Prop where
  answers : seen.answers = run.1
  readiness : seen.readiness = run.2.1.1.readiness
  memory : seen.memory = run.2.2
  bus : seen.bus = state run.2.1.2

namespace Operation

variable {σ τ : Type} (bridge : Bridge ι ρ)

/-- What is seen of operations over a bus in whose worlds `view` finds the state of the bus
and what was sent. -/
def observed (bus : RegisterBus ω ε) (view : ω → σ × List τ) (boundary : Boundary μ)
    (operations : List (Operation (μ → μ) ι)) (endpoint : Endpoint ρ) (w : ω) (memory : μ) :
    Observation μ ρ ε σ τ :=
  match runShared bridge bus boundary operations ((endpoint, w), memory) with
  | (answers, ((endpoint, w), memory)) =>
    ⟨answers, endpoint.readiness, memory, (view w).1, (view w).2⟩

theorem map_mapError_id (answers : List (Answer μ ε)) :
    answers.map (Answer.mapError id) = answers := by
  induction answers with
  | nil => rfl
  | cons answer answers ih => rw [List.map_cons, ih, Answer.mapError_id]

/-- If neither the staging buffer nor anything that `R` leaves open matters to a bus, it is
not seen either. -/
theorem observed_eq {bus : RegisterBus ω ε} {R : ω → ω → Prop} {view : ω → σ × List τ}
    (hview : ∀ w w', R w w' → view w = view w') (h : bus.Sim bus R id)
    (hfills : bus.Fills bus Bytes.SameLength R id) (boundary : Boundary μ)
    (operations : List (Operation (μ → μ) ι)) (readiness : ρ) (memory : μ)
    (staging staging' : Staging) {w w' : ω} (hR : R w w') :
    observed bridge bus view boundary operations ⟨staging, readiness⟩ w memory
      = observed bridge bus view boundary operations ⟨staging', readiness⟩ w' memory := by
  have hlength : staging.bytes.SameLength staging'.bytes :=
    staging.length_bytes.trans staging'.length_bytes.symm
  have halike : Endpoint.Alike Bytes.SameLength (⟨staging, readiness⟩ : Endpoint ρ)
      ⟨staging', readiness⟩ := ⟨hlength, rfl⟩
  obtain ⟨answers, next, next', v, v', left, hrun, hrun', hnext, hv⟩ :=
    couple_runShared bridge piecewise_sameLength h hfills boundary operations memory halike hR
  simp only [observed, hrun, hrun', map_mapError_id, hnext.readiness, hview v v' hv]

/-- A bus that does the same call by call, and more of which may be seen, shows what the bus
itself does. -/
theorem shows_of_sim {bus : RegisterBus ω ε} {bus' : RegisterBus ω' ε} {R : ω → ω' → Prop}
    (h : bus.Sim bus' R id) {view : ω' → σ × List τ} {state : ω → σ}
    (hview : ∀ w w', R w w' → (view w').1 = state w) (boundary : Boundary μ)
    (operations : List (Operation (μ → μ) ι)) (endpoint : Endpoint ρ) (memory : μ) {w : ω}
    {w' : ω'} (hR : R w w') :
    (observed bridge bus' view boundary operations endpoint w' memory).Shows state
      (runShared bridge bus boundary operations ((endpoint, w), memory)) := by
  obtain ⟨answers, next, next', v, v', left, hrun, hrun', hnext, hv⟩ :=
    couple_runShared bridge piecewise_eq h h.fills boundary operations memory
      (.refl piecewise_eq endpoint) hR
  simp only [observed, hrun, hrun', map_mapError_id]
  exact ⟨rfl, hnext.readiness, rfl, hview v v' hv⟩

end Operation

open Bench in
/-- Two hosts that differ only in what their buffers hold cannot be told apart by any run of
operations, with any faults: over two wires, over four wires, or over a recorder.  What is seen
of each of them is what it does when nothing is taken down. -/
theorem no_stale_bytes (bridge : Bridge ι ρ) (boundary : Boundary μ)
    (operations : List (Operation (μ → μ) ι)) (readiness : ρ) (memory : μ)
    (staging staging' : Staging) :
    (∀ {σ ε : Type} (controller : TwoWireBus σ ε), controller.Overwrites →
      ∀ settings scratch scratch' s,
      let observed := Operation.observed bridge (TwoWireLink.registerBus controller.logged)
        TwoWireLink.bus boundary operations
      let run := Operation.runShared bridge (TwoWireLink.registerBus controller) boundary operations
      let seen := observed ⟨staging, readiness⟩ ⟨settings, scratch, (s, [])⟩ memory
      seen = observed ⟨staging', readiness⟩ ⟨settings, scratch', (s, [])⟩ memory ∧
        seen.Shows TwoWireLink.bus
          (run ((⟨staging, readiness⟩, ⟨settings, scratch, s⟩), memory))) ∧
    (∀ {σ ε : Type} (controller : FourWireBus σ ε) settings buffer buffer' s,
      let observed := Operation.observed bridge (FourWireLink.registerBus controller.logged)
        FourWireLink.bus boundary operations
      let run := Operation.runShared bridge (FourWireLink.registerBus controller) boundary
        operations
      let seen := observed ⟨staging, readiness⟩ ⟨settings, buffer, (s, [])⟩ memory
      seen = observed ⟨staging', readiness⟩ ⟨settings, buffer', (s, [])⟩ memory ∧
        seen.Shows FourWireLink.bus
          (run ((⟨staging, readiness⟩, ⟨settings, buffer, s⟩), memory))) ∧
    (∀ recorder : Faulty Recorder Unit,
      let bus := Faulty.registers Recorder.registerBus
      let observed := Operation.observed bridge bus.logged id boundary operations
      let run := Operation.runShared bridge bus boundary operations
      let seen := observed ⟨staging, readiness⟩ (recorder, []) memory
      seen = observed ⟨staging', readiness⟩ (recorder, []) memory ∧
        seen.Shows id (run ((⟨staging, readiness⟩, recorder), memory))) := by
  refine ⟨?_, ?_, ?_⟩
  · intro σ ε controller hcontroller settings scratch scratch' s observed run seen
    have hsim := TwoWireLink.sim_registerBus controller.logged.couples_self
    have hfills := TwoWireLink.fills_registerBus hcontroller.logged piecewise_sameLength
    have hmatches : TwoWireLink.Matches Logged (⟨settings, scratch, s⟩ : TwoWireLink σ)
        (⟨settings, scratch, (s, [])⟩ : TwoWireLink (σ × List TwoWireMessage)) := ⟨rfl, rfl⟩
    constructor
    · exact Operation.observed_eq bridge (fun _ _ hmatches => hmatches.bus) hsim hfills boundary
        operations readiness memory staging staging' ⟨rfl, rfl⟩
    · exact Operation.shows_of_sim bridge (TwoWireLink.sim_registerBus controller.couples_logged)
        (fun _ _ hmatches => hmatches.bus) boundary operations ⟨staging, readiness⟩ memory hmatches
  · intro σ ε controller settings buffer buffer' s observed run seen
    have hcontroller := controller.logged.couples_self
    have hmatches : FourWireLink.Matches Logged (⟨settings, buffer, s⟩ : FourWireLink σ)
        (⟨settings, buffer, (s, [])⟩ : FourWireLink (σ × List Bytes)) :=
      show Logged s (s, []) from rfl
    constructor
    · exact Operation.observed_eq bridge (fun _ _ hmatches => hmatches)
        (FourWireLink.sim_registerBus hcontroller)
        (FourWireLink.fills_registerBus hcontroller piecewise_sameLength) boundary operations
        readiness memory staging staging' rfl
    · exact Operation.shows_of_sim bridge (FourWireLink.sim_registerBus controller.couples_logged)
        (fun _ _ hmatches => hmatches) boundary operations ⟨staging, readiness⟩ memory hmatches
  · intro recorder bus observed run seen
    have hfills := (Faulty.overwrites_registers Recorder.overwrites_registerBus).logged
    constructor
    · exact Operation.observed_eq bridge (fun _ _ hsame => hsame) bus.logged.sim_self hfills
        boundary operations readiness memory staging staging' rfl
    · exact Operation.shows_of_sim bridge bus.sim_logged (fun _ _ hlogged => hlogged) boundary
        operations ⟨staging, readiness⟩ memory rfl

open Bench in
/-- A read of eight registers that spoils three bytes and fails, and then a write of four.
One host starts with cleared buffers, the other with buffers full of ones. -/
theorem no_stale_bytes_spoilt :
    let controller := Faulty.twoWire TwoWireTarget.controller
    let bus : Faulty TwoWireTarget TwoWireError :=
      ⟨.ofList [⟨0, .noAcknowledge .data, 3⟩], { registers := .zero }⟩
    let window : Window := ⟨0x1000, #[8, 0, 0x20, 0, 0, 0, 0, 0, 0x20, 0x10, 0, 0, 0, 0, 0, 0,
      4, 0, 0x40, 0, 1, 0, 0, 0, 0x20, 0x10, 0, 0, 0, 0, 0, 0, 1, 2, 3, 4, 5, 6, 7, 8]⟩
    let operations : List (Operation (Window → Window) Nat) :=
      [.command Command.transfer.number 0x1000 id 0 false,
        .command Command.transfer.number 0x1010 id 0 false]
    let observed := Operation.observed Readiness.bridge (TwoWireLink.registerBus controller.logged)
      TwoWireLink.bus Window.boundary operations
    let cleared := observed ⟨Scratch.zero _, .idle⟩ ⟨{}, Scratch.zero _, (bus, [])⟩ window
    let full := observed ⟨⟨List.replicate _ 0xFF, List.length_replicate⟩, .idle⟩
      ⟨{}, ⟨List.replicate _ 0xFF, List.length_replicate⟩, (bus, [])⟩ window
    cleared = full ∧
      full.traffic = [.writeRead 0x29 [0, 0x20] 8, .write 0x29 [0, 0x40, 1, 2, 3, 4]] := by
  intro controller bus window operations observed cleared full
  have hcontroller : controller.Overwrites :=
    Faulty.overwrites_twoWire TwoWireTarget.overwrites_controller
  obtain ⟨htwoWire, _⟩ := no_stale_bytes Readiness.bridge Window.boundary operations .idle window
    (Scratch.zero _) ⟨List.replicate _ 0xFF, List.length_replicate⟩
  have htraffic : full.traffic
      = [.writeRead 0x29 [0, 0x20] 8, .write 0x29 [0, 0x40, 1, 2, 3, 4]] := by decide +kernel
  exact ⟨(htwoWire controller hcontroller {} _ _ bus).1, htraffic⟩

end SensorLink

/-
What a host does with a sensor.

A host makes calls on the sensor and sends commands to its control endpoint, one after
the other.  With each command comes the memory of its caller, which is given back with
the answer.

* `Operation`, `Answer` — what a host asks for, and what it gets;
* `Operation.run`, `Operation.runAll` — one operation, and a run of them;
* `SensorCall.sim_run`, `Endpoint.couple_dispatch` — buses that do the same call by call
  do the same operation by operation;
* `Operation.couple_run` — also where the staging buffers of the endpoints differ;
* `Operation.sim_runAll` — and run by run.
-/
import SensorLink.Proofs.Simulation
import SensorLink.Proofs.Register.Answering
import SensorLink.Sensor

namespace SensorLink

variable {ω ω' ε ε' μ ι ρ : Type}

/-- What a host asks for. -/
inductive Operation (μ ι : Type) where
  | sensor (call : SensorCall)
  | command (number : UInt32) (argument : UInt64) (memory : μ) (waiter : ι) (cancelled : Bool)

/-- What a host gets: a value or an error with the buffer of the call, or with the memory of
the caller. -/
inductive Answer (μ ε : Type) where
  | sensor (outcome : Outcome (AccessError ε) SensorValue) (buffer : Bytes)
  | command (outcome : Outcome (RequestError ε) Completion) (memory : μ)

namespace Answer

/-- The operation did not end in a trap. -/
def Settled : Answer μ ε → Prop
  | sensor outcome _ => outcome.Settled
  | command outcome _ => outcome.Settled

instance : (answer : Answer μ ε) → Decidable answer.Settled
  | sensor outcome _ => inferInstanceAs (Decidable outcome.Settled)
  | command outcome _ => inferInstanceAs (Decidable outcome.Settled)

/-- Applies `f` to the error of the bus. -/
def mapError (f : ε → ε') : Answer μ ε → Answer μ ε'
  | sensor outcome buffer => sensor (outcome.mapError (AccessError.map f)) buffer
  | command outcome memory => command (outcome.mapError (RequestError.map f)) memory

@[simp] theorem settled_mapError (f : ε → ε') (answer : Answer μ ε) :
    (answer.mapError f).Settled ↔ answer.Settled := by
  cases answer with
  | sensor outcome _ => exact Outcome.settled_mapError ..
  | command outcome _ => exact Outcome.settled_mapError ..

@[simp] theorem mapError_id (answer : Answer μ ε) : answer.mapError id = answer := by
  cases answer with
  | sensor outcome _ => rw [mapError, outcome.mapError_eq_self AccessError.map_id]
  | command outcome _ => rw [mapError, outcome.mapError_eq_self RequestError.map_id]

end Answer

namespace Operation

/-- Carries out an operation. -/
def run (bridge : Bridge ι ρ) (bus : RegisterBus ω ε) (boundary : Boundary μ) :
    Operation μ ι → Endpoint ρ × ω → Answer μ ε × (Endpoint ρ × ω)
  | sensor call, (endpoint, w) =>
    match call.run bus w with
    | ⟨outcome, (buffer, w)⟩ => (.sensor outcome buffer, (endpoint, w))
  | command number argument memory waiter cancelled, (endpoint, w) =>
    match Endpoint.dispatch bridge (bus.beside μ) (boundary.after ω) number argument waiter
        cancelled endpoint (w, memory) with
    | ⟨outcome, (endpoint, (w, memory))⟩ => (.command outcome memory, (endpoint, w))

/-- Carries out operations one after the other; nothing follows a trap. -/
def runAll (bridge : Bridge ι ρ) (bus : RegisterBus ω ε) (boundary : Boundary μ) :
    List (Operation μ ι) → Endpoint ρ × ω → List (Answer μ ε) × (Endpoint ρ × ω)
  | [], s => ([], s)
  | operation :: operations, s =>
    match operation.run bridge bus boundary s with
    | (answer, s) =>
      if answer.Settled then
        match runAll bridge bus boundary operations s with
        | (answers, s) => (answer :: answers, s)
      else ([answer], s)

end Operation

/-! ### Buses that do the same -/

section Simulation

variable {R : ω → ω' → Prop} {f : ε → ε'} {bus : RegisterBus ω ε} {bus' : RegisterBus ω' ε'}
  {w : ω} {w' : ω'}

namespace RegisterBus.Sim

theorem readByte (h : bus.Sim bus' R f) (register : UInt16) (hR : R w w') :
    Run.Sim R (AccessError.map f) (bus.readByte register w) (bus'.readByte register w') := by
  obtain ⟨outcome, _, _, hrun, hrun', ⟨buffer, hv⟩⟩ := h.read register [0] hR
  simp only [RegisterBus.readByte, hrun, hrun']
  exact (Run.Sim.of_outcome outcome hv).map fun _ => buffer.headD 0

theorem detect (h : bus.Sim bus' R f) (hR : R w w') :
    Run.Sim R (AccessError.map f) (bus.detect w) (bus'.detect w') := by
  refine (h.write pageSelectRegister [0] hR).andThen fun _ _ _ hR => ?_
  refine (h.readByte deviceIdRegister hR).andThen fun deviceId _ _ hR => ?_
  refine (h.readByte revisionIdRegister hR).andThen fun revisionId _ _ hR => ?_
  by_cases hexpected : (⟨deviceId, revisionId⟩ : Identity) = Identity.expected
  · rw [if_pos hexpected, if_pos hexpected]
    exact .ok hR
  · rw [if_neg hexpected, if_neg hexpected]
    exact .error rfl hR

end RegisterBus.Sim

theorem SensorCall.sim_run (h : bus.Sim bus' R f) (call : SensorCall) (hR : R w w') :
    Run.Sim (Beside R) (AccessError.map f) (call.run bus w) (call.run bus' w') := by
  cases call with
  | readByte register =>
    exact ((h.readByte register hR).map _).mapWorld fun _ _ hR => .intro [] hR
  | writeByte register value =>
    exact ((h.write register [value] hR).map _).mapWorld fun _ _ hR => .intro [] hR
  | read register buffer => exact (h.read register buffer hR).map _
  | write register data =>
    exact ((h.write register data hR).map _).mapWorld fun _ _ hR => .intro [] hR
  | detect => exact ((h.detect hR).map _).mapWorld fun _ _ hR => .intro [] hR

namespace Endpoint

/-- The endpoints differ at most in their staging buffers, which `B` relates. -/
structure Alike (B : Bytes → Bytes → Prop) (endpoint endpoint' : Endpoint ρ) : Prop where
  staging : B endpoint.staging.bytes endpoint'.staging.bytes
  readiness : endpoint'.readiness = endpoint.readiness

variable {B : Bytes → Bytes → Prop}

theorem Alike.refl (hB : Piecewise B) (endpoint : Endpoint ρ) : Alike B endpoint endpoint :=
  ⟨hB.refl _, rfl⟩

theorem Alike.eq {endpoint endpoint' : Endpoint ρ} (h : Alike Eq endpoint endpoint') :
    endpoint' = endpoint := by
  obtain ⟨⟨bytes, hbytes⟩, readiness⟩ := endpoint
  obtain ⟨⟨_, hbytes'⟩, _⟩ := endpoint'
  obtain ⟨hstaging, hreadiness⟩ := h
  simp only at hstaging hreadiness
  subst hstaging hreadiness
  rfl

variable (bridge : Bridge ι ρ) {boundary : Boundary ω} {boundary' : Boundary ω'}

theorem couple_dispatch (hB : Piecewise B) (hbus : bus.Sim bus' R f)
    (hfills : bus.Fills bus' B R f) (hboundary : boundary.Sim boundary' R) (number : UInt32)
    (argument : UInt64) (waiter : ι) (cancelled : Bool) {endpoint endpoint' : Endpoint ρ}
    (halike : Alike B endpoint endpoint') (hR : R w w') :
    Run.Sim (fun p p' => Alike B p.1 p'.1 ∧ R p.2 p'.2) (RequestError.map f)
      (dispatch bridge bus boundary number argument waiter cancelled endpoint w)
      (dispatch bridge bus' boundary' number argument waiter cancelled endpoint' w') := by
  obtain ⟨hstaging, hreadiness⟩ := halike
  simp only [dispatch]
  cases Command.ofNumber number with
  | error refused => exact .error rfl ⟨⟨hstaging, hreadiness⟩, hR⟩
  | ok command =>
    cases command with
    | transfer =>
      have hcouple := couple_transfer hB hbus hfills hboundary argument hstaging hR
      refine (hcouple.map _).mapWorld ?_
      rintro ⟨staging, v⟩ ⟨staging', v'⟩ ⟨hstaging, hR⟩
      exact ⟨⟨hstaging, hreadiness⟩, hR⟩
    | waitForInterrupt =>
      simp only [waitForInterrupt, hreadiness]
      -- A wait has nothing to do with the bus.
      rcases bridge.pollOr .gate waiter (endpoint.readiness, cancelled) with
        ⟨_ | _ | _, _, readiness, _⟩
      · exact .ok ⟨⟨hstaging, rfl⟩, hR⟩
      · exact .error rfl ⟨⟨hstaging, rfl⟩, hR⟩
      · exact .ok ⟨⟨hstaging, rfl⟩, hR⟩

end Endpoint

namespace Operation

variable (bridge : Bridge ι ρ) {B : Bytes → Bytes → Prop}

theorem couple_run (hB : Piecewise B) (h : bus.Sim bus' R f) (hfills : bus.Fills bus' B R f)
    (boundary : Boundary μ) (operation : Operation μ ι) {endpoint endpoint' : Endpoint ρ}
    (halike : endpoint.Alike B endpoint') (hR : R w w') :
    ∃ answer next next' v v',
      operation.run bridge bus boundary (endpoint, w) = (answer, (next, v)) ∧
        operation.run bridge bus' boundary (endpoint', w') = (answer.mapError f, (next', v')) ∧
        next.Alike B next' ∧ R v v' := by
  cases operation with
  | sensor call =>
    obtain ⟨outcome, _, _, hrun, hrun', ⟨buffer, hv⟩⟩ := call.sim_run h hR
    simp only [run, hrun, hrun']
    exact ⟨.sensor outcome buffer, endpoint, endpoint', _, _, rfl, rfl, halike, hv⟩
  | command number argument memory waiter cancelled =>
    have hboth : (fun (p : ω × μ) (p' : ω' × μ) => R p.1 p'.1 ∧ p.2 = p'.2)
        (w, memory) (w', memory) := ⟨hR, rfl⟩
    obtain ⟨outcome, ⟨next, v, u⟩, ⟨next', v', u'⟩, hrun, hrun', hnext, hv, hmemory⟩ :=
      Endpoint.couple_dispatch bridge hB h.beside hfills.beside (boundary.sim_after R) number
        argument waiter cancelled halike hboth
    simp only at hnext hv hmemory
    subst hmemory
    simp only [run, hrun, hrun']
    exact ⟨.command outcome u, next, next', v, v', rfl, rfl, hnext, hv⟩

theorem sim_run (h : bus.Sim bus' R f) (boundary : Boundary μ) (operation : Operation μ ι)
    (endpoint : Endpoint ρ) (hR : R w w') :
    ∃ answer endpoint' v v',
      operation.run bridge bus boundary (endpoint, w) = (answer, (endpoint', v)) ∧
        operation.run bridge bus' boundary (endpoint, w') = (answer.mapError f, (endpoint', v')) ∧
        R v v' := by
  obtain ⟨answer, next, next', v, v', hrun, hrun', hnext, hv⟩ :=
    couple_run bridge piecewise_eq h h.fills boundary operation (.refl piecewise_eq endpoint) hR
  rw [hnext.eq] at hrun'
  exact ⟨answer, next, v, v', hrun, hrun', hv⟩

/-- Two buses that do the same call by call answer every run of operations alike. -/
theorem sim_runAll (h : bus.Sim bus' R f) (boundary : Boundary μ)
    (operations : List (Operation μ ι)) (endpoint : Endpoint ρ) (hR : R w w') :
    ∃ answers endpoint' v v',
      runAll bridge bus boundary operations (endpoint, w) = (answers, (endpoint', v)) ∧
        runAll bridge bus' boundary operations (endpoint, w')
          = (answers.map (Answer.mapError f), (endpoint', v')) ∧
        R v v' := by
  induction operations generalizing endpoint w w' with
  | nil => exact ⟨[], endpoint, w, w', rfl, rfl, hR⟩
  | cons operation operations ih =>
    obtain ⟨answer, endpoint, v, v', hrun, hrun', hv⟩ :=
      operation.sim_run bridge h boundary endpoint hR
    simp only [runAll, hrun, hrun', Answer.settled_mapError]
    by_cases hsettled : answer.Settled
    · obtain ⟨answers, endpoint, u, u', hrest, hrest', hu⟩ := ih endpoint hv
      rw [if_pos hsettled, if_pos hsettled, hrest, hrest']
      exact ⟨answer :: answers, endpoint, u, u', rfl, rfl, hu⟩
    · rw [if_neg hsettled, if_neg hsettled]
      exact ⟨[answer], endpoint, v, v', rfl, rfl, hv⟩

end Operation

end Simulation

end SensorLink

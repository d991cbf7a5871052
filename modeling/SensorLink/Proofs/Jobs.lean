/-
Everything that is done with a sensor.

Besides the operations of a host there are requests that are at hand without a record in
caller memory, and the interrupts of the sensor.  What holds of every run of these jobs
holds whatever is done with a sensor, in any order.

* `Job`, `Job.run`, `Job.runAll` — a job, and a run of them;
* `Job.sim_runAll` — buses that do the same call by call do the same job by job;
* `Job.runAll_keeps` — what every chunk call keeps, every run of jobs keeps;
* `Job.calls` — the chunk calls of a run of jobs;
* `Job.runAll_behaves` — over a bus that answers, these are within its reach;
* `Job.calls_of_sim` — buses that do the same are called alike.
-/
import SensorLink.Proofs.NoTraps

namespace SensorLink

variable {ω ω' ε ε' μ ι ρ : Type}

/-- What can be done with a sensor. -/
inductive Job (μ ι : Type) where
  | host (operation : Operation μ ι)
  /-- A request that is at hand, with the memory of its caller. -/
  | execute (request : Request) (memory : μ)
  /-- The sensor raises its data-ready flag. -/
  | interrupt

namespace Job

/-- The job did not end in a trap. -/
def Settled : Option (Answer μ ε) → Prop
  | none => True
  | some answer => answer.Settled

instance : (reply : Option (Answer μ ε)) → Decidable (Settled reply)
  | none => .isTrue trivial
  | some answer => inferInstanceAs (Decidable answer.Settled)

@[simp] theorem settled_map (f : ε → ε') (reply : Option (Answer μ ε)) :
    Settled (reply.map (Answer.mapError f)) ↔ Settled reply := by
  cases reply with
  | none => exact Iff.rfl
  | some answer => exact answer.settled_mapError f

theorem map_mapError_id (reply : Option (Answer μ ε)) : reply.map (Answer.mapError id) = reply := by
  cases reply with
  | none => rfl
  | some answer => exact congrArg some answer.mapError_id

theorem replies_mapError_id (replies : List (Option (Answer μ ε))) :
    replies.map (Option.map (Answer.mapError id)) = replies :=
  (List.map_congr_left fun reply _ => map_mapError_id reply).trans (List.map_id _)

/-- Does a job.  An interrupt is not answered. -/
def run (bridge : Bridge ι ρ) (bus : RegisterBus ω ε) (boundary : Boundary μ) :
    Job μ ι → Endpoint ρ × ω → Option (Answer μ ε) × (Endpoint ρ × ω)
  | .host operation, s =>
    match operation.run bridge bus boundary s with
    | (answer, s) => (some answer, s)
  | .execute request memory, (endpoint, w) =>
    match Endpoint.execute (bus.beside μ) (boundary.after ω) request endpoint.staging
        (w, memory) with
    | ⟨outcome, (staging, (w, memory))⟩ =>
      (some (.command (outcome.map fun _ => .done) memory), (⟨staging, endpoint.readiness⟩, w))
  | .interrupt, (endpoint, w) =>
    match bridge.notify endpoint.readiness with
    | (_, readiness) => (none, (⟨endpoint.staging, readiness⟩, w))

/-- Does jobs one after the other; nothing follows a trap. -/
def runAll (bridge : Bridge ι ρ) (bus : RegisterBus ω ε) (boundary : Boundary μ) :
    List (Job μ ι) → Endpoint ρ × ω → List (Option (Answer μ ε)) × (Endpoint ρ × ω)
  | [], s => ([], s)
  | job :: jobs, s =>
    match job.run bridge bus boundary s with
    | (reply, s) =>
      if Settled reply then
        match runAll bridge bus boundary jobs s with
        | (replies, s) => (reply :: replies, s)
      else ([reply], s)

/-! ### Buses that do the same -/

section Simulation

variable {R : ω → ω' → Prop} {f : ε → ε'} {bus : RegisterBus ω ε} {bus' : RegisterBus ω' ε'}
  {w : ω} {w' : ω'} (bridge : Bridge ι ρ)

theorem sim_run (h : bus.Sim bus' R f) (boundary : Boundary μ) (job : Job μ ι)
    (endpoint : Endpoint ρ) (hR : R w w') :
    ∃ reply endpoint' v v',
      job.run bridge bus boundary (endpoint, w) = (reply, (endpoint', v)) ∧
        job.run bridge bus' boundary (endpoint, w')
          = (reply.map (Answer.mapError f), (endpoint', v')) ∧
        R v v' := by
  cases job with
  | host operation =>
    obtain ⟨answer, endpoint', v, v', hrun, hrun', hv⟩ :=
      operation.sim_run bridge h boundary endpoint hR
    simp only [run, hrun, hrun']
    exact ⟨some answer, endpoint', v, v', rfl, rfl, hv⟩
  | execute request memory =>
    have hboth : (fun (p : ω × μ) (p' : ω' × μ) => R p.1 p'.1 ∧ p.2 = p'.2)
        (w, memory) (w', memory) := ⟨hR, rfl⟩
    obtain ⟨outcome, _, _, hrun, hrun', ⟨staging, hpair⟩⟩ :=
      Endpoint.sim_execute h.beside (boundary.sim_after R) request endpoint.staging hboth
    rename_i p p'
    obtain ⟨v, memory'⟩ := p
    obtain ⟨v', _⟩ := p'
    obtain ⟨hv, rfl⟩ := hpair
    simp only [run, hrun, hrun']
    refine ⟨some (.command (outcome.map fun _ => .done) memory'), _, v, v', rfl, ?_, hv⟩
    cases outcome <;> rfl
  | interrupt => exact ⟨none, _, w, w', rfl, rfl, hR⟩

/-- Two buses that do the same call by call answer every run of jobs alike. -/
theorem sim_runAll (h : bus.Sim bus' R f) (boundary : Boundary μ) (jobs : List (Job μ ι))
    (endpoint : Endpoint ρ) (hR : R w w') :
    ∃ replies endpoint' v v',
      runAll bridge bus boundary jobs (endpoint, w) = (replies, (endpoint', v)) ∧
        runAll bridge bus' boundary jobs (endpoint, w')
          = (replies.map (Option.map (Answer.mapError f)), (endpoint', v')) ∧
        R v v' := by
  induction jobs generalizing endpoint w w' with
  | nil => exact ⟨[], endpoint, w, w', rfl, rfl, hR⟩
  | cons job jobs ih =>
    obtain ⟨reply, endpoint, v, v', hrun, hrun', hv⟩ := job.sim_run bridge h boundary endpoint hR
    simp only [runAll, hrun, hrun', settled_map]
    by_cases hsettled : Settled reply
    · obtain ⟨replies, endpoint, u, u', hrest, hrest', hu⟩ := ih endpoint hv
      rw [if_pos hsettled, if_pos hsettled, hrest, hrest']
      exact ⟨reply :: replies, endpoint, u, u', rfl, rfl, hu⟩
    · rw [if_neg hsettled, if_neg hsettled]
      exact ⟨[reply], endpoint, v, v', rfl, rfl, hv⟩

end Simulation

end Job

/-! ### What chunk calls keep -/

/-- Every chunk call keeps `Inv`. -/
structure RegisterBus.Invariant (bus : RegisterBus ω ε) (Inv : ω → Prop) : Prop where
  readChunk : ∀ register buffer w, Inv w → Inv (bus.readChunk register buffer w).world.2
  writeChunk : ∀ register data w, Inv w → Inv (bus.writeChunk register data w).world

/-- A bus with an invariant does what it does, and keeps the invariant. -/
theorem RegisterBus.Invariant.sim {bus : RegisterBus ω ε} {Inv : ω → Prop}
    (h : bus.Invariant Inv) : bus.Sim bus (fun w w' => w = w' ∧ Inv w) id where
  chunkSize := by
    rintro w _ ⟨rfl, _⟩
    rfl
  addressLimit := by
    rintro w _ ⟨rfl, _⟩
    rfl
  readChunk := by
    rintro register buffer w _ ⟨rfl, hw⟩
    exact .of_eq rfl (.intro _ ⟨rfl, h.readChunk register buffer w hw⟩)
  writeChunk := by
    rintro register data w _ ⟨rfl, hw⟩
    exact .of_eq rfl ⟨rfl, h.writeChunk register data w hw⟩

namespace Job

variable {bus : RegisterBus ω ε} {w : ω} (bridge : Bridge ι ρ)

/-- What every chunk call keeps, every run of jobs keeps. -/
theorem runAll_keeps {Inv : ω → Prop} (h : bus.Invariant Inv) (boundary : Boundary μ)
    (jobs : List (Job μ ι)) (endpoint : Endpoint ρ) (hw : Inv w) :
    Inv (runAll bridge bus boundary jobs (endpoint, w)).2.2 := by
  obtain ⟨_, _, _, _, hrun, _, _, hv⟩ :=
    sim_runAll bridge h.sim boundary jobs endpoint (w := w) ⟨rfl, hw⟩
  rw [hrun]
  exact hv

/-! ### The chunk calls of jobs -/

/-- The chunk calls of a run of jobs, in order. -/
def calls (boundary : Boundary μ) (bus : RegisterBus ω ε) (jobs : List (Job μ ι))
    (endpoint : Endpoint ρ) (w : ω) : List (BusCall ε) :=
  Event.busCalls (runAll bridge bus.traced boundary jobs (endpoint, (w, []))).2.2.2

theorem run_behaves (h : bus.Answers) (hchunk : 0 < bus.chunkSize w)
    (hspace : bus.addressLimit w ≤ registerSpace) (boundary : Boundary μ) (job : Job μ ι)
    (endpoint : Endpoint ρ) (log : List (Event ε)) :
    ∃ reply endpoint' v calls,
      job.run bridge bus.traced boundary (endpoint, (w, log))
          = (reply, (endpoint', (v, log ++ calls.map .bus))) ∧
        Settled reply ∧ bus.Behaves w calls v := by
  cases job with
  | host operation =>
    obtain ⟨answer, endpoint', v, calls, hrun, hsettled, hbehaves⟩ :=
      operation.run_behaves bridge boundary h hchunk hspace endpoint log
    simp only [run, hrun]
    exact ⟨some answer, endpoint', v, calls, rfl, hsettled, hbehaves⟩
  | execute request memory =>
    obtain ⟨outcome, staging, v, memory', calls, hrun, hcarried⟩ :=
      Endpoint.execute_carried boundary h hchunk hspace request endpoint.staging memory log
    simp only [run, hrun]
    exact ⟨_, _, v, calls, rfl, (Outcome.settled_map ..).mpr hcarried.settled, hcarried.behaves⟩
  | interrupt =>
    refine ⟨none, ⟨endpoint.staging, (bridge.notify endpoint.readiness).2⟩, w, [], ?_, trivial,
      .refl ..⟩
    rw [run, List.map_nil, List.append_nil]

/-- Jobs are done to the last one. -/
theorem runAll_behaves (h : bus.Answers) (hchunk : 0 < bus.chunkSize w)
    (hspace : bus.addressLimit w ≤ registerSpace) (boundary : Boundary μ) (jobs : List (Job μ ι))
    (endpoint : Endpoint ρ) (log : List (Event ε)) :
    ∃ replies endpoint' v calls,
      runAll bridge bus.traced boundary jobs (endpoint, (w, log))
          = (replies, (endpoint', (v, log ++ calls.map .bus))) ∧
        replies.length = jobs.length ∧ bus.Behaves w calls v := by
  induction jobs generalizing endpoint w log with
  | nil =>
    refine ⟨[], endpoint, w, [], ?_, rfl, .refl ..⟩
    rw [runAll, List.map_nil, List.append_nil]
  | cons job jobs ih =>
    obtain ⟨reply, endpoint, v, calls, hrun, hsettled, hbehaves⟩ :=
      job.run_behaves bridge h hchunk hspace boundary endpoint log
    obtain ⟨replies, endpoint, u, more, hrest, hlength, hbehaves'⟩ :=
      ih (hbehaves.keeps.chunkSize ▸ hchunk) (hbehaves.keeps.addressLimit ▸ hspace) endpoint
        (log ++ calls.map .bus)
    refine ⟨reply :: replies, endpoint, u, calls ++ more, ?_, ?_, hbehaves.append hbehaves'⟩
    · simp only [runAll, hrun, if_pos hsettled, hrest, List.append_assoc, List.map_append]
    · rw [List.length_cons, List.length_cons, hlength]

/-- The calls of jobs over a bus that answers are within its reach. -/
theorem reaches_of_mem_calls (h : bus.Answers) (hchunk : 0 < bus.chunkSize w)
    (hspace : bus.addressLimit w ≤ registerSpace) (boundary : Boundary μ) (jobs : List (Job μ ι))
    (endpoint : Endpoint ρ) {call : BusCall ε}
    (hmem : call ∈ calls bridge boundary bus jobs endpoint w) :
    bus.Reaches call.register call.length w := by
  obtain ⟨_, _, _, made, hrun, _, hbehaves⟩ :=
    runAll_behaves bridge h hchunk hspace boundary jobs endpoint []
  rw [calls, hrun, List.nil_append, Event.busCalls_map_bus] at hmem
  exact hbehaves.reaches call hmem

/-- A recorder changes no reply, no endpoint and no world. -/
theorem runAll_traced (boundary : Boundary μ) (bus : RegisterBus ω ε) (jobs : List (Job μ ι))
    (endpoint : Endpoint ρ) (w : ω) :
    ∃ log, runAll bridge bus.traced boundary jobs (endpoint, (w, []))
      = ((runAll bridge bus boundary jobs (endpoint, w)).1,
          ((runAll bridge bus boundary jobs (endpoint, w)).2.1,
            ((runAll bridge bus boundary jobs (endpoint, w)).2.2, log))) := by
  obtain ⟨replies, endpoint', v, ⟨_, log⟩, hrun, hrun', rfl⟩ :=
    sim_runAll bridge bus.sim_traced boundary jobs endpoint (show Recorded w (w, []) from rfl)
  rw [replies_mapError_id] at hrun'
  rw [hrun, hrun']
  exact ⟨log, rfl⟩

end Job

/-! ### Calls with other errors -/

/-- The call with `f` applied to its error. -/
def BusCall.mapError (f : ε → ε') (call : BusCall ε) : BusCall ε' :=
  ⟨call.direction, call.register, call.bytes, call.outcome.mapError f⟩

theorem BusCall.calls_mapError_id (calls : List (BusCall ε)) :
    calls.map (BusCall.mapError id) = calls := by
  refine (List.map_congr_left fun call _ => ?_).trans (List.map_id _)
  rw [mapError, Outcome.mapError_eq_self (f := id) fun _ => rfl]
  rfl

/-- Recorders beside related worlds that have noted the same calls. -/
def SameCalls (R : ω → ω' → Prop) (f : ε → ε') (p : ω × List (Event ε))
    (p' : ω' × List (Event ε')) : Prop :=
  R p.1 p'.1 ∧ Event.busCalls p'.2 = (Event.busCalls p.2).map (BusCall.mapError f)

/-- Recorders of two buses that do the same note the same calls. -/
theorem RegisterBus.Sim.traced {R : ω → ω' → Prop} {f : ε → ε'} {bus : RegisterBus ω ε}
    {bus' : RegisterBus ω' ε'} (h : bus.Sim bus' R f) :
    bus.traced.Sim bus'.traced (SameCalls R f) f where
  chunkSize p p' hp := h.chunkSize p.1 p'.1 hp.1
  addressLimit p p' hp := h.addressLimit p.1 p'.1 hp.1
  readChunk := by
    rintro register buffer ⟨w, log⟩ ⟨w', log'⟩ ⟨hR, hlog⟩
    obtain ⟨outcome, _, _, hrun, hrun', ⟨filled, hv⟩⟩ := h.readChunk register buffer w w' hR
    simp only [RegisterBus.traced, hrun, hrun']
    refine .of_outcome outcome (.intro filled ⟨hv, ?_⟩)
    simp only [Event.busCalls_append, hlog, List.map_append]
    rfl
  writeChunk := by
    rintro register data ⟨w, log⟩ ⟨w', log'⟩ ⟨hR, hlog⟩
    obtain ⟨outcome, v, v', hrun, hrun', hv⟩ := h.writeChunk register data w w' hR
    simp only [RegisterBus.traced, hrun, hrun']
    refine .of_outcome outcome ⟨hv, ?_⟩
    simp only [Event.busCalls_append, hlog, List.map_append]
    rfl

/-- Two buses that do the same are called alike by every run of jobs. -/
theorem Job.calls_of_sim {R : ω → ω' → Prop} {f : ε → ε'}
    {bus : RegisterBus ω ε} {bus' : RegisterBus ω' ε'} {w : ω} {w' : ω'} (h : bus.Sim bus' R f)
    (bridge : Bridge ι ρ) (boundary : Boundary μ) (jobs : List (Job μ ι)) (endpoint : Endpoint ρ)
    (hR : R w w') :
    calls bridge boundary bus' jobs endpoint w'
      = (calls bridge boundary bus jobs endpoint w).map (BusCall.mapError f) := by
  have hstart : SameCalls R f (w, []) (w', []) := ⟨hR, rfl⟩
  obtain ⟨_, _, v, v', hrun, hrun', _, hcalls⟩ :=
    sim_runAll bridge h.traced boundary jobs endpoint hstart
  rw [calls, calls, hrun, hrun']
  exact hcalls

end SensorLink

/-
No operation ends in a trap.

Whatever a host asks for, and whatever fails, each operation ends in a value or an error,
as long as the chunk calls within reach of the bus do.  No contract between the layers
is ever broken: chunks fit, addresses and offsets do not overflow, and every access is
inside of the registers, the staging buffers or the memory window it is made on.

* `Operation.calls` — the chunk calls of a run of operations;
* `run_behaves`, `runAll_behaves` — one operation, and a run of them, with their calls;
* `RegisterBus.Safe` — what a host can rely on; `TwoWireLink.safe`, `FourWireLink.safe`,
  `Binding.safe` — over the links;
* `no_operation_traps` — every bus that answers is safe: links, bindings and simulated
  sensors.
-/
import SensorLink.Proofs.Control.Answering
import SensorLink.Proofs.Operations
import SensorLink.Proofs.Wire.Answering

namespace SensorLink

variable {ω ε δ μ ι ρ α β : Type} {bus : RegisterBus ω ε} {w : ω}

/-! ### Calls on a sensor -/

/-- The run ends in a value or an error, by calls within reach. -/
def RegisterBus.Settles (bus : RegisterBus ω ε) (w : ω) (log : List (Event ε))
    (run : Run (ω × List (Event ε)) δ α) : Prop :=
  run.outcome.Settled ∧
    ∃ v calls, run.world = (v, log ++ calls.map .bus) ∧ bus.Behaves w calls v

namespace RegisterBus.Settles

variable {log : List (Event ε)} {run : Run (ω × List (Event ε)) δ α}

theorem map (h : bus.Settles w log run) (f : α → β) : bus.Settles w log (run.map f) :=
  ⟨(Outcome.settled_map ..).mpr h.1, h.2⟩

theorem andThen (h : bus.Settles w log run)
    {next : α → ω × List (Event ε) → Run (ω × List (Event ε)) δ β}
    (hnext : ∀ a v log, bus.Keeps (fun _ => False) w v → bus.Settles v log (next a (v, log))) :
    bus.Settles w log (run.andThen next) := by
  obtain ⟨outcome, p⟩ := run
  obtain ⟨hsettled, v, calls, rfl, hbehaves⟩ := h
  cases outcome with
  | ok a =>
    obtain ⟨hsettled, u, more, hworld, hbehaves'⟩ :=
      hnext a v (log ++ calls.map .bus) hbehaves.keeps
    refine ⟨hsettled, u, calls ++ more, ?_, hbehaves.append hbehaves'⟩
    rw [Run.andThen_ok, hworld, List.append_assoc, List.map_append]
  | error e => exact ⟨trivial, v, calls, rfl, hbehaves⟩
  | trap t => exact absurd hsettled (Outcome.not_settled_trap t)

end RegisterBus.Settles

namespace RegisterBus.Answers

theorem read_settles (h : bus.Answers) (hchunk : 0 < bus.chunkSize w)
    (hspace : bus.addressLimit w ≤ registerSpace) (register : UInt16) (buffer : Bytes)
    (log : List (Event ε)) :
    ∃ outcome filled v calls, bus.traced.read register buffer (w, log)
        = ⟨outcome, (filled, (v, log ++ calls.map .bus))⟩ ∧
      outcome.Settled ∧ bus.Behaves w calls v := by
  obtain ⟨outcome, filled, v, calls, hrun, hcarried, _⟩ :=
    h.access_carried .read register buffer w log hchunk hspace
  exact ⟨outcome, filled, v, calls, hrun, hcarried.settled, hcarried.behaves⟩

theorem readByte_settles (h : bus.Answers) (hchunk : 0 < bus.chunkSize w)
    (hspace : bus.addressLimit w ≤ registerSpace) (register : UInt16) (log : List (Event ε)) :
    bus.Settles w log (bus.traced.readByte register (w, log)) := by
  obtain ⟨outcome, filled, v, calls, hrun, hsettled, hbehaves⟩ :=
    h.read_settles hchunk hspace register [0] log
  rw [readByte, hrun]
  exact ⟨(Outcome.settled_map ..).mpr hsettled, v, calls, rfl, hbehaves⟩

theorem write_settles (h : bus.Answers) (hchunk : 0 < bus.chunkSize w)
    (hspace : bus.addressLimit w ≤ registerSpace) (register : UInt16) (data : Bytes)
    (log : List (Event ε)) : bus.Settles w log (bus.traced.write register data (w, log)) := by
  obtain ⟨outcome, filled, v, calls, hrun, hcarried, _⟩ :=
    h.access_carried .write register data w log hchunk hspace
  have houtcome : (bus.traced.write register data (w, log)).outcome = outcome :=
    congrArg Run.outcome hrun
  exact ⟨houtcome ▸ hcarried.settled, v, calls, congrArg (fun run => run.world.2) hrun,
    hcarried.behaves⟩

theorem detect_settles (h : bus.Answers) (hchunk : 0 < bus.chunkSize w)
    (hspace : bus.addressLimit w ≤ registerSpace) (log : List (Event ε)) :
    bus.Settles w log (bus.traced.detect (w, log)) := by
  refine (h.write_settles hchunk hspace pageSelectRegister [0] log).andThen
    fun _ v log hkeeps => ?_
  have hchunk : 0 < bus.chunkSize v := hkeeps.chunkSize ▸ hchunk
  have hspace : bus.addressLimit v ≤ registerSpace := hkeeps.addressLimit ▸ hspace
  refine (h.readByte_settles hchunk hspace deviceIdRegister log).andThen
    fun deviceId u log hkeeps => ?_
  have hchunk : 0 < bus.chunkSize u := hkeeps.chunkSize ▸ hchunk
  have hspace : bus.addressLimit u ≤ registerSpace := hkeeps.addressLimit ▸ hspace
  refine (h.readByte_settles hchunk hspace revisionIdRegister log).andThen
    fun revisionId v log _ => ?_
  have hnone : (v, log) = (v, log ++ ([] : List (BusCall ε)).map .bus) := by
    rw [List.map_nil, List.append_nil]
  by_cases hexpected : (⟨deviceId, revisionId⟩ : Identity) = Identity.expected
  · rw [if_pos hexpected]
    exact ⟨trivial, v, [], hnone, .refl ..⟩
  · rw [if_neg hexpected]
    exact ⟨trivial, v, [], hnone, .refl ..⟩

end RegisterBus.Answers

theorem SensorCall.run_settles (h : bus.Answers) (hchunk : 0 < bus.chunkSize w)
    (hspace : bus.addressLimit w ≤ registerSpace) (call : SensorCall) (log : List (Event ε)) :
    ∃ outcome buffer v calls,
      call.run bus.traced (w, log) = ⟨outcome, (buffer, (v, log ++ calls.map .bus))⟩ ∧
        outcome.Settled ∧ bus.Behaves w calls v := by
  -- Every call but a read gives back no buffer.
  have hplain : ∀ run : Run (ω × List (Event ε)) (AccessError ε) SensorValue,
      bus.Settles w log run → ∃ outcome buffer v calls,
        run.mapWorld (([] : Bytes), ·) = ⟨outcome, (buffer, (v, log ++ calls.map .bus))⟩ ∧
          outcome.Settled ∧ bus.Behaves w calls v := by
    rintro ⟨outcome, p⟩ ⟨hsettled, v, calls, rfl, hbehaves⟩
    exact ⟨outcome, [], v, calls, rfl, hsettled, hbehaves⟩
  cases call with
  | readByte register => exact hplain _ ((h.readByte_settles hchunk hspace register log).map _)
  | writeByte register value =>
    exact hplain _ ((h.write_settles hchunk hspace register [value] log).map _)
  | read register buffer =>
    obtain ⟨outcome, filled, v, calls, hrun, hsettled, hbehaves⟩ :=
      h.read_settles hchunk hspace register buffer log
    rw [run, hrun]
    exact ⟨_, filled, v, calls, rfl, (Outcome.settled_map ..).mpr hsettled, hbehaves⟩
  | write register data =>
    exact hplain _ ((h.write_settles hchunk hspace register data log).map _)
  | detect => exact hplain _ ((h.detect_settles hchunk hspace log).map _)

/-! ### Commands -/

namespace Endpoint

/-- The chunk calls of a request. -/
def busCalls (bus : RegisterBus ω ε) (boundary : Boundary μ) (request : Request)
    (staging : Staging) (w : ω) (memory : μ) : List (BusCall ε) :=
  Event.busCalls (execute (bus.traced.beside μ) (boundary.after (ω × List (Event ε))) request
    staging ((w, []), memory)).world.2.1.2

theorem transfer_settles (h : bus.Answers) (hchunk : 0 < bus.chunkSize w)
    (hspace : bus.addressLimit w ≤ registerSpace) (boundary : Boundary μ) (address : UInt64)
    (staging : Staging) (u : μ) (log : List (Event ε)) :
    ∃ outcome staging' v u' calls,
      transfer (bus.traced.beside μ) (boundary.after (ω × List (Event ε))) address staging
          ((w, log), u) = ⟨outcome, (staging', ((v, log ++ calls.map .bus), u'))⟩ ∧
        outcome.Settled ∧ bus.Behaves w calls v := by
  obtain ⟨⟨answer, u'⟩, hcopy⟩ : ∃ run, boundary.copyIn address Request.recordLength u = run :=
    ⟨_, rfl⟩
  simp only [transfer, Boundary.copyIn_after hcopy]
  cases answer with
  | error e =>
    refine ⟨.error (.record e), staging, w, u', [], ?_, trivial, .refl ..⟩
    simp only [List.map_nil, List.append_nil]
  | ok record =>
    obtain ⟨outcome, staging', v, u'', calls, hrun, hcarried⟩ :=
      execute_carried boundary h hchunk hspace (Request.decode record) staging u' log
    exact ⟨outcome, staging', v, u'', calls, hrun, hcarried.settled, hcarried.behaves⟩

theorem dispatch_settles (bridge : Bridge ι ρ) (h : bus.Answers) (hchunk : 0 < bus.chunkSize w)
    (hspace : bus.addressLimit w ≤ registerSpace) (boundary : Boundary μ) (number : UInt32)
    (argument : UInt64) (waiter : ι) (cancelled : Bool) (endpoint : Endpoint ρ) (u : μ)
    (log : List (Event ε)) :
    ∃ outcome endpoint' v u' calls,
      dispatch bridge (bus.traced.beside μ) (boundary.after (ω × List (Event ε))) number argument
          waiter cancelled endpoint ((w, log), u)
          = ⟨outcome, (endpoint', ((v, log ++ calls.map .bus), u'))⟩ ∧
        outcome.Settled ∧ bus.Behaves w calls v := by
  have hnone : ((w, log), u) = ((w, log ++ ([] : List (BusCall ε)).map .bus), u) := by
    rw [List.map_nil, List.append_nil]
  simp only [dispatch]
  cases Command.ofNumber number with
  | error refused =>
    exact ⟨.error (.unknownCommand refused), endpoint, w, u, [], congrArg _ (congrArg _ hnone),
      trivial, .refl ..⟩
  | ok command =>
    cases command with
    | transfer =>
      obtain ⟨outcome, staging', v, u', calls, hrun, hsettled, hbehaves⟩ :=
        transfer_settles h hchunk hspace boundary argument endpoint.staging u log
      simp only [hrun]
      exact ⟨_, _, v, u', calls, rfl, (Outcome.settled_map ..).mpr hsettled, hbehaves⟩
    | waitForInterrupt =>
      simp only [waitForInterrupt]
      rcases bridge.pollOr .gate waiter (endpoint.readiness, cancelled)
        with ⟨_ | _ | _, _, readiness, _⟩
      · exact ⟨.ok .done, _, w, u, [], congrArg _ (congrArg _ hnone), trivial, .refl ..⟩
      · exact ⟨.error .interrupted, _, w, u, [], congrArg _ (congrArg _ hnone), trivial, .refl ..⟩
      · exact ⟨.ok .pending, _, w, u, [], congrArg _ (congrArg _ hnone), trivial, .refl ..⟩

end Endpoint

/-! ### Operations -/

namespace Operation

variable (bridge : Bridge ι ρ) (boundary : Boundary μ)

/-- The chunk calls of a run of operations, in order. -/
def calls (bus : RegisterBus ω ε) (operations : List (Operation μ ι)) (endpoint : Endpoint ρ)
    (w : ω) : List (BusCall ε) :=
  Event.busCalls (runAll bridge bus.traced boundary operations (endpoint, (w, []))).2.2.2

theorem run_behaves (h : bus.Answers) (hchunk : 0 < bus.chunkSize w)
    (hspace : bus.addressLimit w ≤ registerSpace) (operation : Operation μ ι)
    (endpoint : Endpoint ρ) (log : List (Event ε)) :
    ∃ answer endpoint' v calls,
      operation.run bridge bus.traced boundary (endpoint, (w, log))
          = (answer, (endpoint', (v, log ++ calls.map .bus))) ∧
        answer.Settled ∧ bus.Behaves w calls v := by
  cases operation with
  | sensor call =>
    obtain ⟨outcome, buffer, v, calls, hrun, hsettled, hbehaves⟩ :=
      call.run_settles h hchunk hspace log
    simp only [run, hrun]
    exact ⟨.sensor outcome buffer, endpoint, v, calls, rfl, hsettled, hbehaves⟩
  | command number argument memory waiter cancelled =>
    obtain ⟨outcome, endpoint', v, u, calls, hrun, hsettled, hbehaves⟩ :=
      Endpoint.dispatch_settles bridge h hchunk hspace boundary number argument waiter cancelled
        endpoint memory log
    simp only [run, hrun]
    exact ⟨.command outcome u, endpoint', v, calls, rfl, hsettled, hbehaves⟩

/-- Operations are carried out to the last one. -/
theorem runAll_behaves (h : bus.Answers) (hchunk : 0 < bus.chunkSize w)
    (hspace : bus.addressLimit w ≤ registerSpace) (operations : List (Operation μ ι))
    (endpoint : Endpoint ρ) (log : List (Event ε)) :
    ∃ answers endpoint' v calls,
      runAll bridge bus.traced boundary operations (endpoint, (w, log))
          = (answers, (endpoint', (v, log ++ calls.map .bus))) ∧
        answers.length = operations.length ∧ (∀ answer ∈ answers, answer.Settled) ∧
        bus.Behaves w calls v := by
  induction operations generalizing endpoint w log with
  | nil =>
    refine ⟨[], endpoint, w, [], ?_, rfl, fun _ hmem => absurd hmem List.not_mem_nil, .refl ..⟩
    rw [runAll, List.map_nil, List.append_nil]
  | cons operation operations ih =>
    obtain ⟨answer, endpoint, v, calls, hrun, hsettled, hbehaves⟩ :=
      operation.run_behaves bridge boundary h hchunk hspace endpoint log
    obtain ⟨answers, endpoint, u, more, hrest, hlength, hall, hbehaves'⟩ :=
      ih (hbehaves.keeps.chunkSize ▸ hchunk) (hbehaves.keeps.addressLimit ▸ hspace) endpoint
        (log ++ calls.map .bus)
    refine ⟨answer :: answers, endpoint, u, calls ++ more, ?_, ?_,
      List.forall_mem_cons.mpr ⟨hsettled, hall⟩, hbehaves.append hbehaves'⟩
    · simp only [runAll, hrun, if_pos hsettled, hrest, List.append_assoc, List.map_append]
    · rw [List.length_cons, List.length_cons, hlength]

/-- A recorder changes no answer and no world. -/
theorem runAll_traced (bus : RegisterBus ω ε) (operations : List (Operation μ ι))
    (endpoint : Endpoint ρ) (w : ω) :
    (runAll bridge bus boundary operations (endpoint, w)).1
        = (runAll bridge bus.traced boundary operations (endpoint, (w, []))).1 ∧
      (runAll bridge bus boundary operations (endpoint, w)).2.2
        = (runAll bridge bus.traced boundary operations (endpoint, (w, []))).2.2.1 := by
  obtain ⟨answers, endpoint', v, v', hrun, hrun', hv⟩ :=
    sim_runAll bridge bus.sim_traced boundary operations endpoint (show Recorded w (w, []) from rfl)
  rw [hrun, hrun', List.map_congr_left (fun answer _ => answer.mapError_id), List.map_id']
  exact ⟨rfl, hv.symm⟩

end Operation

/-- What a host can rely on, whatever it asks for: every operation is carried out to a
value or an error, and all chunk calls are within reach of the bus.  After any run of
operations, the calls of an access and of a request go through their registers, counted
in exact integers, without gap or overlap. -/
structure RegisterBus.Safe (bus : RegisterBus ω ε) (bridge : Bridge ι ρ) (boundary : Boundary μ)
    (w : ω) (operations : List (Operation μ ι)) (endpoint : Endpoint ρ) : Prop where
  length_eq :
    (Operation.runAll bridge bus boundary operations (endpoint, w)).1.length = operations.length
  settled :
    ∀ answer ∈ (Operation.runAll bridge bus boundary operations (endpoint, w)).1, answer.Settled
  reaches : ∀ call ∈ Operation.calls bridge boundary bus operations endpoint w,
    0 < call.length ∧ call.length ≤ bus.chunkSize w ∧
      call.register.toNat + call.length ≤ bus.addressLimit w
  access : ∀ direction register bytes,
    let v := (Operation.runAll bridge bus boundary operations (endpoint, w)).2.2
    ∃ reached, reached ≤ bytes.length ∧
      Contiguous direction register.toNat (bus.calls direction register bytes v)
        (register.toNat + reached)
  request : ∀ request staging memory,
    let v := (Operation.runAll bridge bus boundary operations (endpoint, w)).2.2
    ∃ reached, reached ≤ request.length.toNat ∧
      Contiguous request.direction request.register.toNat
        (Endpoint.busCalls bus boundary request staging v memory)
        (request.register.toNat + reached)

theorem RegisterBus.Answers.safe (bridge : Bridge ι ρ) (h : bus.Answers)
    (hchunk : 0 < bus.chunkSize w) (hspace : bus.addressLimit w ≤ registerSpace)
    (boundary : Boundary μ) (operations : List (Operation μ ι)) (endpoint : Endpoint ρ) :
    bus.Safe bridge boundary w operations endpoint := by
  obtain ⟨answers, endpoint', v, calls, hrun, hlength, hsettled, hbehaves⟩ :=
    Operation.runAll_behaves bridge boundary h hchunk hspace operations endpoint []
  obtain ⟨hanswers, hworld⟩ := Operation.runAll_traced bridge boundary bus operations endpoint w
  rw [hrun] at hanswers hworld
  have hcalls : Operation.calls bridge boundary bus operations endpoint w = calls := by
    rw [Operation.calls, hrun, List.nil_append, Event.busCalls_map_bus]
  have hchunk' : 0 < bus.chunkSize v := hbehaves.keeps.chunkSize ▸ hchunk
  have hspace' : bus.addressLimit v ≤ registerSpace := hbehaves.keeps.addressLimit ▸ hspace
  constructor
  case length_eq => rw [hanswers, hlength]
  case settled =>
    rw [hanswers]
    exact hsettled
  case reaches =>
    intro call hmem
    obtain ⟨hpos, hsize, hlimit⟩ := hbehaves.reaches call (hcalls ▸ hmem)
    exact ⟨hpos, hsize, hlimit⟩
  case access =>
    intro direction register bytes
    rw [hworld]
    obtain ⟨outcome, filled, u, calls, hrun, hcarried, _⟩ :=
      h.access_carried direction register bytes v [] hchunk' hspace'
    obtain ⟨reached, hcalls, hle, _⟩ := hcarried.contiguous
    refine ⟨reached, hle, ?_⟩
    rw [RegisterBus.calls, hrun, List.nil_append, Event.busCalls_map_bus]
    exact hcalls
  case request =>
    intro request staging memory
    rw [hworld]
    obtain ⟨outcome, staging', u, memory', calls, hrun, hcarried⟩ :=
      Endpoint.execute_carried boundary h hchunk' hspace' request staging memory []
    obtain ⟨reached, hcalls, hle, _⟩ := hcarried.contiguous
    refine ⟨reached, hle, ?_⟩
    rw [Endpoint.busCalls, hrun, List.nil_append, Event.busCalls_map_bus]
    exact hcalls

section Links

variable {σ τ η ζ : Type} {twoWire : TwoWireBus σ η} {fourWire : FourWireBus τ ζ}
  (bridge : Bridge ι ρ) (boundary : Boundary μ) (operations : List (Operation μ ι))
  (endpoint : Endpoint ρ)

theorem TwoWireLink.safe (h : twoWire.Answers) (link : TwoWireLink σ) :
    (registerBus twoWire).Safe bridge boundary link operations endpoint :=
  (answers_registerBus h).safe bridge (show 0 < twoWireChunkSize by decide) (Nat.le_refl _)
    boundary operations endpoint

theorem FourWireLink.safe (h : fourWire.Answers) (link : FourWireLink τ) :
    (registerBus fourWire).Safe bridge boundary link operations endpoint :=
  (answers_registerBus h).safe bridge (show 0 < fourWireChunkSize by decide)
    (show fourWireSpace ≤ registerSpace by decide) boundary operations endpoint

theorem Binding.safe (htwo : twoWire.Answers) (hfour : fourWire.Answers)
    (binding : Binding (TwoWireLink σ) (FourWireLink τ)) :
    (registerBus (TwoWireLink.registerBus twoWire) (FourWireLink.registerBus fourWire)).Safe
      bridge boundary binding operations endpoint := by
  have hanswers := answers_registerBus (TwoWireLink.answers_registerBus htwo)
    (FourWireLink.answers_registerBus hfour)
  cases binding with
  | twoWire link =>
    exact hanswers.safe bridge (w := Binding.twoWire link) (show 0 < twoWireChunkSize by decide)
      (Nat.le_refl _) boundary operations endpoint
  | fourWire link =>
    exact hanswers.safe bridge (w := Binding.fourWire link) (show 0 < fourWireChunkSize by decide)
      (show fourWireSpace ≤ registerSpace by decide) boundary operations endpoint

end Links

/-- The pieces of a transfer inside of the register space have registers of their own, counted
without wrapping. -/
theorem Span.registerAt_of_mem_split {register : UInt16} {size total : Nat} (hsize : 0 < size)
    (hspace : register.toNat + total ≤ registerSpace) {piece : Span}
    (hmem : piece ∈ split size total) :
    ∃ target, registerAt register piece.offset = some target ∧
      target.toNat = register.toNat + piece.offset ∧ 0 < piece.length ∧ piece.length ≤ size := by
  obtain ⟨k, hget⟩ := List.mem_iff_getElem?.mp hmem
  obtain ⟨rfl, hlt⟩ := getElem?_split hsize hget
  obtain ⟨target, htarget, hnat⟩ :=
    RegisterBus.Serves.registerAt_piece register (k * size)
      (show register.toNat + k * size < registerSpace by omega) (Nat.le_refl _)
  exact ⟨target, htarget, hnat, by simp only; omega, Nat.min_le_left ..⟩

/-- No operation ends in a trap, over any bus whose chunk calls within reach do not: over
links with two and with four wires, over a binding of both, and over simulated sensors
behind any schedule of faults, whose register files are never left.  Four-wire addresses
leave the direction bit clear, and the pieces of a transfer have exact addresses.  Nor does a
copy of a memory window trap, wherever the window is and however long: the ranges that it
accepts end in its bytes. -/
theorem no_operation_traps (bridge : Bridge ι ρ) (h : bus.Answers)
    (hchunk : 0 < bus.chunkSize w) (hspace : bus.addressLimit w ≤ registerSpace)
    (boundary : Boundary μ) (operations : List (Operation μ ι)) (endpoint : Endpoint ρ) :
    bus.Safe bridge boundary w operations endpoint ∧
      (∀ (σ η : Type) (controller : TwoWireBus σ η), controller.Answers → ∀ link,
        (TwoWireLink.registerBus controller).Safe bridge boundary link operations endpoint) ∧
      (∀ (σ η : Type) (controller : FourWireBus σ η), controller.Answers → ∀ link,
        (FourWireLink.registerBus controller).Safe bridge boundary link operations endpoint ∧
          ∀ call ∈ Operation.calls bridge boundary (FourWireLink.registerBus controller)
            operations endpoint link, call.register &&& directionBit = 0) ∧
      (∀ (σ τ η ζ : Type) (first : TwoWireBus σ η) (second : FourWireBus τ ζ), first.Answers →
        second.Answers → ∀ binding, (Binding.registerBus (TwoWireLink.registerBus first)
          (FourWireLink.registerBus second)).Safe bridge boundary binding operations endpoint) ∧
      (∀ rig, Bench.TwoWireRig.registerBus.Safe bridge boundary rig operations endpoint) ∧
      (∀ rig, Bench.FourWireRig.registerBus.Safe bridge boundary rig operations endpoint) ∧
      (∀ link, Bench.Link.registerBus.Safe bridge boundary link operations endpoint) ∧
      (∀ (register : UInt16) (size total : Nat), 0 < size →
        register.toNat + total ≤ registerSpace → ∀ piece ∈ Span.split size total,
          ∃ target, registerAt register piece.offset = some target ∧
            target.toNat = register.toNat + piece.offset ∧
            0 < piece.length ∧ piece.length ≤ size) ∧
      ∀ (window : Window) (address : UInt64),
        (∀ bytes, (window.copyInto address bytes).outcome.Settled ∧
          (window.copyOut address bytes).outcome.Settled) ∧
        ∀ length extent, window.extent address length = .ok extent →
          extent.Within window.bytes ∧ extent.length = length := by
  have htwoWire := Bench.Faulty.answers_twoWire Bench.TwoWireTarget.answers_controller
  have hfourWire := Bench.Faulty.answers_fourWire Bench.FourWireTarget.answers_controller
  refine ⟨h.safe bridge hchunk hspace boundary operations endpoint, ?_, ?_, ?_, ?_, ?_, ?_, ?_,
    ?_⟩
  · intro σ η controller hcontroller link
    exact TwoWireLink.safe bridge boundary operations endpoint hcontroller link
  · intro σ η controller hcontroller link
    have hsafe := FourWireLink.safe bridge boundary operations endpoint hcontroller link
    refine ⟨hsafe, ?_⟩
    intro call hmem
    obtain ⟨hpos, _, hlimit⟩ := hsafe.reaches call hmem
    exact and_directionBit (Nat.lt_of_lt_of_le (Nat.lt_add_of_pos_right hpos) hlimit)
  · intro σ τ η ζ first second hfirst hsecond binding
    exact Binding.safe bridge boundary operations endpoint hfirst hsecond binding
  · exact TwoWireLink.safe bridge boundary operations endpoint htwoWire
  · exact FourWireLink.safe bridge boundary operations endpoint hfourWire
  · exact Binding.safe bridge boundary operations endpoint htwoWire hfourWire
  · intro register size total hsize hspace piece hmem
    exact Span.registerAt_of_mem_split hsize hspace hmem
  · intro window address
    refine ⟨fun bytes => ?_, fun length extent => window.extent_within⟩
    exact ⟨window.settled_copyInto address bytes, window.settled_copyOut address bytes⟩

open Bench in
/-- A link with a fault in its second transaction: an access past the last register, a long
one that meets the fault, a transfer and an unknown command. -/
theorem no_operation_traps_faulty :
    let link : Link := .twoWire
      (LinkPlan.twoWire ⟨{ combined := false }, .zero, none, [⟨1, .noAcknowledge .data, 3⟩]⟩)
    let window : Window := ⟨0xFFFFFFFFFFFFFF00, Array.replicate 256 0xFF⟩
    let operations : List (Operation Window Nat) :=
      [.sensor (.read 0xFFFF [0, 0]), .sensor (.write 0 (List.replicate 3000 7)),
        .command Command.transfer.number 0xFFFFFFFFFFFFFFF0 window 0 false,
        .command 0 0 window 0 true]
    let run := Operation.runAll Readiness.bridge Link.registerBus Window.boundary operations
      (⟨Scratch.zero _, Readiness.bridge.idle⟩, link)
    0 < Link.registerBus.chunkSize link ∧ Link.registerBus.addressLimit link ≤ registerSpace ∧
      run.1.length = 4 ∧ ∀ answer ∈ run.1, answer.Settled := by
  intro link window operations run
  have hchunk : 0 < Link.registerBus.chunkSize link := by decide
  have hspace : Link.registerBus.addressLimit link ≤ registerSpace := by decide
  have hsafe := (no_operation_traps Readiness.bridge Link.answers_registerBus hchunk hspace
    Window.boundary operations ⟨Scratch.zero _, Readiness.bridge.idle⟩).1
  exact ⟨hchunk, hspace, hsafe.length_eq, hsafe.settled⟩

end SensorLink

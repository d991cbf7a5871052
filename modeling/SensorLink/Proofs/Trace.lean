/-
The calls that a run makes.

A recorder between the layers notes every call on the bus and at the boundary,
and how it ended, and changes nothing else.  The calls of a run are what the
recorder has noted at the end of it.

* `BusCall`, `Event` — a chunk call, and any call;
* `RegisterBus.traced`, `Boundary.traced` — a bus and a boundary with a recorder;
* `sim_traced` — the recorder changes nothing, by simulation;
* `sim_beside` — nor does what is beside a bus;
* `write_traced`, `read_traced`, `execute_traced` — the same for whole runs;
* `sendBlock_traced_of_ok`, `fetchBlock_traced_of_ok` — what is noted of a block;
* `Endpoint.calls` — the calls of a request.
-/
import SensorLink.Proofs.Simulation

namespace SensorLink

/-- A chunk call on a bus and its ending. -/
structure BusCall (ε : Type) where
  direction : Direction
  register : UInt16
  /-- The bytes to be written, or what the buffer held after a read. -/
  bytes : Bytes
  outcome : Outcome ε Unit
  deriving DecidableEq, Repr

/-- The number of bytes in a chunk call. -/
def BusCall.length {ε : Type} (call : BusCall ε) : Nat := call.bytes.length

/-- A call on a bus or at the boundary to caller memory.  Calls at the boundary
come with the failure that they reported. -/
inductive Event (ε : Type) where
  | bus (call : BusCall ε)
  | check (address : UInt64) (length : Nat) (failure : Option CopyError)
  | copyIn (address : UInt64) (length : Nat) (failure : Option CopyError)
  | copyOut (address : UInt64) (data : Bytes) (failure : Option CopyError)

namespace Event

variable {ε : Type}

/-- The chunk call, if the event is one. -/
def busCall? : Event ε → Option (BusCall ε)
  | bus call => some call
  | check .. => none
  | copyIn .. => none
  | copyOut .. => none

/-- The chunk calls among the events. -/
def busCalls (log : List (Event ε)) : List (BusCall ε) :=
  log.filterMap busCall?

@[simp] theorem busCalls_nil : busCalls ([] : List (Event ε)) = [] := rfl

@[simp] theorem busCalls_append (log more : List (Event ε)) :
    busCalls (log ++ more) = busCalls log ++ busCalls more :=
  List.filterMap_append

@[simp] theorem busCalls_map_bus (calls : List (BusCall ε)) : busCalls (calls.map bus) = calls := by
  induction calls with
  | nil => rfl
  | cons call calls ih => exact congrArg (call :: ·) ih

@[simp] theorem busCalls_check (address : UInt64) (length : Nat) (failure : Option CopyError) :
    busCalls [(check address length failure : Event ε)] = [] := rfl

@[simp] theorem busCalls_copyIn (address : UInt64) (length : Nat) (failure : Option CopyError) :
    busCalls [(copyIn address length failure : Event ε)] = [] := rfl

@[simp] theorem busCalls_copyOut (address : UInt64) (data : Bytes) (failure : Option CopyError) :
    busCalls [(copyOut address data failure : Event ε)] = [] := rfl

end Event

variable {ω ε : Type}

/-- The failure that an answer reports. -/
def failureOf {α : Type} : Except CopyError α → Option CopyError
  | .ok _ => none
  | .error e => some e

/-- The bus with a recorder. -/
def RegisterBus.traced (bus : RegisterBus ω ε) : RegisterBus (ω × List (Event ε)) ε where
  chunkSize w := bus.chunkSize w.1
  addressLimit w := bus.addressLimit w.1
  readChunk register buffer := fun (w, log) =>
    match bus.readChunk register buffer w with
    | ⟨outcome, (filled, w)⟩ =>
      ⟨outcome, (filled, (w, log ++ [.bus ⟨.read, register, filled, outcome⟩]))⟩
  writeChunk register data := fun (w, log) =>
    match bus.writeChunk register data w with
    | ⟨outcome, w⟩ => ⟨outcome, (w, log ++ [.bus ⟨.write, register, data, outcome⟩])⟩
  length_readChunk register buffer w := bus.length_readChunk register buffer w.1

/-- The boundary with a recorder. -/
def Boundary.traced (boundary : Boundary ω) (ε : Type) : Boundary (ω × List (Event ε)) where
  check address length := fun (w, log) =>
    match boundary.check address length w with
    | (answer, w) => (answer, (w, log ++ [.check address length (failureOf answer)]))
  copyInto address destination := fun (w, log) =>
    match boundary.copyInto address destination w with
    | (answer, (filled, w)) =>
      (answer, (filled, (w, log ++ [.copyIn address destination.length (failureOf answer)])))
  copyOut address data := fun (w, log) =>
    match boundary.copyOut address data w with
    | (answer, w) => (answer, (w, log ++ [.copyOut address data (failureOf answer)]))
  copiesWhole address length := fun (w, log) => by
    cases boundary.copiesWhole address length w with
    | filled bytes v hlength hcopy =>
      refine .filled bytes (v, log ++ [.copyIn address length none]) hlength ?_
      rintro destination rfl
      simp only [hcopy destination rfl, failureOf]
    | refused e v hcopy =>
      refine .refused e (v, log ++ [.copyIn address length (some e)]) ?_
      rintro destination rfl
      simp only [hcopy destination rfl, failureOf]

theorem Boundary.copyIn_traced {boundary : Boundary ω} {address : UInt64} {length : Nat} {w v : ω}
    {answer : Except CopyError (Vector UInt8 length)}
    (h : boundary.copyIn address length w = (answer, v)) (log : List (Event ε)) :
    (boundary.traced ε).copyIn address length (w, log)
      = (answer, (v, log ++ [.copyIn address length (failureOf answer)])) := by
  have hlength : (List.replicate length (0 : UInt8)).length = length := List.length_replicate
  cases answer with
  | ok bytes =>
    refine copyIn_of_filled ?_
    simp only [traced, copyInto_of_ok h hlength, hlength, failureOf]
  | error e =>
    have hcopy : (boundary.traced ε).copyInto address (List.replicate length 0) (w, log)
        = (.error e, (List.replicate length 0, (v, log ++ [.copyIn address length (some e)]))) := by
      simp only [traced, copyInto_of_error h hlength, hlength, failureOf]
    exact copyIn_of_refused hcopy

theorem Outcome.mapError_eq_self {δ α : Type} {f : δ → δ} (h : ∀ e, f e = e)
    (outcome : Outcome δ α) :
    outcome.mapError f = outcome := by
  cases outcome with
  | error e => exact congrArg Outcome.error (h e)
  | _ => rfl

theorem Run.Sim.of_eq {ω' α : Type} {R : ω → ω' → Prop} {run : Run ω ε α} {run' : Run ω' ε α}
    (houtcome : run'.outcome = run.outcome) (hworld : R run.world run'.world) :
    Run.Sim R id run run' := by
  refine ⟨run.outcome, run.world, run'.world, rfl, ?_, hworld⟩
  rw [Outcome.mapError_eq_self (f := id) (fun _ => rfl), ← houtcome]

@[simp] theorem AccessError.map_id (e : AccessError ε) : e.map id = e := by
  cases e <;> rfl

@[simp] theorem RequestError.map_id (e : RequestError ε) : e.map id = e := by
  cases e with
  | access cause => rw [RequestError.map, AccessError.map_id]
  | _ => rfl

/-- A bus does what it does. -/
theorem RegisterBus.sim_self (bus : RegisterBus ω ε) : bus.Sim bus Eq id where
  chunkSize := by
    rintro w _ rfl
    rfl
  addressLimit := by
    rintro w _ rfl
    rfl
  readChunk := by
    rintro register buffer w _ rfl
    exact .of_eq rfl (.intro _ rfl)
  writeChunk := by
    rintro register data w _ rfl
    exact .of_eq rfl rfl

/-- A recorder beside a world. -/
def Recorded (w : ω) (p : ω × List (Event ε)) : Prop :=
  p.1 = w

theorem RegisterBus.sim_traced (bus : RegisterBus ω ε) : bus.Sim bus.traced Recorded id where
  chunkSize := by
    rintro _ ⟨w, log⟩ rfl
    rfl
  addressLimit := by
    rintro _ ⟨w, log⟩ rfl
    rfl
  readChunk := by
    rintro register buffer _ ⟨w, log⟩ rfl
    exact .of_eq rfl (.intro _ rfl)
  writeChunk := by
    rintro register data _ ⟨w, log⟩ rfl
    exact .of_eq rfl rfl

theorem Boundary.sim_traced (boundary : Boundary ω) (ε : Type) :
    boundary.Sim (boundary.traced ε) Recorded where
  check := by
    rintro address length _ ⟨w, log⟩ rfl
    exact ⟨_, _, _, rfl, rfl, rfl⟩
  copyIn := by
    rintro address length _ ⟨w, log⟩ rfl
    exact ⟨_, _, _, rfl, Boundary.copyIn_traced rfl log, rfl⟩
  copyOut := by
    rintro address data _ ⟨w, log⟩ rfl
    exact ⟨_, _, _, rfl, rfl, rfl⟩

/-- What was noted before does not matter to a bus with a recorder. -/
theorem RegisterBus.sim_earlier (bus : RegisterBus ω ε) (earlier : List (Event ε)) :
    bus.traced.Sim bus.traced (fun p p' => p' = (p.1, earlier ++ p.2)) id where
  chunkSize := by
    rintro ⟨w, log⟩ _ rfl
    rfl
  addressLimit := by
    rintro ⟨w, log⟩ _ rfl
    rfl
  readChunk := by
    rintro register buffer ⟨w, log⟩ _ rfl
    refine .of_eq rfl (.intro _ ?_)
    simp only [List.append_assoc]
  writeChunk := by
    rintro register data ⟨w, log⟩ _ rfl
    refine .of_eq rfl ?_
    simp only [RegisterBus.traced, List.append_assoc]

theorem Boundary.sim_earlier (boundary : Boundary ω) (earlier : List (Event ε)) :
    (boundary.traced ε).Sim (boundary.traced ε) (fun p p' => p' = (p.1, earlier ++ p.2)) where
  check := by
    rintro address length ⟨w, log⟩ _ rfl
    exact ⟨_, _, _, rfl, rfl, by simp only [List.append_assoc]⟩
  copyIn := by
    rintro address length ⟨w, log⟩ _ rfl
    refine ⟨_, _, _, copyIn_traced rfl log, copyIn_traced rfl (earlier ++ log), ?_⟩
    simp only [List.append_assoc]
  copyOut := by
    rintro address data ⟨w, log⟩ _ rfl
    exact ⟨_, _, _, rfl, rfl, by simp only [List.append_assoc]⟩

namespace RegisterBus

/-- A write ends as it does without the recorder. -/
theorem write_traced (bus : RegisterBus ω ε) (register : UInt16) (data : Bytes) (w : ω)
    (log : List (Event ε)) :
    (bus.traced.write register data (w, log)).outcome = (bus.write register data w).outcome ∧
      (bus.traced.write register data (w, log)).world.1 = (bus.write register data w).world := by
  obtain ⟨outcome, v, v', hrun, hrun', hv⟩ :=
    bus.sim_traced.write register data (show Recorded w (w, log) from rfl)
  rw [hrun, hrun']
  exact ⟨outcome.mapError_eq_self AccessError.map_id, hv⟩

/-- A read ends as it does without the recorder. -/
theorem read_traced (bus : RegisterBus ω ε) (register : UInt16) (buffer : Bytes) (w : ω)
    (log : List (Event ε)) :
    (bus.traced.read register buffer (w, log)).outcome = (bus.read register buffer w).outcome ∧
      (bus.traced.read register buffer (w, log)).world.1 = (bus.read register buffer w).world.1 ∧
      (bus.traced.read register buffer (w, log)).world.2.1
        = (bus.read register buffer w).world.2 := by
  obtain ⟨outcome, _, _, hrun, hrun', ⟨filled, hv⟩⟩ :=
    bus.sim_traced.read register buffer (show Recorded w (w, log) from rfl)
  rw [hrun, hrun']
  exact ⟨outcome.mapError_eq_self AccessError.map_id, rfl, hv⟩

theorem sim_beside {σ : Type} (bus : RegisterBus ω ε) (s : σ) :
    bus.Sim (bus.beside σ) (fun w p => p = (w, s)) id where
  chunkSize := by
    rintro w _ rfl
    rfl
  addressLimit := by
    rintro w _ rfl
    rfl
  readChunk := by
    rintro register buffer w _ rfl
    exact .of_eq rfl (.intro _ rfl)
  writeChunk := by
    rintro register data w _ rfl
    exact .of_eq rfl rfl

theorem write_beside {σ : Type} (bus : RegisterBus ω ε) (register : UInt16) (data : Bytes) (w : ω)
    (s : σ) :
    (bus.beside σ).write register data (w, s)
      = (bus.write register data w).mapWorld fun w => (w, s) := by
  obtain ⟨outcome, v, _, hrun, hrun', rfl⟩ := (bus.sim_beside s).write register data (w := w) rfl
  rw [hrun, hrun', outcome.mapError_eq_self AccessError.map_id]
  rfl

theorem read_beside {σ : Type} (bus : RegisterBus ω ε) (register : UInt16) (buffer : Bytes) (w : ω)
    (s : σ) :
    (bus.beside σ).read register buffer (w, s)
      = (bus.read register buffer w).mapWorld fun p => (p.1, (p.2, s)) := by
  obtain ⟨outcome, _, _, hrun, hrun', ⟨filled, rfl⟩⟩ :=
    (bus.sim_beside s).read register buffer (w := w) rfl
  rw [hrun, hrun', outcome.mapError_eq_self AccessError.map_id]
  rfl

/-- A recorder notes the same calls if there is something else beside the bus. -/
theorem sim_traced_beside {σ : Type} (bus : RegisterBus ω ε) (s : σ) :
    bus.traced.Sim (bus.beside σ).traced (fun p p' => p' = ((p.1, s), p.2)) id where
  chunkSize := by
    rintro ⟨w, log⟩ _ rfl
    rfl
  addressLimit := by
    rintro ⟨w, log⟩ _ rfl
    rfl
  readChunk := by
    rintro register buffer ⟨w, log⟩ _ rfl
    exact .of_eq rfl (.intro _ rfl)
  writeChunk := by
    rintro register data ⟨w, log⟩ _ rfl
    exact .of_eq rfl rfl

theorem write_traced_beside {σ : Type} (bus : RegisterBus ω ε) (register : UInt16) (data : Bytes)
    (w : ω) (s : σ) (log : List (Event ε)) :
    (bus.beside σ).traced.write register data ((w, s), log)
      = (bus.traced.write register data (w, log)).mapWorld fun p => ((p.1, s), p.2) := by
  obtain ⟨outcome, v, _, hrun, hrun', rfl⟩ :=
    (bus.sim_traced_beside s).write register data (w := (w, log)) rfl
  rw [hrun, hrun', outcome.mapError_eq_self AccessError.map_id]
  rfl

theorem read_traced_beside {σ : Type} (bus : RegisterBus ω ε) (register : UInt16) (buffer : Bytes)
    (w : ω) (s : σ) (log : List (Event ε)) :
    (bus.beside σ).traced.read register buffer ((w, s), log)
      = (bus.traced.read register buffer (w, log)).mapWorld fun p =>
        (p.1, ((p.2.1, s), p.2.2)) := by
  obtain ⟨outcome, _, _, hrun, hrun', ⟨filled, rfl⟩⟩ :=
    (bus.sim_traced_beside s).read register buffer (w := (w, log)) rfl
  rw [hrun, hrun', outcome.mapError_eq_self AccessError.map_id]
  rfl

end RegisterBus

/-! ### A caller beside the bus -/

section Beside

variable {μ : Type} {boundary : Boundary μ} {m m' : μ}

theorem Boundary.check_traced_after {address : UInt64} {length : Nat}
    {answer : Except CopyError Unit} (h : boundary.check address length m = (answer, m')) (w : ω)
    (log : List (Event ε)) :
    ((boundary.after ω).traced ε).check address length ((w, m), log)
      = (answer, ((w, m'), log ++ [.check address length (failureOf answer)])) := by
  simp only [traced, check_after h]

theorem Boundary.copyIn_traced_after {address : UInt64} {length : Nat}
    {answer : Except CopyError (Vector UInt8 length)}
    (h : boundary.copyIn address length m = (answer, m')) (w : ω) (log : List (Event ε)) :
    ((boundary.after ω).traced ε).copyIn address length ((w, m), log)
      = (answer, ((w, m'), log ++ [.copyIn address length (failureOf answer)])) :=
  copyIn_traced (copyIn_after h w) log

theorem Boundary.copyOut_traced_after {address : UInt64} {data : Bytes}
    {answer : Except CopyError Unit} (h : boundary.copyOut address data m = (answer, m')) (w : ω)
    (log : List (Event ε)) :
    ((boundary.after ω).traced ε).copyOut address data ((w, m), log)
      = (answer, ((w, m'), log ++ [.copyOut address data (failureOf answer)])) := by
  simp only [traced, copyOut_after h]

namespace Endpoint

variable {bus : RegisterBus ω ε} {register : UInt16} {address : UInt64} {block : Span}
  {staging : Staging} {w v : ω} {log : List (Event ε)} {calls : List (BusCall ε)}

/-- A block that is not fetched is noted as its copy. -/
theorem sendBlock_traced_of_error {e : CopyError} (hle : block.length ≤ stagingSize)
    (hcopy : boundary.copyIn address block.length m = (.error e, m')) :
    sendBlock (bus.beside μ).traced ((boundary.after ω).traced ε) register address block staging
        ((w, m), log)
      = ⟨.error (.buffer e),
          (staging, ((w, m'), log ++ [.copyIn address block.length (some e)]))⟩ :=
  sendBlock_of_error hle (Boundary.copyIn_traced_after hcopy w log)

/-- A block that is sent is noted as its copy and the calls of its write. -/
theorem sendBlock_traced_of_ok {bytes : Vector UInt8 block.length}
    {outcome : Outcome (AccessError ε) Unit} (hle : block.length ≤ stagingSize)
    (hcopy : boundary.copyIn address block.length m = (.ok bytes, m'))
    (hwrite : bus.traced.write register bytes.toList
        (w, log ++ [.copyIn address block.length none])
      = ⟨outcome, (v, log ++ [.copyIn address block.length none] ++ calls.map .bus)⟩) :
    sendBlock (bus.beside μ).traced ((boundary.after ω).traced ε) register address block staging
        ((w, m), log)
      = ⟨wholeTransfer block.offset outcome, (staging.put bytes.toList,
          ((v, m'), log ++ .copyIn address block.length none :: calls.map .bus))⟩ := by
  rw [List.append_cons]
  refine sendBlock_of_ok hle (Boundary.copyIn_traced_after hcopy w log) ?_
  rw [RegisterBus.write_traced_beside, failureOf, hwrite]
  rfl

/-- A block that is read is noted as the calls of its read and its copy. -/
theorem fetchBlock_traced_of_ok {filled : Bytes} {answer : Except CopyError Unit}
    (hread : bus.traced.read register (staging.front block.length) (w, log)
      = ⟨.ok (), (filled, (v, log ++ calls.map .bus))⟩)
    (hcopy : boundary.copyOut address ((staging.put filled).front block.length) m = (answer, m')) :
    fetchBlock (bus.beside μ).traced ((boundary.after ω).traced ε) register address block staging
        ((w, m), log)
      = ⟨copyEnding answer, (staging.put filled, ((v, m'), log ++ (calls.map .bus
          ++ [.copyOut address ((staging.put filled).front block.length)
            (failureOf answer)])))⟩ := by
  rw [← List.append_assoc]
  refine fetchBlock_of_ok ?_ (Boundary.copyOut_traced_after hcopy v _)
  rw [RegisterBus.read_traced_beside, hread]
  rfl

/-- A block that is not read to its end is noted as the calls of its read. -/
theorem fetchBlock_traced_of_ne {filled : Bytes} {outcome : Outcome (AccessError ε) Unit}
    (hread : bus.traced.read register (staging.front block.length) (w, log)
      = ⟨outcome, (filled, (v, log ++ calls.map .bus))⟩) (hne : outcome ≠ .ok ()) (m : μ) :
    fetchBlock (bus.beside μ).traced ((boundary.after ω).traced ε) register address block staging
        ((w, m), log)
      = ⟨wholeTransfer block.offset outcome,
          (staging.put filled, ((v, m), log ++ calls.map .bus))⟩ := by
  refine fetchBlock_of_ne ?_ hne
  rw [RegisterBus.read_traced_beside, hread]
  rfl

end Endpoint

end Beside

namespace Endpoint

/-- The calls that a request makes, in order. -/
def calls (bus : RegisterBus ω ε) (boundary : Boundary ω) (request : Request) (staging : Staging)
    (w : ω) : List (Event ε) :=
  (execute bus.traced (boundary.traced ε) request staging (w, [])).world.2.2

/-- A request ends as it does without the recorder. -/
theorem execute_traced (bus : RegisterBus ω ε) (boundary : Boundary ω) (request : Request)
    (staging : Staging) (w : ω) :
    (execute bus.traced (boundary.traced ε) request staging (w, [])).outcome
        = (execute bus boundary request staging w).outcome ∧
      (execute bus.traced (boundary.traced ε) request staging (w, [])).world.2.1
        = (execute bus boundary request staging w).world.2 := by
  obtain ⟨outcome, _, _, hrun, hrun', ⟨staging, hv⟩⟩ :=
    sim_execute bus.sim_traced (boundary.sim_traced ε) request staging
      (show Recorded w (w, []) from rfl)
  rw [hrun, hrun']
  exact ⟨outcome.mapError_eq_self RequestError.map_id, hv⟩

end Endpoint

end SensorLink
